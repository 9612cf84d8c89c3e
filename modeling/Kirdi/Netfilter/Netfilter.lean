import Kirdi.Client.Ifconfig
import Kirdi.Common.Inet
import Kirdi.Lib.EventMachine
import Kirdi.Lib.RuleChain

/-!
# `Netfilter.Netfilter` — the packet filter that the server shares with its machine

Before it serves anybody the server turns forwarding on and puts four rules into the packet filter, each by a
pair of commands: `iptables -C` looks for the rule, `iptables -A` appends it. The installer runs the same
commands from a script. The commands are texts; what a rule is, is what `iptables` makes of the words that the
shell makes of the text (`parseCommand`).

The machine is run by others too: programs with rules of their own, and reboots, after which the tables are
what the installer saved, if the system restores that, or empty.
-/

set_option linter.dupNamespace false

namespace Kirdi
namespace Netfilter

open Inet RuleChain

/-! ## Rules -/

inductive Target where
  | accept
  | masquerade
  | tcpmss (clamp : Bool)
  | other (name : Bytes)      -- of another program: a verdict, or a chain of its own
  deriving DecidableEq, Repr

/-- The parts of a rule that were given. -/
structure Rule where
  inIface  : Option Bytes
  outIface : Option Bytes
  source   : Option (UInt32 × ℕ)        -- an address in host order, the length of its prefix
  protocol : Option Bytes
  tcpFlags : Option (Bytes × Bytes)     -- the flags looked at, those that are set
  state    : Option Bytes
  target   : Option Target
  deriving DecidableEq, Repr

def Rule.empty : Rule := ⟨none, none, none, none, none, none, none⟩

inductive Table where
  | filter
  | nat
  | mangle
  deriving DecidableEq, Repr

inductive Op where
  | check
  | append
  deriving DecidableEq, Repr

structure Command where
  op    : Op
  table : Table
  chain : Bytes
  rule  : Rule
  deriving DecidableEq, Repr

/-- A number in decimal. -/
def parseDecimal : Bytes → Option ℕ
  | [] => none
  | text => text.foldl (fun n c => if 48 ≤ c ∧ c ≤ 57 then n.map (· * 10 + (c.toNat - 48)) else none) (some 0)

/-- `10.8.0.0/24`. -/
def parseSource (text : Bytes) : Option (UInt32 × ℕ) :=
  match inetPton (text.takeWhile (· ≠ 47)), parseDecimal ((text.dropWhile (· ≠ 47)).drop 1) with
  | some a, some len => if len ≤ 32 then some (ntohl a, len) else none
  | _, _ => none

def parseTarget (name : Bytes) : Target :=
  if name = ascii "ACCEPT" then .accept
  else if name = ascii "MASQUERADE" then .masquerade
  else if name = ascii "TCPMSS" then .tcpmss false
  else .other name

/-- The options of a rule. `--state` is known once `-m state` is there, `--tcp-flags` once `-p tcp` is, and
    `--clamp-mss-to-pmtu` belongs to `TCPMSS`. -/
def parseSpec (modules : List Bytes) (r : Rule) : List Bytes → Option Rule
  | [] => some r
  | opt :: rest =>
      if opt = ascii "--clamp-mss-to-pmtu" then
        if r.target = some (.tcpmss false) then
          parseSpec modules { r with target := some (.tcpmss true) } rest
        else none
      else
        match rest with
        | [] => none
        | arg :: rest =>
            if opt = ascii "-i" then parseSpec modules { r with inIface := some arg } rest
            else if opt = ascii "-o" then parseSpec modules { r with outIface := some arg } rest
            else if opt = ascii "-s" then
              match parseSource arg with
              | some source => parseSpec modules { r with source := some source } rest
              | none => none
            else if opt = ascii "-p" then parseSpec (arg :: modules) { r with protocol := some arg } rest
            else if opt = ascii "-m" then parseSpec (arg :: modules) r rest
            else if opt = ascii "--state" then
              if ascii "state" ∈ modules then parseSpec modules { r with state := some arg } rest else none
            else if opt = ascii "-j" then parseSpec modules { r with target := some (parseTarget arg) } rest
            else if opt = ascii "--tcp-flags" then
              match rest with
              | [] => none
              | set :: rest =>
                  if ascii "tcp" ∈ modules then parseSpec modules { r with tcpFlags := some (arg, set) } rest
                  else none
            else none

def parseTable (name : Bytes) : Option Table :=
  if name = ascii "filter" then some .filter
  else if name = ascii "nat" then some .nat
  else if name = ascii "mangle" then some .mangle
  else none

def parseOp (word : Bytes) : Option Op :=
  if word = ascii "-C" then some .check else if word = ascii "-A" then some .append else none

/-- What follows the table. -/
def parseOn (table : Table) : List Bytes → Option Command
  | op :: chain :: spec =>
      match parseOp op, parseSpec [] .empty spec with
      | some op, some rule => some ⟨op, table, chain, rule⟩
      | _, _ => none
  | _ => none

/-- `iptables [-t TABLE] -C|-A CHAIN SPEC`. -/
def parseCommand : List Bytes → Option Command
  | prog :: opt :: name :: rest =>
      if prog = ascii "iptables" then
        if opt = ascii "-t" then
          match parseTable name with
          | some table => parseOn table rest
          | none => none
        else parseOn .filter (opt :: name :: rest)
      else none
  | _ => none

/-! ## Packets -/

/-- What the rules look at. -/
structure Packet where
  inIface  : Bytes
  outIface : Bytes
  source   : UInt32           -- in host order
  protocol : Bytes
  tcpFlags : List Bytes       -- those that are set
  state    : Bytes            -- as the connection tracking has it
  deriving DecidableEq, Repr

inductive Verdict where
  | accept
  | masquerade
  | other (name : Bytes)
  deriving DecidableEq, Repr

/-- A name that ends in `+` stands for all that begin so. -/
def ifaceMatches (name iface : Bytes) : Bool :=
  if name.getLast? = some 43 then name.dropLast.isPrefixOf iface else name == iface

/-- `A,B`. -/
def commaList (text : Bytes) : List Bytes := text.splitOn 44

/-- The packet has all that was given. -/
def Rule.applies (r : Rule) (p : Packet) : Bool :=
  (r.inIface.all fun name => ifaceMatches name p.inIface) &&
    (r.outIface.all fun name => ifaceMatches name p.outIface) &&
    (r.source.all fun net => p.source.toNat / 2 ^ (32 - net.2) == net.1.toNat / 2 ^ (32 - net.2)) &&
    (r.protocol.all fun name => name == p.protocol) &&
    (r.tcpFlags.all fun flags =>
      (commaList flags.1).all fun flag => p.tcpFlags.contains flag == (commaList flags.2).contains flag) &&
    (r.state.all fun states => (commaList states).contains p.state)

/-- What a rule says about a packet; `others` is what a target of another program says. -/
def Rule.decides (others : Bytes → Packet → Option Verdict) (r : Rule) (p : Packet) : Option Verdict :=
  if r.applies p then
    match r.target with
    | some .accept => some .accept
    | some .masquerade => some .masquerade
    | some (.tcpmss _) => none          -- changes the packet, which goes on
    | some (.other name) => others name p
    | none => none
  else none

/-! ## The machine -/

structure Tables where
  rules : Table → Bytes → List Rule

def Tables.empty : Tables := ⟨fun _ _ => []⟩

def Tables.set (ts : Tables) (t : Table) (c : Bytes) (chain : List Rule) : Tables :=
  ⟨Function.update ts.rules t (Function.update (ts.rules t) c chain)⟩

structure Machine where
  tables    : Tables
  ipForward : Bool
  saved     : Option Tables      -- /etc/iptables/rules.v4, or what netfilter-persistent keeps
  sysctlD   : Bool               -- /etc/sysctl.d/99-kirdi.conf turns forwarding on

/-- `iptables`: the tables afterwards, and whether it succeeds. It may fail for a reason of its own. -/
def iptables (works : Bool) (ts : Tables) (words : List Bytes) : Tables × Bool :=
  match parseCommand words with
  | none => (ts, false)
  | some ⟨.check, t, c, r⟩ => (ts, works && decide (r ∈ ts.rules t c))
  | some ⟨.append, t, c, r⟩ => if works then (ts.set t c (ts.rules t c ++ [r]), true) else (ts, false)

/-- The words of a command whose errors go to `/dev/null`, or that has no redirection. -/
def shellWords (cmd : Bytes) : Option (List Bytes) :=
  Client.shell.words ((cmd.dropSuffix? (ascii " 2>/dev/null")).getD cmd)

/-- `std::system` of an `iptables` command. A text that is no simple command is not for the model to run. -/
def system (works : Bool) (ts : Tables) (cmd : Bytes) : Option (Tables × Bool) :=
  (shellWords cmd).map (iptables works ts)

/-! ## The server -/

/-- What the environment decides during `ensure_system_config`. -/
structure StartEnv where
  procReadable : Bool         -- `/proc/sys/net/ipv4/ip_forward` can be read
  sysctlWorks  : Bool
  route        : Bytes        -- what the pipeline that looks for the default route prints
  forwardIn    : Fate
  forwardOut   : Fate
  masquerade   : Fate
  mss          : Fate
  deriving DecidableEq, Repr

/-- `iface`: the first line as `fgets` reads it into 64 bytes. -/
def defaultInterface (output : Bytes) : Bytes :=
  let iface := (output.take 63).takeWhile fun c => c ≠ 10 && c ≠ 13 && c ≠ 0
  if iface.isEmpty then ascii "eth0" else iface

/-- `ensure_rule`. -/
def ensureRule (check add : Bytes) (f : Fate) (ts : Tables) : Option Tables :=
  match system f.checks ts check with
  | none => none
  | some (ts, true) => some ts
  | some (ts, false) => (system f.appends ts add).map Prod.fst

/-- `Server::ensure_system_config`. -/
def ensureSystemConfig (env : StartEnv) (m : Machine) : Option Machine :=
  let ipForward := if env.procReadable && m.ipForward then true else m.ipForward || env.sysctlWorks
  let iface := defaultInterface env.route
  (ensureRule
      (ascii "iptables -C FORWARD -i kirdi0 -j ACCEPT 2>/dev/null")
      (ascii "iptables -A FORWARD -i kirdi0 -j ACCEPT")
      env.forwardIn m.tables).bind fun ts =>
    (ensureRule
        (ascii "iptables -C FORWARD -o kirdi0 -m state --state RELATED,ESTABLISHED -j ACCEPT 2>/dev/null")
        (ascii "iptables -A FORWARD -o kirdi0 -m state --state RELATED,ESTABLISHED -j ACCEPT")
        env.forwardOut ts).bind fun ts =>
      (ensureRule
          (ascii "iptables -t nat -C POSTROUTING -s 10.8.0.0/24 -o " ++ iface ++ ascii " -j MASQUERADE 2>/dev/null")
          (ascii "iptables -t nat -A POSTROUTING -s 10.8.0.0/24 -o " ++ iface ++ ascii " -j MASQUERADE")
          env.masquerade ts).bind fun ts =>
        (ensureRule
            (ascii "iptables -t mangle -C FORWARD -p tcp --tcp-flags SYN,RST SYN -j TCPMSS --clamp-mss-to-pmtu 2>/dev/null")
            (ascii "iptables -t mangle -A FORWARD -p tcp --tcp-flags SYN,RST SYN -j TCPMSS --clamp-mss-to-pmtu")
            env.mss ts).map fun ts => { m with tables := ts, ipForward := ipForward }

/-! ## The installer -/

/-- What the environment decides during `setup_nat`. -/
structure InstallEnv where
  sysctlReads    : Bool
  sysctlWorks    : Bool
  confWritable   : Bool            -- `/etc/sysctl.d/99-kirdi.conf`
  route          : Option Bytes    -- what the pipeline prints, if it succeeds
  forwardIn      : Fate
  forwardOut     : Fate
  masquerade     : Fate
  mss            : Fate
  saves          : Bool            -- one of the two savers is there and works
  deriving DecidableEq, Repr

/-- A step of a script under `set -e`: the machine, and whether the script goes on. -/
def thenRun (s : Machine × Bool) (next : Machine → Machine × Bool) : Machine × Bool :=
  if s.2 then next s.1 else s

/-- `$(…)` drops NULs and the newlines at the end. -/
def substitution (output : Bytes) : Bytes :=
  ((output.filter (· ≠ 0)).reverse.dropWhile (· = 10)).reverse

/-- `if ! iptables -C …; then iptables -A …; fi`; the shell has the words already, `"$iface"` being one. -/
def addUnlessFound (check add : List Bytes) (f : Fate) (m : Machine) : Machine × Bool :=
  if (iptables f.checks m.tables check).2 then (m, true)
  else
    let (ts, ok) := iptables f.appends m.tables add
    ({ m with tables := ts }, ok)

/-- `iface` of `setup_nat`. -/
def installerInterface (output : Bytes) : Bytes :=
  if (substitution output).isEmpty then ascii "eth0" else substitution output

/-- The part of `setup_nat` that sees to the rules. -/
def setupRules (env : InstallEnv) (iface : Bytes) (m : Machine) : Machine × Bool :=
  let m₁ := addUnlessFound
    (["iptables", "-C", "FORWARD", "-i", "kirdi0", "-j", "ACCEPT"].map ascii)
    (["iptables", "-A", "FORWARD", "-i", "kirdi0", "-j", "ACCEPT"].map ascii) env.forwardIn m
  let m₂ := thenRun m₁ <| addUnlessFound
    (["iptables", "-C", "FORWARD", "-o", "kirdi0", "-m", "state", "--state", "RELATED,ESTABLISHED", "-j",
      "ACCEPT"].map ascii)
    (["iptables", "-A", "FORWARD", "-o", "kirdi0", "-m", "state", "--state", "RELATED,ESTABLISHED", "-j",
      "ACCEPT"].map ascii) env.forwardOut
  let m₃ := thenRun m₂ <| addUnlessFound
    (["iptables", "-t", "nat", "-C", "POSTROUTING", "-s", "10.8.0.0/24", "-o"].map ascii ++ [iface] ++
      ["-j", "MASQUERADE"].map ascii)
    (["iptables", "-t", "nat", "-A", "POSTROUTING", "-s", "10.8.0.0/24", "-o"].map ascii ++ [iface] ++
      ["-j", "MASQUERADE"].map ascii) env.masquerade
  thenRun m₃ <| addUnlessFound
    (["iptables", "-t", "mangle", "-C", "FORWARD", "-p", "tcp", "--tcp-flags", "SYN,RST", "SYN", "-j",
      "TCPMSS", "--clamp-mss-to-pmtu"].map ascii)
    (["iptables", "-t", "mangle", "-A", "FORWARD", "-p", "tcp", "--tcp-flags", "SYN,RST", "SYN", "-j",
      "TCPMSS", "--clamp-mss-to-pmtu"].map ascii) env.mss

/-- The part that turns forwarding on, for this boot and the next ones. -/
def enableForwarding (env : InstallEnv) (m : Machine) : Machine × Bool :=
  if env.sysctlReads && m.ipForward then (m, true)
  else if env.sysctlWorks then
    ({ m with ipForward := true, sysctlD := m.sysctlD || env.confWritable }, env.confWritable)
  else (m, false)

/-- From the search for the interface to the last rule. -/
def setupDetected (env : InstallEnv) (m : Machine) : Machine × Bool :=
  match env.route with
  | none => (m, false)
  | some output => setupRules env (installerInterface output) m

/-- `setup_nat`. -/
def setupNat (env : InstallEnv) (m : Machine) : Machine :=
  (thenRun (thenRun (enableForwarding env m) (setupDetected env)) fun m =>
    (if env.saves then { m with saved := some m.tables } else m, true)).1

/-! ## Whole runs -/

/-- `-i kirdi0 -j ACCEPT`. -/
def forwardInRule : Rule := { Rule.empty with inIface := some (ascii "kirdi0"), target := some .accept }

/-- `-o kirdi0 -m state --state RELATED,ESTABLISHED -j ACCEPT`. -/
def forwardOutRule : Rule :=
  { Rule.empty with
    outIface := some (ascii "kirdi0"), state := some (ascii "RELATED,ESTABLISHED"), target := some .accept }

/-- `-s 10.8.0.0/24 -o IFACE -j MASQUERADE`. -/
def masqueradeRule (iface : Bytes) : Rule :=
  { Rule.empty with source := some (0x0A080000, 24), outIface := some iface, target := some .masquerade }

/-- `-p tcp --tcp-flags SYN,RST SYN -j TCPMSS --clamp-mss-to-pmtu`. -/
def mssRule : Rule :=
  { Rule.empty with
    protocol := some (ascii "tcp"), tcpFlags := some (ascii "SYN,RST", ascii "SYN"), target := some (.tcpmss true) }

/-- A rule in one of the places where kirdi puts it. -/
def Own (t : Table) (c : Bytes) (r : Rule) : Bool :=
  match t with
  | .filter => c = ascii "FORWARD" && (r = forwardInRule || r = forwardOutRule)
  | .nat => c = ascii "POSTROUTING" && r = masqueradeRule (r.outIface.getD [])
  | .mangle => c = ascii "FORWARD" && r = mssRule

inductive Event where
  | serverStart (env : StartEnv)
  | install (env : InstallEnv)
  | reboot (restores : Bool)
  | others (t : Table) (c : Bytes) (chain : List Rule)

/-- One event. Other programs change rules of their own only. -/
def step (m : Machine) : Event → Option Machine
  | .serverStart env => ensureSystemConfig env m
  | .install env => some (setupNat env m)
  | .reboot restores =>
      some { m with tables := if restores then m.saved.getD .empty else .empty, ipForward := m.sysctlD }
  | .others t c chain =>
      if chain.filter (Own t c) = (m.tables.rules t c).filter (Own t c) then
        some { m with tables := m.tables.set t c chain }
      else none

/-! ## Tables -/

variable {ts : Tables} {t t' : Table} {c c' : Bytes} {r : Rule} {chain : List Rule} {f : Fate} {m m' : Machine}

theorem Tables.rules_set :
    (ts.set t c chain).rules t' c' = if t' = t ∧ c' = c then chain else ts.rules t' c' := by
  simp only [Tables.set]
  by_cases ht : t' = t
  · subst ht
    rw [Function.update_self]
    by_cases hc : c' = c
    · subst hc
      rw [Function.update_self, if_pos ⟨rfl, rfl⟩]
    · rw [Function.update_of_ne hc, if_neg fun h => hc h.2]
  · rw [Function.update_of_ne ht, if_neg fun h => ht h.1]

theorem Tables.set_self : ts.set t c (ts.rules t c) = ts := by
  unfold Tables.set
  rw [Function.update_eq_self, Function.update_eq_self]

/-- A check-and-append. -/
structure Edit where
  fate  : Fate
  table : Table
  chain : Bytes
  rule  : Rule

def Tables.edit (ts : Tables) (e : Edit) : Tables :=
  ts.set e.table e.chain (ensure e.fate (ts.rules e.table e.chain) e.rule)

/-- Several in a row. -/
def Tables.edits (ts : Tables) (es : List Edit) : Tables := es.foldl Tables.edit ts

end Netfilter
end Kirdi
