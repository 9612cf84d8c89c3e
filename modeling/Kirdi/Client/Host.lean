import Kirdi.Common.Protocol

/-!
# `Client.Host` — what the client changes on its machine

The files, the route table and (on macOS) the dynamic store that the commands of `setup_routes`,
`setup_dns` and their teardowns act on, one function a command. `cp`, `mv` and shell redirection succeed;
an `ip route add` or `route add` may fail for a reason of its own, and does when the prefix is taken, and
then changes nothing.

`setup_dns` pastes `dns_server` into single quotes of a command for `std::system`. The shell reads the command up to
its first NUL, and what stands after a quote in `dns_server` as commands of its own (`endsQuotes`); what these do to
the DNS settings is a parameter (`Scripted`).
-/

namespace Kirdi
namespace Client

inductive Platform where
  | linux
  | macos
  deriving DecidableEq, Repr

inductive Prefix where
  | lowHalf                 -- 0.0.0.0/1
  | highHalf                -- 128.0.0.0/1
  | host (ip : Bytes)       -- ip/32
  deriving DecidableEq, Repr

inductive Route where
  | via (gateway : Bytes)
  | dev (iface : Bytes)
  deriving DecidableEq, Repr

structure Host where
  resolvConf : Bytes                  -- /etc/resolv.conf
  backup     : Option Bytes           -- /etc/resolv.conf.kirdi-backup
  scutilDns  : Option Bytes           -- State:/Network/Service/kirdi-vpn/DNS
  routes     : Prefix → Option Route

/-- The DNS settings after commands that `dns_server` spells. -/
structure Scripted where
  resolvConf : Bytes
  backup     : Option Bytes
  scutilDns  : Option Bytes
  deriving DecidableEq, Repr

/-- `dns_server` has a quote that ends those it is pasted into. -/
def endsQuotes (server : Bytes) : Bool := (server.takeWhile (· ≠ 0)).contains 39

namespace Host

/-- `cp /etc/resolv.conf /etc/resolv.conf.kirdi-backup`. -/
def cpBackup (h : Host) : Host := { h with backup := some h.resolvConf }

def scripted (h : Host) (s : Scripted) : Host :=
  { h with resolvConf := s.resolvConf, backup := s.backup, scutilDns := s.scutilDns }

/-- `echo 'nameserver S' > /etc/resolv.conf`. -/
def echoNameserver (h : Host) (server : Bytes) (s : Scripted) : Host :=
  if endsQuotes server then h.scripted s
  else if server.contains 0 then h       -- the quotes are left open, and the shell runs nothing
  else if server.contains 92 then { h with resolvConf := s.resolvConf }  -- what `echo` makes of a backslash
  else { h with resolvConf := ascii "nameserver " ++ server ++ ascii "\n" }

/-- `[ -f /etc/resolv.conf.kirdi-backup ] && mv /etc/resolv.conf.kirdi-backup /etc/resolv.conf`. -/
def mvBackup (h : Host) : Host :=
  match h.backup with
  | none => h
  | some text => { h with resolvConf := text, backup := none }

/-- `printf '… S …' | scutil`. -/
def scutilSet (h : Host) (server : Bytes) (s : Scripted) : Host :=
  if endsQuotes server then h.scripted s
  else if server.contains 0 then h
  else if server.any fun c => c == 37 || c == 92 || c == 10 then
    -- directives of `printf`, or further lines for `scutil`
    { h with scutilDns := s.scutilDns }
  else { h with scutilDns := some server }

def scutilRemove (h : Host) : Host := { h with scutilDns := none }

/-- `ip route add P …`, `route -n add …`: the table afterwards, and whether the command succeeded. -/
def routeAdd (h : Host) (p : Prefix) (r : Route) (ok : Bool) : Host × Bool :=
  if ok && (h.routes p).isNone then ({ h with routes := Function.update h.routes p (some r) }, true)
  else (h, false)

/-- `ip route del P`, `route -n delete …`. -/
def routeDel (h : Host) (p : Prefix) : Host := { h with routes := Function.update h.routes p none }

variable {h : Host} {p q : Prefix}

@[simp] theorem routeDel_self : (h.routeDel p).routes p = none := Function.update_self _ _ _

/-- The commands of `setup_dns` leave the routes alone. -/
theorem echoNameserver_routes (server : Bytes) (s : Scripted) : (h.echoNameserver server s).routes = h.routes := by
  unfold echoNameserver
  repeat' split
  all_goals rfl

theorem scutilSet_routes (server : Bytes) (s : Scripted) : (h.scutilSet server s).routes = h.routes := by
  unfold scutilSet
  repeat' split
  all_goals rfl

theorem routeDel_of_ne (hq : q ≠ p) : (h.routeDel p).routes q = h.routes q := Function.update_of_ne hq _ _

end Host
end Client
end Kirdi
