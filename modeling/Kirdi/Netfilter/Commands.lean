import Kirdi.Netfilter.Netfilter

/-!
# `Netfilter.Commands` — what the commands of a start and of an installation come to

The commands are texts, and the two of a pair are written out separately. Read the way the shell and `iptables`
read them, each pair speaks of one rule of one chain, so that what a start does to the tables is a list of
check-and-appends (`ensureSystemConfig_eq`). The installer makes the same edits in the same order, but its script
stops at the first command that fails (`setupNat_spec`).

The name of the interface is pasted into the text of the server without quotes: the commands are the ones that
are meant only when it is a plain word.
-/

set_option linter.dupNamespace false

namespace Kirdi
namespace Netfilter

open Inet RuleChain

variable {ts : Tables} {t : Table} {c : Bytes} {r : Rule} {m : Machine}

/-! ## The commands -/

/-- The command that a text is. -/
def commandOf (cmd : Bytes) : Option Command := (shellWords cmd).bind parseCommand

theorem iptables_check {works : Bool} {words : List Bytes} (h : parseCommand words = some ⟨.check, t, c, r⟩) :
    iptables works ts words = (ts, works && decide (r ∈ ts.rules t c)) := by
  unfold iptables
  rw [h]

theorem iptables_append {works : Bool} {words : List Bytes} (h : parseCommand words = some ⟨.append, t, c, r⟩) :
    iptables works ts words = if works then (ts.set t c (ts.rules t c ++ [r]), true) else (ts, false) := by
  unfold iptables
  rw [h]

/-- A command runs as its words do. -/
theorem system_eq {works : Bool} {cmd : Bytes} {command : Command} (h : commandOf cmd = some command) :
    ∃ words, parseCommand words = some command ∧ system works ts cmd = some (iptables works ts words) := by
  obtain ⟨words, hwords, hparse⟩ := Option.bind_eq_some_iff.mp h
  refine ⟨words, hparse, ?_⟩
  unfold system
  rw [hwords, Option.map_some]

/-- **`ensure_rule` is a check-and-append** when its two texts speak of one rule. -/
theorem ensureRule_eq {check add : Bytes} (hcheck : commandOf check = some ⟨.check, t, c, r⟩)
    (hadd : commandOf add = some ⟨.append, t, c, r⟩) (f : Fate) (ts : Tables) :
    ensureRule check add f ts = some (ts.edit ⟨f, t, c, r⟩) := by
  obtain ⟨words, hwords, hrunCheck⟩ := @system_eq ts f.checks check _ hcheck
  obtain ⟨words', hwords', hrunAdd⟩ := @system_eq ts f.appends add _ hadd
  unfold ensureRule Tables.edit ensure
  rw [hrunCheck, iptables_check hwords]
  cases hfound : f.checks && decide (r ∈ ts.rules t c) with
  | true =>
      show some ts = _
      rw [if_pos rfl, Tables.set_self]
  | false =>
      show (system f.appends ts add).map Prod.fst = _
      rw [hrunAdd, iptables_append hwords', if_neg Bool.false_ne_true]
      cases f.appends with
      | true => rfl
      | false =>
          rw [if_neg Bool.false_ne_true, if_neg Bool.false_ne_true, Tables.set_self]
          rfl

/-! ## The masquerade rule, whatever the interface is called -/

theorem parseSpec_masquerade (iface : Bytes) :
    parseSpec [] .empty [ascii "-s", ascii "10.8.0.0/24", ascii "-o", iface, ascii "-j", ascii "MASQUERADE"] =
      some (masqueradeRule iface) := by
  have hsource : parseSource (ascii "10.8.0.0/24") = some (0x0A080000, 24) := by decide +kernel
  have htarget : parseTarget (ascii "MASQUERADE") = .masquerade := by decide
  simp +decide only [parseSpec, hsource, htarget, if_true, if_false]
  rfl

/-- The words of the two commands. -/
def masqueradeWords (op iface : Bytes) : List Bytes :=
  [ascii "iptables", ascii "-t", ascii "nat", op, ascii "POSTROUTING", ascii "-s", ascii "10.8.0.0/24", ascii "-o",
    iface, ascii "-j", ascii "MASQUERADE"]

theorem parseCommand_masquerade {word : Bytes} {op : Op} (hop : parseOp word = some op) (iface : Bytes) :
    parseCommand (masqueradeWords word iface) = some ⟨op, .nat, ascii "POSTROUTING", masqueradeRule iface⟩ := by
  have htable : parseTable (ascii "nat") = some .nat := by decide
  rw [masqueradeWords, parseCommand, if_pos rfl, if_pos rfl, htable]
  simp only [parseOn, hop, parseSpec_masquerade]

theorem words_masquerade {word iface : Bytes} (hword : Client.shell.Word word) (hiface : Client.shell.Word iface) :
    Client.shell.words ([32].intercalate (masqueradeWords word iface)) = some (masqueradeWords word iface) := by
  refine (CommandLine.words_join_iff Client.separates_blank).mpr ?_
  have hfirst : ∀ w ∈ [ascii "iptables", ascii "-t", ascii "nat"], Client.shell.Word w := by decide +kernel
  have hmiddle : ∀ w ∈ [ascii "POSTROUTING", ascii "-s", ascii "10.8.0.0/24", ascii "-o"], Client.shell.Word w := by
    decide
  have hlast : ∀ w ∈ [ascii "-j", ascii "MASQUERADE"], Client.shell.Word w := by decide +kernel
  simp only [List.forall_mem_cons] at hfirst hmiddle hlast
  simp only [masqueradeWords, List.forall_mem_cons]
  exact ⟨hfirst.1, hfirst.2.1, hfirst.2.2.1, hword, hmiddle.1, hmiddle.2.1, hmiddle.2.2.1, hmiddle.2.2.2.1, hiface,
    hlast⟩

/-- A text with its errors sent to `/dev/null` is the command without. -/
theorem shellWords_quiet (cmd : Bytes) : shellWords (cmd ++ ascii " 2>/dev/null") = Client.shell.words cmd := by
  have hdrop : (cmd ++ ascii " 2>/dev/null").dropSuffix? (ascii " 2>/dev/null") = some cmd :=
    List.dropSuffix?_eq_some_iff.mpr ⟨ascii " 2>/dev/null", rfl, BEq.rfl⟩
  unfold shellWords
  rw [hdrop, Option.getD_some]

/-- A text that ends otherwise is read as it is. -/
theorem shellWords_of_last {cmd : Bytes} (h : cmd.getLast? ≠ some 108) : shellWords cmd = Client.shell.words cmd := by
  have hdrop : cmd.dropSuffix? (ascii " 2>/dev/null") = none := by
    refine Option.eq_none_iff_forall_ne_some.mpr fun p hp => h ?_
    obtain ⟨s, rfl, hs⟩ := List.dropSuffix?_eq_some_iff.mp hp
    rw [eq_of_beq hs, List.getLast?_append]
    rfl
  unfold shellWords
  rw [hdrop, Option.getD_none]

theorem commandOf_masqueradeCheck {iface : Bytes} (hiface : Client.shell.Word iface) :
    commandOf (ascii "iptables -t nat -C POSTROUTING -s 10.8.0.0/24 -o " ++ iface ++
      ascii " -j MASQUERADE 2>/dev/null") = some ⟨.check, .nat, ascii "POSTROUTING", masqueradeRule iface⟩ := by
  have hcut : ascii "iptables -t nat -C POSTROUTING -s 10.8.0.0/24 -o " ++ iface ++
      ascii " -j MASQUERADE 2>/dev/null" =
        [32].intercalate (masqueradeWords (ascii "-C") iface) ++ ascii " 2>/dev/null" := by
    have hhead : ascii "iptables -t nat -C POSTROUTING -s 10.8.0.0/24 -o " =
        [32].intercalate [ascii "iptables", ascii "-t", ascii "nat", ascii "-C", ascii "POSTROUTING", ascii "-s",
          ascii "10.8.0.0/24", ascii "-o"] ++ [32] := by decide +kernel
    have htail : ascii " -j MASQUERADE 2>/dev/null" =
        32 :: [32].intercalate [ascii "-j", ascii "MASQUERADE"] ++ ascii " 2>/dev/null" := by decide +kernel
    rw [hhead, htail]
    simp only [masqueradeWords, List.intercalate_cons_cons, List.intercalate_singleton, List.append_assoc,
      List.cons_append, List.nil_append]
  have hword : Client.shell.Word (ascii "-C") := by decide
  have hop : parseOp (ascii "-C") = some .check := by decide
  unfold commandOf
  rw [hcut, shellWords_quiet, words_masquerade hword hiface, Option.bind_some, parseCommand_masquerade hop]

theorem commandOf_masqueradeAdd {iface : Bytes} (hiface : Client.shell.Word iface) :
    commandOf (ascii "iptables -t nat -A POSTROUTING -s 10.8.0.0/24 -o " ++ iface ++ ascii " -j MASQUERADE") =
      some ⟨.append, .nat, ascii "POSTROUTING", masqueradeRule iface⟩ := by
  have hcut : ascii "iptables -t nat -A POSTROUTING -s 10.8.0.0/24 -o " ++ iface ++ ascii " -j MASQUERADE" =
      [32].intercalate (masqueradeWords (ascii "-A") iface) := by
    have hhead : ascii "iptables -t nat -A POSTROUTING -s 10.8.0.0/24 -o " =
        [32].intercalate [ascii "iptables", ascii "-t", ascii "nat", ascii "-A", ascii "POSTROUTING", ascii "-s",
          ascii "10.8.0.0/24", ascii "-o"] ++ [32] := by decide +kernel
    have htail : ascii " -j MASQUERADE" = 32 :: [32].intercalate [ascii "-j", ascii "MASQUERADE"] := by decide +kernel
    rw [hhead, htail]
    simp only [masqueradeWords, List.intercalate_cons_cons, List.intercalate_singleton, List.append_assoc,
      List.cons_append, List.nil_append]
  have hlast : (ascii "iptables -t nat -A POSTROUTING -s 10.8.0.0/24 -o " ++ iface ++
      ascii " -j MASQUERADE").getLast? ≠ some 108 := by
    have hend : (ascii " -j MASQUERADE").getLast? = some 69 := by decide
    rw [List.getLast?_append, hend]
    exact fun h => absurd (Option.some.inj h) (by decide)
  have hword : Client.shell.Word (ascii "-A") := by decide
  have hop : parseOp (ascii "-A") = some .append := by decide
  unfold commandOf
  rw [shellWords_of_last hlast, hcut, words_masquerade hword hiface, Option.bind_some, parseCommand_masquerade hop]

/-! ## A start -/

/-- The four edits of `ensure_system_config` and of `setup_nat`. -/
def ruleEdits (forwardIn forwardOut masquerade mss : Fate) (iface : Bytes) : List Edit :=
  [⟨forwardIn, .filter, ascii "FORWARD", forwardInRule⟩,
    ⟨forwardOut, .filter, ascii "FORWARD", forwardOutRule⟩,
    ⟨masquerade, .nat, ascii "POSTROUTING", masqueradeRule iface⟩,
    ⟨mss, .mangle, ascii "FORWARD", mssRule⟩]

def StartEnv.edits (env : StartEnv) : List Edit :=
  ruleEdits env.forwardIn env.forwardOut env.masquerade env.mss (defaultInterface env.route)

/-- **What a start does**, when the name of the interface is a plain word. -/
theorem ensureSystemConfig_eq {env : StartEnv} (hiface : Client.shell.Word (defaultInterface env.route))
    (m : Machine) :
    ensureSystemConfig env m =
      some { m with tables := m.tables.edits env.edits, ipForward := m.ipForward || env.sysctlWorks } := by
  have hforward : (if env.procReadable && m.ipForward then true else m.ipForward || env.sysctlWorks) =
      (m.ipForward || env.sysctlWorks) := by
    cases m.ipForward <;> cases env.procReadable <;> rfl
  -- the two texts of each pair speak of one rule
  have hinCheck : commandOf (ascii "iptables -C FORWARD -i kirdi0 -j ACCEPT 2>/dev/null") =
      some ⟨.check, .filter, ascii "FORWARD", forwardInRule⟩ := by decide +kernel
  have hinAdd : commandOf (ascii "iptables -A FORWARD -i kirdi0 -j ACCEPT") =
      some ⟨.append, .filter, ascii "FORWARD", forwardInRule⟩ := by decide +kernel
  have houtCheck : commandOf (ascii
        "iptables -C FORWARD -o kirdi0 -m state --state RELATED,ESTABLISHED -j ACCEPT 2>/dev/null") =
      some ⟨.check, .filter, ascii "FORWARD", forwardOutRule⟩ := by decide +kernel
  have houtAdd : commandOf (ascii
        "iptables -A FORWARD -o kirdi0 -m state --state RELATED,ESTABLISHED -j ACCEPT") =
      some ⟨.append, .filter, ascii "FORWARD", forwardOutRule⟩ := by decide +kernel
  have hmssCheck : commandOf (ascii
        "iptables -t mangle -C FORWARD -p tcp --tcp-flags SYN,RST SYN -j TCPMSS --clamp-mss-to-pmtu 2>/dev/null") =
      some ⟨.check, .mangle, ascii "FORWARD", mssRule⟩ := by decide +kernel
  have hmssAdd : commandOf (ascii
        "iptables -t mangle -A FORWARD -p tcp --tcp-flags SYN,RST SYN -j TCPMSS --clamp-mss-to-pmtu") =
      some ⟨.append, .mangle, ascii "FORWARD", mssRule⟩ := by decide +kernel
  unfold ensureSystemConfig
  rw [ensureRule_eq hinCheck hinAdd, Option.bind_some, ensureRule_eq houtCheck houtAdd, Option.bind_some,
    ensureRule_eq (commandOf_masqueradeCheck hiface) (commandOf_masqueradeAdd hiface), Option.bind_some,
    ensureRule_eq hmssCheck hmssAdd, Option.map_some, hforward]
  rfl

/-! ## An installation -/

def InstallEnv.edits (env : InstallEnv) : List Edit :=
  match env.route with
  | none => []
  | some output => ruleEdits env.forwardIn env.forwardOut env.masquerade env.mss (installerInterface output)

/-- A part of the script makes these edits in turn, and goes on only when it has made all of them. -/
def Performs (script : Machine → Machine × Bool) (es : List Edit) : Prop :=
  ∀ m, ∃ done, done <+: es ∧ (script m).1 = { m with tables := m.tables.edits done } ∧
    ((script m).2 = true → done = es)

theorem performs_addUnlessFound {check add : List Bytes} (hcheck : parseCommand check = some ⟨.check, t, c, r⟩)
    (hadd : parseCommand add = some ⟨.append, t, c, r⟩) (f : Fate) :
    Performs (addUnlessFound check add f) [⟨f, t, c, r⟩] := by
  intro m
  refine ⟨[⟨f, t, c, r⟩], List.prefix_rfl, ?_, fun _ => rfl⟩
  show _ = { m with tables := m.tables.edit ⟨f, t, c, r⟩ }
  unfold addUnlessFound Tables.edit ensure
  rw [iptables_check hcheck, iptables_append hadd]
  cases f.checks && decide (r ∈ m.tables.rules t c) with
  | true =>
      show m = _
      rw [if_pos rfl, Tables.set_self]
  | false =>
      rw [if_neg Bool.false_ne_true, if_neg Bool.false_ne_true]
      cases f.appends with
      | true => rfl
      | false => rw [if_neg Bool.false_ne_true, if_neg Bool.false_ne_true, Tables.set_self]

theorem thenRun_goes {s : Machine × Bool} {next : Machine → Machine × Bool} (h : s.2 = true) :
    thenRun s next = next s.1 := by
  unfold thenRun
  rw [if_pos h]

theorem thenRun_stops {s : Machine × Bool} {next : Machine → Machine × Bool} (h : s.2 = false) :
    thenRun s next = s := by
  unfold thenRun
  rw [if_neg (Bool.eq_false_iff.mp h)]

/-- **One part after another**: their edits in a row. -/
theorem Performs.andThen {first next : Machine → Machine × Bool} {es es' : List Edit} (hfirst : Performs first es)
    (hnext : Performs next es') : Performs (fun m => thenRun (first m) next) (es ++ es') := by
  intro m
  obtain ⟨done, hinit, hm, hall⟩ := hfirst m
  show ∃ done, done <+: es ++ es' ∧ (thenRun (first m) next).1 = { m with tables := m.tables.edits done } ∧
    ((thenRun (first m) next).2 = true → done = es ++ es')
  cases hgoes : (first m).2 with
  | false =>
      rw [thenRun_stops hgoes]
      exact ⟨done, hinit.trans (List.prefix_append _ _), hm, fun h => absurd (hgoes ▸ h) Bool.false_ne_true⟩
  | true =>
      obtain ⟨done', hinit', hm', hall'⟩ := hnext (first m).1
      obtain rfl := hall hgoes
      rw [thenRun_goes hgoes]
      refine ⟨done ++ done', (List.prefix_append_right_inj _).mpr hinit', ?_, fun h => by rw [hall' h]⟩
      rw [hm', hm]
      unfold Tables.edits
      rw [List.foldl_append]

theorem performs_setupRules (env : InstallEnv) (iface : Bytes) :
    Performs (setupRules env iface) (ruleEdits env.forwardIn env.forwardOut env.masquerade env.mss iface) := by
  have hinCheck : parseCommand (["iptables", "-C", "FORWARD", "-i", "kirdi0", "-j", "ACCEPT"].map ascii) =
      some ⟨.check, .filter, ascii "FORWARD", forwardInRule⟩ := by decide +kernel
  have hinAdd : parseCommand (["iptables", "-A", "FORWARD", "-i", "kirdi0", "-j", "ACCEPT"].map ascii) =
      some ⟨.append, .filter, ascii "FORWARD", forwardInRule⟩ := by decide +kernel
  have houtCheck : parseCommand (["iptables", "-C", "FORWARD", "-o", "kirdi0", "-m", "state", "--state",
        "RELATED,ESTABLISHED", "-j", "ACCEPT"].map ascii) =
      some ⟨.check, .filter, ascii "FORWARD", forwardOutRule⟩ := by decide +kernel
  have houtAdd : parseCommand (["iptables", "-A", "FORWARD", "-o", "kirdi0", "-m", "state", "--state",
        "RELATED,ESTABLISHED", "-j", "ACCEPT"].map ascii) =
      some ⟨.append, .filter, ascii "FORWARD", forwardOutRule⟩ := by decide +kernel
  have hmssCheck : parseCommand (["iptables", "-t", "mangle", "-C", "FORWARD", "-p", "tcp", "--tcp-flags", "SYN,RST",
        "SYN", "-j", "TCPMSS", "--clamp-mss-to-pmtu"].map ascii) =
      some ⟨.check, .mangle, ascii "FORWARD", mssRule⟩ := by decide +kernel
  have hmssAdd : parseCommand (["iptables", "-t", "mangle", "-A", "FORWARD", "-p", "tcp", "--tcp-flags", "SYN,RST",
        "SYN", "-j", "TCPMSS", "--clamp-mss-to-pmtu"].map ascii) =
      some ⟨.append, .mangle, ascii "FORWARD", mssRule⟩ := by decide +kernel
  have hmasqueradeCheck : parseCommand (masqueradeWords (ascii "-C") iface) =
      some ⟨.check, .nat, ascii "POSTROUTING", masqueradeRule iface⟩ := parseCommand_masquerade (by decide) iface
  have hmasqueradeAdd : parseCommand (masqueradeWords (ascii "-A") iface) =
      some ⟨.append, .nat, ascii "POSTROUTING", masqueradeRule iface⟩ := parseCommand_masquerade (by decide) iface
  exact (((performs_addUnlessFound hinCheck hinAdd _).andThen (performs_addUnlessFound houtCheck houtAdd _)).andThen
    (performs_addUnlessFound hmasqueradeCheck hmasqueradeAdd _)).andThen
      (performs_addUnlessFound hmssCheck hmssAdd _)

theorem performs_setupDetected (env : InstallEnv) : Performs (setupDetected env) env.edits := by
  unfold setupDetected InstallEnv.edits
  cases env.route with
  | none => exact fun m => ⟨[], List.prefix_rfl, rfl, fun _ => rfl⟩
  | some output => exact performs_setupRules env _

theorem enableForwarding_spec (env : InstallEnv) (m : Machine) :
    (enableForwarding env m).1.tables = m.tables ∧ (enableForwarding env m).1.saved = m.saved ∧
      (m.ipForward = true → (enableForwarding env m).1.ipForward = true) := by
  unfold enableForwarding
  split
  · exact ⟨rfl, rfl, id⟩
  · split
    · exact ⟨rfl, rfl, fun _ => rfl⟩
    · exact ⟨rfl, rfl, id⟩

/-- **What an installation does**: it makes the edits of a start one after another, as far as it comes; it saves
    the tables only when it has come through. -/
theorem setupNat_spec (env : InstallEnv) (m : Machine) :
    ∃ done, done <+: env.edits ∧ (setupNat env m).tables = m.tables.edits done ∧
      ((setupNat env m).saved = m.saved ∨ (setupNat env m).saved = some (m.tables.edits done)) ∧
      (m.ipForward = true → (setupNat env m).ipForward = true) := by
  obtain ⟨htables, hsaved, hforward⟩ := enableForwarding_spec env m
  unfold setupNat
  cases hgoes : (enableForwarding env m).2 with
  | false =>
      rw [thenRun_stops hgoes, thenRun_stops hgoes]
      exact ⟨[], List.nil_prefix, htables, Or.inl hsaved, hforward⟩
  | true =>
      obtain ⟨done, hinit, hm, -⟩ := performs_setupDetected env (enableForwarding env m).1
      rw [thenRun_goes hgoes]
      refine ⟨done, hinit, ?_⟩
      cases hends : (setupDetected env (enableForwarding env m).1).2 with
      | false =>
          rw [thenRun_stops hends, hm, htables]
          exact ⟨rfl, Or.inl hsaved, hforward⟩
      | true =>
          rw [thenRun_goes hends, hm, htables]
          cases env.saves with
          | false => exact ⟨rfl, Or.inl hsaved, hforward⟩
          | true => exact ⟨rfl, Or.inr rfl, hforward⟩

end Netfilter
end Kirdi
