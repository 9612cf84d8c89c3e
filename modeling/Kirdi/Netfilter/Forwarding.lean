import Kirdi.Netfilter.Commands

/-!
# `Netfilter.Forwarding` — what the rules come to over the life of a machine

A server is started again and again, the installer may run more than once, the machine reboots and other
programs have rules of their own. A rule of kirdi never has more copies than it had, or one, and one more for each
`iptables -C` that failed (`copies_bounded`).

What the rules mean does not depend on any of this. A chain keeps what it had in front, so nobody's packets are
decided in another way than before; the packets that nobody had decided are forwarded when they come from the
tunnel or answer something that did, and those of 10.8.0.0/24 leave with the address of the machine
(`forwarding_meaning`).
-/

set_option linter.dupNamespace false

namespace Kirdi
namespace Netfilter

open Inet RuleChain EventMachine

/-! ## Edits -/

variable {ts : Tables} {t : Table} {c : Bytes} {r : Rule} {m m' : Machine} {e : Event} {es : List Event}
  {todo : List Edit}

theorem Tables.rules_edit (ts : Tables) (e : Edit) :
    (ts.edit e).rules t c = if t = e.table ∧ c = e.chain then ensure e.fate (ts.rules t c) e.rule else ts.rules t c := by
  unfold Tables.edit
  rw [Tables.rules_set]
  by_cases h : t = e.table ∧ c = e.chain
  · obtain ⟨rfl, rfl⟩ := h
    rw [if_pos ⟨rfl, rfl⟩]
  · rw [if_neg h, if_neg h]

def Tables.copies (ts : Tables) (t : Table) (c : Bytes) (r : Rule) : ℕ := (ts.rules t c).count r

/-- The checks that fail. -/
def failures (todo : List Edit) : ℕ := todo.countP fun e => !e.fate.checks

/-- **Copies**: each failed check costs one at most. -/
theorem copies_edits (ts : Tables) (todo : List Edit) :
    (ts.edits todo).copies t c r ≤ max 1 (ts.copies t c r) + failures todo := by
  induction todo generalizing ts with
  | nil => exact le_max_right _ _
  | cons e todo ih =>
      have hone : (ts.edit e).copies t c r ≤ max 1 (ts.copies t c r) + if e.fate.checks then 0 else 1 := by
        unfold Tables.copies
        rw [Tables.rules_edit]
        split
        · exact count_ensure _ _ _ _
        · omega
      have hrest : ((ts.edit e).edits todo).copies t c r ≤ max 1 ((ts.edit e).copies t c r) + failures todo :=
        ih (ts.edit e)
      have hfailures : failures (e :: todo) = failures todo + if e.fate.checks then 0 else 1 := by
        unfold failures
        rw [List.countP_cons]
        cases e.fate.checks <;> rfl
      show ((ts.edit e).edits todo).copies t c r ≤ _
      rw [hfailures]
      omega

/-- A chain keeps what it had in front; behind it come rules that the edits are about. -/
theorem rules_edits (ts : Tables) (todo : List Edit) (t : Table) (c : Bytes) :
    ∃ added, (ts.edits todo).rules t c = ts.rules t c ++ added ∧
      ∀ r ∈ added, ∃ e ∈ todo, e.table = t ∧ e.chain = c ∧ e.rule = r := by
  induction todo generalizing ts with
  | nil => exact ⟨[], (List.append_nil _).symm, fun _ h => absurd h List.not_mem_nil⟩
  | cons e todo ih =>
      obtain ⟨added, hadded, hrules⟩ := ih (ts.edit e)
      have hlater : ∀ r ∈ added, ∃ e' ∈ e :: todo, e'.table = t ∧ e'.chain = c ∧ e'.rule = r := by
        intro r hr
        obtain ⟨e', he', h⟩ := hrules r hr
        exact ⟨e', List.mem_cons_of_mem _ he', h⟩
      show ∃ added, ((ts.edit e).edits todo).rules t c = _ ∧ _
      rw [hadded, Tables.rules_edit]
      by_cases h : t = e.table ∧ c = e.chain
      · rw [if_pos h]
        rcases ensure_cases e.fate (ts.rules t c) e.rule with hsame | ⟨happended, -⟩
        · rw [hsame]
          exact ⟨added, rfl, hlater⟩
        · rw [happended, List.append_assoc]
          refine ⟨[e.rule] ++ added, rfl, fun r hr => ?_⟩
          rcases List.mem_cons.mp hr with rfl | hr
          · exact ⟨e, List.mem_cons_self, h.1.symm, h.2.symm, rfl⟩
          · exact hlater r hr
      · rw [if_neg h]
        exact ⟨added, rfl, hlater⟩

/-- A rule whose append works is there. -/
theorem mem_edits {e : Edit} (he : e ∈ todo) (happends : e.fate.appends = true) (ts : Tables) :
    e.rule ∈ (ts.edits todo).rules e.table e.chain := by
  induction todo generalizing ts with
  | nil => exact absurd he List.not_mem_nil
  | cons e' todo ih =>
      rcases List.mem_cons.mp he with rfl | he
      · obtain ⟨added, hadded, -⟩ := rules_edits (ts.edit e) todo e.table e.chain
        show e.rule ∈ ((ts.edit e).edits todo).rules e.table e.chain
        rw [hadded, Tables.rules_edit, if_pos ⟨rfl, rfl⟩]
        exact List.mem_append_left _ (mem_ensure happends)
      · exact ih he (ts.edit e')

/-! ## Events -/

/-- The edits that an event is to make. -/
def Event.edits : Event → List Edit
  | .serverStart env => env.edits
  | .install env => env.edits
  | _ => []

/-- The text that the server pastes the interface into is the command that is meant. -/
def Event.Plain : Event → Prop
  | .serverStart env => Client.shell.Word (defaultInterface env.route)
  | _ => True

instance : DecidablePred Event.Plain := fun e =>
  match e with
  | .serverStart env => inferInstanceAs (Decidable (Client.shell.Word (defaultInterface env.route)))
  | .install _ | .reboot _ | .others _ _ _ => inferInstanceAs (Decidable True)

/-- A start or an installation. -/
def Event.Ours : Event → Bool
  | .serverStart _ | .install _ => true
  | .reboot _ | .others _ _ _ => false

/-- **What a start or an installation does**: some of its first edits, and no more. -/
theorem step_ours (hours : e.Ours = true) (hplain : e.Plain) (hstep : step m e = some m') :
    ∃ done, done <+: e.edits ∧ m'.tables = m.tables.edits done ∧
      (m'.saved = m.saved ∨ m'.saved = some m'.tables) ∧ (m.ipForward = true → m'.ipForward = true) := by
  cases e with
  | serverStart env =>
      obtain rfl := Option.some.inj ((ensureSystemConfig_eq hplain m).symm.trans hstep)
      refine ⟨env.edits, List.prefix_rfl, rfl, Or.inl rfl, fun h => ?_⟩
      rw [h, Bool.true_or]
  | install env =>
      obtain rfl := Option.some.inj hstep
      obtain ⟨done, hinit, htables, hsaved, hforward⟩ := setupNat_spec env m
      rw [← htables] at hsaved
      exact ⟨done, hinit, htables, hsaved, hforward⟩
  | reboot | others => exact absurd hours Bool.false_ne_true

/-! ## Copies -/

/-- No copy too many, in the tables and in the saved ones. -/
structure Bounded (m : Machine) (t : Table) (c : Bytes) (r : Rule) (n : ℕ) : Prop where
  tables : m.tables.copies t c r ≤ n
  saved  : ∀ ts, m.saved = some ts → ts.copies t c r ≤ n

theorem bounded_step {n : ℕ} (hown : Own t c r = true) (hn : 1 ≤ n) (h : Bounded m t c r n) (hplain : e.Plain)
    (hstep : step m e = some m') : Bounded m' t c r (n + failures e.edits) := by
  cases hours : e.Ours with
  | true =>
      obtain ⟨done, hinit, htables, hsaved, -⟩ := step_ours hours hplain hstep
      have hfailures : failures done ≤ failures e.edits := hinit.sublist.countP_le
      have hcopies : m'.tables.copies t c r ≤ n + failures e.edits := by
        have hedits := @copies_edits t c r m.tables done
        have htables' := h.tables
        rw [htables]
        omega
      refine ⟨hcopies, fun ts hts => ?_⟩
      rcases hsaved with hsame | hnew
      · exact le_trans (h.saved ts (hsame.symm.trans hts)) (Nat.le_add_right _ _)
      · rw [Option.some.inj (hts.symm.trans hnew)]
        exact hcopies
  | false =>
      cases e with
      | serverStart | install => exact absurd hours (Bool.eq_false_iff.mp · rfl)
      | reboot restores =>
          obtain rfl := Option.some.inj hstep
          refine ⟨?_, h.saved⟩
          show (if restores then m.saved.getD .empty else .empty).copies t c r ≤ n
          have hempty : Tables.empty.copies t c r ≤ n := Nat.zero_le n
          cases restores with
          | false => exact hempty
          | true =>
              cases hsaved : m.saved with
              | none => exact hempty
              | some ts => exact h.saved ts hsaved
      | others t' c' chain =>
          obtain ⟨hkept, hm⟩ := Option.ite_none_right_eq_some.mp hstep
          obtain rfl := Option.some.inj hm
          refine ⟨?_, h.saved⟩
          show ((m.tables.set t' c' chain).rules t c).count r ≤ n
          rw [Tables.rules_set]
          split
          · rename_i hsame
            obtain ⟨rfl, rfl⟩ := hsame
            have hcount : chain.count r = (m.tables.rules t c).count r := by
              rw [← List.count_filter hown, hkept, List.count_filter hown]
            rw [hcount]
            exact h.tables
          · exact h.tables

/-- **A rule of kirdi is not piled up.** Over any run of starts, installations, reboots and changes that other
    programs make to their rules, it has no more copies than in the beginning, or one, and one more for each check
    that failed. -/
theorem copies_bounded (hown : Own t c r = true) (hplain : ∀ e ∈ es, e.Plain) (hrun : run step m es = some m') :
    m'.tables.copies t c r ≤
      max 1 (max (m.tables.copies t c r) ((m.saved.getD .empty).copies t c r)) +
        (es.map fun e => failures e.edits).sum := by
  have hstart : Bounded m t c r (max 1 (max (m.tables.copies t c r) ((m.saved.getD .empty).copies t c r))) := by
    refine ⟨by omega, fun ts hts => ?_⟩
    rw [hts, Option.getD_some]
    omega
  have hone : 1 ≤ max 1 (max (m.tables.copies t c r) ((m.saved.getD .empty).copies t c r)) := le_max_left _ _
  generalize max 1 (max (m.tables.copies t c r) ((m.saved.getD .empty).copies t c r)) = n at hstart hone ⊢
  induction es generalizing m n with
  | nil =>
      obtain rfl := Option.some.inj hrun
      exact hstart.tables
  | cons e es ih =>
      obtain ⟨m₁, hstep, hrest⟩ := run_cons.mp hrun
      have hnext := bounded_step hown hone hstart (hplain e List.mem_cons_self) hstep
      have hlater := ih (fun e' he' => hplain e' (List.mem_cons_of_mem _ he')) hrest _ hnext
        (le_trans hone (Nat.le_add_right _ _))
      rw [List.map_cons, List.sum_cons]
      omega

/-- Nothing but changes of other programs can be refused. -/
theorem run_defined (m : Machine) (hes : ∀ e ∈ es, e.Plain ∧ ∀ t c chain, e ≠ .others t c chain) :
    ∃ m', run step m es = some m' := by
  induction es generalizing m with
  | nil => exact ⟨m, rfl⟩
  | cons e es ih =>
      obtain ⟨hplain, hours⟩ := hes e List.mem_cons_self
      have hstep : ∃ m₁, step m e = some m₁ := by
        cases e with
        | serverStart env => exact ⟨_, ensureSystemConfig_eq hplain m⟩
        | install env => exact ⟨_, rfl⟩
        | reboot restores => exact ⟨_, rfl⟩
        | others t c chain => exact absurd rfl (hours t c chain)
      obtain ⟨m₁, hm₁⟩ := hstep
      obtain ⟨m', hm'⟩ := ih m₁ fun e' he' => hes e' (List.mem_cons_of_mem _ he')
      exact ⟨m', run_cons.mpr ⟨m₁, hm₁, hm'⟩⟩

/-- A start and an installation on `eth0` in which nothing goes wrong. -/
def goodStart : StartEnv :=
  ⟨true, true, ascii "eth0" ++ [10], ⟨true, true⟩, ⟨true, true⟩, ⟨true, true⟩, ⟨true, true⟩⟩

def goodInstall : InstallEnv :=
  ⟨true, true, true, some (ascii "eth0" ++ [10]), ⟨true, true⟩, ⟨true, true⟩, ⟨true, true⟩, ⟨true, true⟩, true⟩

def freshMachine : Machine := ⟨.empty, false, none, false⟩

theorem goodStart_word : Client.shell.Word (defaultInterface goodStart.route) := by decide

/-- Installed, started, rebooted and started again: one masquerade rule at most. -/
theorem copies_bounded_restarted :
    ∃ m', run step freshMachine [.install goodInstall, .serverStart goodStart, .reboot true, .serverStart goodStart] =
        some m' ∧
      m'.tables.copies .nat (ascii "POSTROUTING") (masqueradeRule (ascii "eth0")) ≤ 1 := by
  obtain ⟨m', hrun⟩ := @run_defined
    [.install goodInstall, .serverStart goodStart, .reboot true, .serverStart goodStart] freshMachine
    (by simp [goodStart_word, Event.Plain])
  refine ⟨m', hrun, ?_⟩
  have hbound := @copies_bounded .nat (ascii "POSTROUTING") (masqueradeRule (ascii "eth0")) freshMachine m' _
    (by decide) (by simp [goodStart_word, Event.Plain]) hrun
  exact hbound

/-! ## What the rules say -/

/-- From the tunnel, or an answer to it. -/
def Packet.Tunnelled (p : Packet) : Bool :=
  p.inIface == ascii "kirdi0" ||
    (p.outIface == ascii "kirdi0" && (p.state == ascii "RELATED" || p.state == ascii "ESTABLISHED"))

/-- From an address of 10.8.0.0/24. -/
def Packet.FromSubnet (p : Packet) : Bool := p.source.toNat / 2 ^ 8 == 0x0A0800

variable {others : Bytes → Packet → Option Verdict} {p : Packet} {v : Verdict}

theorem ifaceMatches_kirdi0 (iface : Bytes) : ifaceMatches (ascii "kirdi0") iface = (ascii "kirdi0" == iface) := by
  unfold ifaceMatches
  rw [if_neg (by decide)]

theorem ifaceMatches_self (name : Bytes) : ifaceMatches name name = true := by
  unfold ifaceMatches
  split
  · exact List.isPrefixOf_iff_prefix.mpr (List.dropLast_prefix name)
  · exact beq_self_eq_true name

theorem decides_forwardIn :
    forwardInRule.decides others p = if p.inIface == ascii "kirdi0" then some .accept else none := by
  have happlies : forwardInRule.applies p = (p.inIface == ascii "kirdi0") := by
    unfold Rule.applies forwardInRule Rule.empty
    simp only [Option.all_some, Option.all_none, ifaceMatches_kirdi0, Bool.and_true]
    exact BEq.comm
  unfold Rule.decides
  rw [happlies]
  rfl

theorem decides_forwardOut :
    forwardOutRule.decides others p =
      if p.outIface == ascii "kirdi0" && (p.state == ascii "RELATED" || p.state == ascii "ESTABLISHED") then
        some .accept
      else none := by
  have hstates : commaList (ascii "RELATED,ESTABLISHED") = [ascii "RELATED", ascii "ESTABLISHED"] := by decide
  have happlies : forwardOutRule.applies p =
      (p.outIface == ascii "kirdi0" && (p.state == ascii "RELATED" || p.state == ascii "ESTABLISHED")) := by
    unfold Rule.applies forwardOutRule Rule.empty
    simp only [Option.all_some, Option.all_none, ifaceMatches_kirdi0, Bool.and_true, Bool.true_and, hstates,
      List.contains_cons, List.contains_nil, Bool.or_false]
    rw [BEq.comm]
  unfold Rule.decides
  rw [happlies]
  rfl

theorem decides_masquerade (iface : Bytes) :
    (masqueradeRule iface).decides others p =
      if ifaceMatches iface p.outIface && p.FromSubnet then some .masquerade else none := by
  have happlies : (masqueradeRule iface).applies p = (ifaceMatches iface p.outIface && p.FromSubnet) := by
    unfold Rule.applies masqueradeRule Rule.empty Packet.FromSubnet
    simp only [Option.all_some, Option.all_none, Bool.and_true, Bool.true_and]
    rfl
  unfold Rule.decides
  rw [happlies]
  rfl

/-! ## Runs of starts and installations -/

/-- The rules that a start or an installation is about. -/
theorem rule_of_mem_edits {edit : Edit} (h : edit ∈ e.edits) :
    (edit.table = .filter → edit.rule = forwardInRule ∨ edit.rule = forwardOutRule) ∧
      (edit.table = .nat → ∃ iface, edit.rule = masqueradeRule iface) := by
  have hrules : ∀ {fin fout fmasq fmss : Fate} {iface : Bytes}, edit ∈ ruleEdits fin fout fmasq fmss iface →
      (edit.table = .filter → edit.rule = forwardInRule ∨ edit.rule = forwardOutRule) ∧
        (edit.table = .nat → ∃ iface, edit.rule = masqueradeRule iface) := by
    intro fin fout fmasq fmss iface hmem
    simp only [ruleEdits, List.mem_cons, List.not_mem_nil, or_false] at hmem
    rcases hmem with rfl | rfl | rfl | rfl
    · exact ⟨fun _ => Or.inl rfl, fun h => Table.noConfusion h⟩
    · exact ⟨fun _ => Or.inr rfl, fun h => Table.noConfusion h⟩
    · exact ⟨fun h => Table.noConfusion h, fun _ => ⟨iface, rfl⟩⟩
    · exact ⟨fun h => Table.noConfusion h, fun h => Table.noConfusion h⟩
  cases e with
  | serverStart env => exact hrules h
  | install env =>
      unfold Event.edits InstallEnv.edits at h
      cases hroute : env.route with
      | none =>
          simp only [hroute] at h
          exact absurd h List.not_mem_nil
      | some output =>
          simp only [hroute] at h
          exact hrules h
  | reboot | others => exact absurd h List.not_mem_nil

/-- Only starts and installations, on interfaces with plain names. -/
def Serving (es : List Event) : Prop := ∀ e ∈ es, e.Ours = true ∧ e.Plain

instance (es : List Event) : Decidable (Serving es) := inferInstanceAs (Decidable (∀ e ∈ es, _ ∧ _))

/-- **A chain keeps what it had in front**, and gets rules of kirdi behind it. -/
theorem rules_run (hserving : Serving es) (hrun : run step m es = some m') (t : Table) (c : Bytes) :
    ∃ added, m'.tables.rules t c = m.tables.rules t c ++ added ∧
      ∀ r ∈ added, ∃ e ∈ es, ∃ edit ∈ e.edits, edit.table = t ∧ edit.chain = c ∧ edit.rule = r := by
  induction es generalizing m with
  | nil =>
      obtain rfl := Option.some.inj hrun
      exact ⟨[], (List.append_nil _).symm, fun _ h => absurd h List.not_mem_nil⟩
  | cons e es ih =>
      obtain ⟨m₁, hstep, hrest⟩ := run_cons.mp hrun
      obtain ⟨hours, hplain⟩ := hserving e List.mem_cons_self
      obtain ⟨done, hinit, htables, -, -⟩ := step_ours hours hplain hstep
      obtain ⟨first, hfirst, hfirstOf⟩ := rules_edits m.tables done t c
      obtain ⟨added, hadded, haddedOf⟩ := ih (fun e' he' => hserving e' (List.mem_cons_of_mem _ he')) hrest
      refine ⟨first ++ added, by rw [hadded, htables, hfirst, List.append_assoc], fun r hr => ?_⟩
      rcases List.mem_append.mp hr with hr | hr
      · obtain ⟨edit, hedit, hof⟩ := hfirstOf r hr
        exact ⟨e, List.mem_cons_self, edit, hinit.subset hedit, hof⟩
      · obtain ⟨e', he', hof⟩ := haddedOf r hr
        exact ⟨e', List.mem_cons_of_mem _ he', hof⟩

/-- Nothing goes wrong in a start. -/
def StartEnv.Works (env : StartEnv) : Prop :=
  env.sysctlWorks = true ∧ ∀ edit ∈ env.edits, edit.fate.appends = true

instance (env : StartEnv) : Decidable env.Works := inferInstanceAs (Decidable (_ ∧ ∀ edit ∈ env.edits, _))

/-- After a start in which nothing went wrong, forwarding stays on and the rules stay. -/
theorem established_run {env : StartEnv} (hserving : Serving es) (hrun : run step m es = some m')
    (henv : .serverStart env ∈ es) (hworks : env.Works) :
    m'.ipForward = true ∧ ∀ edit ∈ env.edits, edit.rule ∈ m'.tables.rules edit.table edit.chain := by
  have hkept : ∀ {es : List Event} {m : Machine}, Serving es → run step m es = some m' → m.ipForward = true →
      m'.ipForward = true := by
    intro es
    induction es with
    | nil =>
        intro m _ hrun hforward
        obtain rfl := Option.some.inj hrun
        exact hforward
    | cons e es ih =>
        intro m hserving hrun hforward
        obtain ⟨m₁, hstep, hrest⟩ := run_cons.mp hrun
        obtain ⟨hours, hplain⟩ := hserving e List.mem_cons_self
        obtain ⟨-, -, -, -, hon⟩ := step_ours hours hplain hstep
        exact ih (fun e' he' => hserving e' (List.mem_cons_of_mem _ he')) hrest (hon hforward)
  -- the run up to the start, the start, and the rest
  obtain ⟨before, after, rfl⟩ := List.append_of_mem henv
  obtain ⟨m₁, -, hrest⟩ := run_append.mp hrun
  obtain ⟨m₂, hstep, hafter⟩ := run_cons.mp hrest
  have hlater : Serving after := fun e he =>
    hserving e (List.mem_append_right _ (List.mem_cons_of_mem _ he))
  have hplain := (hserving _ henv).2
  obtain rfl := Option.some.inj ((ensureSystemConfig_eq hplain m₁).symm.trans hstep)
  refine ⟨hkept hlater hafter ?_, fun edit hedit => ?_⟩
  · show (m₁.ipForward || env.sysctlWorks) = true
    rw [hworks.1, Bool.or_true]
  · obtain ⟨added, hadded, -⟩ := rules_run hlater hafter edit.table edit.chain
    rw [hadded]
    exact List.mem_append_left _ (mem_edits hedit (hworks.2 edit hedit) m₁.tables)

/-- The interface that a start finds. -/
def StartEnv.iface (env : StartEnv) : Bytes := defaultInterface env.route

/-- A start or an installation is about to masquerade on an interface. -/
def Event.MasqueradesOn (e : Event) (iface : Bytes) : Prop := ∃ edit ∈ e.edits, edit.rule = masqueradeRule iface

/-- None of the interfaces that a run masquerades on is the one by which the packet leaves. -/
def LeavesElsewhere (es : List Event) (p : Packet) : Prop :=
  ∀ e ∈ es, ∀ iface, e.MasqueradesOn iface → ifaceMatches iface p.outIface = false

section Meaning

variable {env : StartEnv} (hserving : Serving es) (hrun : run step m es = some m')
  (henv : .serverStart env ∈ es) (hworks : env.Works)

include hserving hrun henv hworks

/-- The chain `FORWARD`: undecided packets of the tunnel are accepted, and no others. -/
theorem forward_decision (others : Bytes → Packet → Option Verdict) (p : Packet) :
    decision (Rule.decides others) (m'.tables.rules .filter (ascii "FORWARD")) p =
      (decision (Rule.decides others) (m.tables.rules .filter (ascii "FORWARD")) p).or
        (if p.Tunnelled then some .accept else none) := by
  have hthere := (established_run hserving hrun henv hworks).2
  have hin : forwardInRule ∈ m'.tables.rules .filter (ascii "FORWARD") :=
    hthere ⟨env.forwardIn, .filter, ascii "FORWARD", forwardInRule⟩ List.mem_cons_self
  have hout : forwardOutRule ∈ m'.tables.rules .filter (ascii "FORWARD") :=
    hthere ⟨env.forwardOut, .filter, ascii "FORWARD", forwardOutRule⟩ (List.mem_cons_of_mem _ List.mem_cons_self)
  obtain ⟨added, hadded, haddedOf⟩ := rules_run hserving hrun .filter (ascii "FORWARD")
  have hours : ∀ r ∈ added, r = forwardInRule ∨ r = forwardOutRule := by
    intro r hr
    obtain ⟨e, -, edit, hedit, htable, -, rfl⟩ := haddedOf r hr
    exact (rule_of_mem_edits hedit).1 htable
  rw [hadded] at hin hout ⊢
  by_cases htunnelled : p.Tunnelled = true
  · -- all that was appended accepts or is silent, and one of the two rules accepts
    have huniform : ∀ r ∈ added, ∀ w, r.decides others p = some w → w = .accept := by
      intro r hr w hw
      rcases hours r hr with rfl | rfl
      · rw [decides_forwardIn] at hw
        exact (Option.some.inj (Option.ite_none_right_eq_some.mp hw).2).symm
      · rw [decides_forwardOut] at hw
        exact (Option.some.inj (Option.ite_none_right_eq_some.mp hw).2).symm
    rw [if_pos htunnelled]
    unfold Packet.Tunnelled at htunnelled
    rcases (Bool.or_eq_true _ _).mp htunnelled with hfrom | hto
    · exact decision_append_uniform huniform hin (by rw [decides_forwardIn, if_pos hfrom])
    · exact decision_append_uniform huniform hout (by rw [decides_forwardOut, if_pos hto])
  · have hsilent : ∀ r ∈ added, r.decides others p = none := by
      unfold Packet.Tunnelled at htunnelled
      rw [Bool.or_eq_true, not_or] at htunnelled
      intro r hr
      rcases hours r hr with rfl | rfl
      · rw [decides_forwardIn, if_neg htunnelled.1]
      · rw [decides_forwardOut, if_neg htunnelled.2]
    rw [decision_append_silent hsilent, if_neg htunnelled, Option.or_none]

/-- The chain `POSTROUTING`: undecided packets of the subnet that leave by the interface are masqueraded, those
    that leave elsewhere or come from elsewhere are left alone. -/
theorem postrouting_decision (others : Bytes → Packet → Option Verdict) (p : Packet) :
    (p.FromSubnet = true → p.outIface = env.iface →
        decision (Rule.decides others) (m'.tables.rules .nat (ascii "POSTROUTING")) p =
          (decision (Rule.decides others) (m.tables.rules .nat (ascii "POSTROUTING")) p).or (some .masquerade)) ∧
      (p.FromSubnet = false ∨ LeavesElsewhere es p →
        decision (Rule.decides others) (m'.tables.rules .nat (ascii "POSTROUTING")) p =
          decision (Rule.decides others) (m.tables.rules .nat (ascii "POSTROUTING")) p) := by
  have hthere : masqueradeRule env.iface ∈ m'.tables.rules .nat (ascii "POSTROUTING") :=
    (established_run hserving hrun henv hworks).2
      ⟨env.masquerade, .nat, ascii "POSTROUTING", masqueradeRule env.iface⟩
      (List.mem_cons_of_mem _ (List.mem_cons_of_mem _ List.mem_cons_self))
  obtain ⟨added, hadded, haddedOf⟩ := rules_run hserving hrun .nat (ascii "POSTROUTING")
  have hours : ∀ r ∈ added, ∃ e ∈ es, ∃ iface, e.MasqueradesOn iface ∧ r = masqueradeRule iface := by
    intro r hr
    obtain ⟨e, he, edit, hedit, htable, -, rfl⟩ := haddedOf r hr
    obtain ⟨iface, hrule⟩ := (rule_of_mem_edits hedit).2 htable
    exact ⟨e, he, iface, ⟨edit, hedit, hrule⟩, hrule⟩
  rw [hadded] at hthere ⊢
  refine ⟨fun hsubnet hiface => ?_, fun hleft => ?_⟩
  · refine decision_append_uniform (fun r hr w hw => ?_) hthere ?_
    · obtain ⟨-, -, iface, -, rfl⟩ := hours r hr
      rw [decides_masquerade] at hw
      exact (Option.some.inj (Option.ite_none_right_eq_some.mp hw).2).symm
    · rw [decides_masquerade, hiface, ifaceMatches_self, hsubnet]
      rfl
  · refine decision_append_silent fun r hr => ?_
    obtain ⟨e, he, iface, hon, rfl⟩ := hours r hr
    rw [decides_masquerade]
    rcases hleft with hsubnet | helsewhere
    · rw [hsubnet, Bool.and_false]
      rfl
    · rw [helsewhere e he iface hon, Bool.false_and]
      rfl

/-- **What the rules mean**, after any run of starts and installations with a start in it in which nothing went
    wrong: forwarding is on; what the chains had decided they decide the same way; of the packets that were
    undecided, exactly those are accepted for forwarding that come from the tunnel or answer to it; those of
    10.8.0.0/24 that leave by the interface are masqueraded, and those that leave by an interface on which nothing in
    the run masquerades, or that come from elsewhere, are left alone. -/
theorem forwarding_meaning (others : Bytes → Packet → Option Verdict) :
    m'.ipForward = true ∧
      (∀ p, decision (Rule.decides others) (m'.tables.rules .filter (ascii "FORWARD")) p =
        (decision (Rule.decides others) (m.tables.rules .filter (ascii "FORWARD")) p).or
          (if p.Tunnelled then some .accept else none)) ∧
      (∀ p, p.FromSubnet = true → p.outIface = env.iface →
        decision (Rule.decides others) (m'.tables.rules .nat (ascii "POSTROUTING")) p =
          (decision (Rule.decides others) (m.tables.rules .nat (ascii "POSTROUTING")) p).or (some .masquerade)) ∧
      ∀ p, p.FromSubnet = false ∨ LeavesElsewhere es p →
        decision (Rule.decides others) (m'.tables.rules .nat (ascii "POSTROUTING")) p =
          decision (Rule.decides others) (m.tables.rules .nat (ascii "POSTROUTING")) p :=
  ⟨(established_run hserving hrun henv hworks).1, forward_decision hserving hrun henv hworks others,
    fun p => (postrouting_decision hserving hrun henv hworks others p).1,
    fun p => (postrouting_decision hserving hrun henv hworks others p).2⟩

end Meaning

/-- On a machine without rules, after an installation and a start: a client's packet to the outside. -/
theorem forwarding_meaning_fresh :
    ∃ m', run step freshMachine [.install goodInstall, .serverStart goodStart] = some m' ∧ m'.ipForward = true ∧
      decision (Rule.decides fun _ _ => none) (m'.tables.rules .filter (ascii "FORWARD"))
        ⟨ascii "kirdi0", ascii "eth0", 0x0A080002, ascii "udp", [], ascii "NEW"⟩ = some .accept ∧
      decision (Rule.decides fun _ _ => none) (m'.tables.rules .nat (ascii "POSTROUTING"))
        ⟨ascii "kirdi0", ascii "eth0", 0x0A080002, ascii "udp", [], ascii "NEW"⟩ = some .masquerade := by
  have hserving : Serving [.install goodInstall, .serverStart goodStart] := by decide
  obtain ⟨m', hrun⟩ := @run_defined [.install goodInstall, .serverStart goodStart] freshMachine
    (by simp [goodStart_word, Event.Plain])
  obtain ⟨hforward, hfilter, hnat, -⟩ := @forwarding_meaning _ _ _ goodStart hserving hrun
    (List.mem_cons_of_mem _ List.mem_cons_self) (by decide) fun _ _ => none
  refine ⟨m', hrun, hforward, ?_, ?_⟩
  · rw [hfilter]
    rfl
  · rw [hnat _ (by decide) (by decide)]
    rfl

/-! ## Starting again -/

/-- A name that an interface can have: short, and a plain word. -/
structure IfaceName (name : Bytes) : Prop where
  short : name.length < 16
  word  : Client.shell.Word name
  noCr  : 13 ∉ name

/-- What the pipeline prints for an interface. -/
def Event.Prints (name : Bytes) : Event → Prop
  | .serverStart env => env.route = name ++ [10]
  | .install env => env.route = some (name ++ [10]) ∨ env.route = none
  | .reboot _ | .others _ _ _ => False

theorem IfaceName.plain {name : Bytes} (h : IfaceName name) {c : UInt8} (hc : c ∈ name) :
    c ≠ 10 ∧ c ≠ 13 ∧ c ≠ 0 := by
  obtain ⟨hends, -, hspecial⟩ := CommandLine.literal_iff.mp (h.word.2 c hc)
  refine ⟨?_, fun hcr => h.noCr (hcr ▸ hc), ?_⟩
  · rintro rfl
    exact absurd hspecial (by decide)
  · rintro rfl
    exact absurd hends (by decide)

theorem IfaceName.defaultInterface {name : Bytes} (h : IfaceName name) :
    defaultInterface (name ++ [10]) = name := by
  have hshort := h.short
  have hwhole : (name ++ [10]).take 63 = name ++ [10] := by
    rw [List.take_of_length_le]
    rw [List.length_append, List.length_singleton]
    omega
  have hname : ∀ c ∈ name, (c ≠ 10 && c ≠ 13 && c ≠ 0 : Bool) = true := by
    intro c hc
    obtain ⟨hnl, hcr, hnul⟩ := h.plain hc
    simp [hnl, hcr, hnul]
  have hne : name.isEmpty = false := by
    rw [List.isEmpty_eq_false_iff]
    exact h.word.1
  unfold Netfilter.defaultInterface
  rw [hwhole, List.takeWhile_append_of_pos hname]
  simp only [List.takeWhile_cons]
  simp [hne]

theorem IfaceName.installerInterface {name : Bytes} (h : IfaceName name) :
    installerInterface (name ++ [10]) = name := by
  have hkept : (name ++ [10]).filter (· ≠ 0) = name ++ [10] := by
    rw [List.filter_eq_self]
    intro c hc
    rcases List.mem_append.mp hc with hc | hc
    · simpa using (h.plain hc).2.2
    · rw [List.mem_singleton.mp hc]
      decide
  have hstripped : substitution (name ++ [10]) = name := by
    unfold substitution
    rw [hkept, List.reverse_append, List.reverse_singleton, List.singleton_append,
      List.dropWhile_cons_of_pos (by decide)]
    have hstop : name.reverse.dropWhile (· = 10) = name.reverse := by
      rw [List.dropWhile_eq_self_iff]
      intro hlen
      simpa using (h.plain (List.mem_reverse.mp (List.get_mem name.reverse ⟨0, hlen⟩))).1
    rw [hstop, List.reverse_reverse]
  have hne : name.isEmpty = false := by
    rw [List.isEmpty_eq_false_iff]
    exact h.word.1
  unfold Netfilter.installerInterface
  rw [hstripped, hne]
  rfl

/-- Edits that find their rules change nothing. -/
theorem edits_found {ts : Tables} (h : ∀ edit ∈ todo, edit.fate.checks = true ∧ edit.rule ∈ ts.rules edit.table edit.chain) :
    ts.edits todo = ts := by
  induction todo with
  | nil => rfl
  | cons edit todo ih =>
      obtain ⟨hchecks, hfound⟩ := h edit List.mem_cons_self
      have hsame : ts.edit edit = ts := by
        unfold Tables.edit
        rw [ensure_of_mem hchecks hfound, Tables.set_self]
      show (ts.edit edit).edits todo = ts
      rw [hsame]
      exact ih fun edit' h' => h edit' (List.mem_cons_of_mem _ h')

/-- Wherever it looks, a start or an installation is about the rules of the interface that was printed. -/
theorem edits_of_prints {env : StartEnv} {name : Bytes} (hname : IfaceName name) (henv : env.route = name ++ [10])
    (hprints : e.Prints name) {edit : Edit} (h : edit ∈ e.edits) :
    ∃ edit' ∈ env.edits, edit'.table = edit.table ∧ edit'.chain = edit.chain ∧ edit'.rule = edit.rule := by
  have hsame : ∀ {fin fout fmasq fmss : Fate}, edit ∈ ruleEdits fin fout fmasq fmss name →
      ∃ edit' ∈ env.edits, edit'.table = edit.table ∧ edit'.chain = edit.chain ∧ edit'.rule = edit.rule := by
    intro fin fout fmasq fmss hmem
    unfold StartEnv.edits
    rw [henv, hname.defaultInterface]
    simp only [ruleEdits, List.mem_cons, List.not_mem_nil, or_false] at hmem
    simp only [ruleEdits, List.exists_mem_cons_iff]
    rcases hmem with rfl | rfl | rfl | rfl
    · exact Or.inl ⟨rfl, rfl, rfl⟩
    · exact Or.inr (Or.inl ⟨rfl, rfl, rfl⟩)
    · exact Or.inr (Or.inr (Or.inl ⟨rfl, rfl, rfl⟩))
    · exact Or.inr (Or.inr (Or.inr (Or.inl ⟨rfl, rfl, rfl⟩)))
  cases e with
  | serverStart env' =>
      have hroute : env'.route = name ++ [10] := hprints
      unfold Event.edits StartEnv.edits at h
      simp only [hroute, hname.defaultInterface] at h
      exact hsame h
  | install env' =>
      unfold Event.edits InstallEnv.edits at h
      have hroute : env'.route = some (name ++ [10]) ∨ env'.route = none := hprints
      rcases hroute with hroute | hroute
      · simp only [hroute, hname.installerInterface] at h
        exact hsame h
      · simp only [hroute] at h
        exact absurd h List.not_mem_nil
  | reboot | others => exact absurd h List.not_mem_nil

theorem ours_of_prints {name : Bytes} (hname : IfaceName name) (hprints : e.Prints name) :
    e.Ours = true ∧ e.Plain := by
  cases e with
  | serverStart env =>
      have hroute : env.route = name ++ [10] := hprints
      refine ⟨rfl, ?_⟩
      show Client.shell.Word (defaultInterface env.route)
      rw [hroute, hname.defaultInterface]
      exact hname.word
  | install env => exact ⟨rfl, trivial⟩
  | reboot | others => exact hprints.elim

/-- **Starting again changes nothing.** Once a start has gone well, starts and installations that find the same
    interface and whose checks work leave every table as it is. -/
theorem restart_idle {env : StartEnv} {name : Bytes} {fs : List Event} {m'' : Machine} (hserving : Serving es)
    (hrun : run step m es = some m') (henv : .serverStart env ∈ es) (hworks : env.Works) (hname : IfaceName name)
    (hroute : env.route = name ++ [10])
    (hagain : ∀ e ∈ fs, e.Prints name ∧ ∀ edit ∈ e.edits, edit.fate.checks = true)
    (hlater : run step m' fs = some m'') : m''.tables = m'.tables := by
  have hthere := (established_run hserving hrun henv hworks).2
  clear hrun
  induction fs generalizing m' with
  | nil =>
      obtain rfl := Option.some.inj hlater
      rfl
  | cons e fs ih =>
      obtain ⟨m₁, hstep, hrest⟩ := run_cons.mp hlater
      obtain ⟨hprints, hchecks⟩ := hagain e List.mem_cons_self
      obtain ⟨hours, hplain⟩ := ours_of_prints hname hprints
      obtain ⟨done, hinit, htables, -, -⟩ := step_ours hours hplain hstep
      -- the event finds all of its rules
      have hsame : m₁.tables = m'.tables := by
        rw [htables]
        refine edits_found fun edit hedit => ⟨hchecks edit (hinit.subset hedit), ?_⟩
        obtain ⟨edit', hedit', htable, hchain, hrule⟩ :=
          edits_of_prints hname hroute hprints (hinit.subset hedit)
        rw [← htable, ← hchain, ← hrule]
        exact hthere edit' hedit'
      rw [← hsame] at hthere ⊢
      exact ih (fun e' he' => hagain e' (List.mem_cons_of_mem _ he')) hrest hthere

/-- Started, then installed and started again. -/
theorem restart_idle_twice :
    ∃ m' m'', run step freshMachine [.serverStart goodStart] = some m' ∧
      run step m' [.install goodInstall, .serverStart goodStart] = some m'' ∧ m''.tables = m'.tables := by
  have hname : IfaceName (ascii "eth0") := ⟨by decide, by decide, by decide⟩
  have hserving : Serving [.serverStart goodStart] := by decide
  obtain ⟨m', hrun⟩ := @run_defined [.serverStart goodStart] freshMachine (by simp [goodStart_word, Event.Plain])
  obtain ⟨m'', hlater⟩ := @run_defined [.install goodInstall, .serverStart goodStart] m' (by simp [goodStart_word, Event.Plain])
  refine ⟨m', m'', hrun, hlater, ?_⟩
  refine restart_idle hserving hrun List.mem_cons_self (by decide) hname rfl (fun e he => ?_) hlater
  rcases List.mem_cons.mp he with rfl | he
  · exact ⟨Or.inl rfl, by decide⟩
  · rw [List.mem_singleton.mp he]
    exact ⟨rfl, by decide⟩

end Netfilter
end Kirdi
