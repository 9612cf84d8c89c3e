import Mathlib.Data.List.Infix

/-!
# `Lib.RuleChain` — ordered rules, kept up by check-and-append

A chain of rules decides a packet by the first rule that has an opinion on it. A program that wants a rule in
a chain it shares with others looks for the rule and appends it when it is not there. Both commands may fail;
a check that fails is taken for an absent rule.

Appending takes nothing from anybody: what the chain decided before it decides the same way. So rules of one
mind have one meaning behind a chain, wherever they stand (`decision_append_uniform`), and the copies of a rule
are bounded by the checks that failed (`count_ensure`).
-/

namespace RuleChain

variable {R P V : Type} {chain rest : List R} {r q : R} {p : P}

/-! ## Decisions -/

/-- What the first rule with an opinion says. -/
def decision (decides : R → P → Option V) (chain : List R) (p : P) : Option V :=
  chain.findSome? fun r => decides r p

/-- The decision, or the policy of the chain. -/
def verdict (decides : R → P → Option V) (policy : V) (chain : List R) (p : P) : V :=
  (decision decides chain p).getD policy

variable {decides : R → P → Option V}

theorem decision_append :
    decision decides (chain ++ rest) p = (decision decides chain p).or (decision decides rest p) := by
  unfold decision
  rw [List.findSome?_append]

/-- A rule of an undecided packet's chain has no opinion on it. -/
theorem decides_of_undecided (h : decision decides chain p = none) (hr : r ∈ chain) : decides r p = none :=
  List.findSome?_eq_none_iff.mp h r hr

/-! ## Rules behind a chain -/

/-- Rules that have no opinion change nothing. -/
theorem decision_append_silent (h : ∀ r ∈ rest, decides r p = none) :
    decision decides (chain ++ rest) p = decision decides chain p := by
  have hsilent : decision decides rest p = none := List.findSome?_eq_none_iff.mpr h
  rw [decision_append, hsilent, Option.or_none]

/-- **Rules of one mind**: when all that are appended say `v` or nothing, and some rule of the whole chain says
    `v`, then `v` is what the undecided packets get. -/
theorem decision_append_uniform {v : V} (hrest : ∀ r ∈ rest, ∀ w, decides r p = some w → w = v)
    (hr : r ∈ chain ++ rest) (hv : decides r p = some v) :
    decision decides (chain ++ rest) p = (decision decides chain p).or (some v) := by
  rw [decision_append]
  cases hchain : decision decides chain p with
  | some w => rfl
  | none =>
      rw [Option.none_or, Option.none_or]
      cases hdecision : decision decides rest p with
      | some w =>
          obtain ⟨q, hq, hw⟩ := List.exists_of_findSome?_eq_some hdecision
          rw [hrest q hq w hw]
      | none =>
          -- the rule is nowhere, neither in front nor behind
          have hundecided : decision decides (chain ++ rest) p = none := by
            rw [decision_append, hchain, hdecision]
            rfl
          rw [decides_of_undecided hundecided hr] at hv
          exact absurd hv (by simp)

/-! ## Check and append -/

/-- What becomes of the two commands. -/
structure Fate where
  checks  : Bool      -- the check looks at the chain
  appends : Bool      -- the append works
  deriving DecidableEq, Repr

variable [DecidableEq R] {f : Fate}

/-- Append a rule unless it is found. -/
def ensure (f : Fate) (chain : List R) (r : R) : List R :=
  if f.checks && decide (r ∈ chain) then chain else if f.appends then chain ++ [r] else chain

theorem ensure_cases (f : Fate) (chain : List R) (r : R) :
    ensure f chain r = chain ∨ (ensure f chain r = chain ++ [r] ∧ (f.checks = true → r ∉ chain)) := by
  unfold ensure
  by_cases hfound : f.checks && decide (r ∈ chain)
  · rw [if_pos hfound]
    exact Or.inl rfl
  · rw [if_neg hfound]
    by_cases happends : f.appends
    · rw [if_pos happends]
      refine Or.inr ⟨rfl, fun hchecks hr => hfound ?_⟩
      rw [hchecks, decide_eq_true hr]
      rfl
    · rw [if_neg happends]
      exact Or.inl rfl

theorem ensure_of_mem (hf : f.checks = true) (hr : r ∈ chain) : ensure f chain r = chain := by
  unfold ensure
  rw [if_pos (by simp [hf, hr])]

/-- **The rule is there** afterwards, if the append works. -/
theorem mem_ensure (hf : f.appends = true) : r ∈ ensure f chain r := by
  unfold ensure
  by_cases hfound : f.checks && decide (r ∈ chain)
  · rw [if_pos hfound]
    simp only [Bool.and_eq_true, decide_eq_true_eq] at hfound
    exact hfound.2
  · rw [if_neg hfound, if_pos hf]
    exact List.mem_append_right _ (List.mem_singleton.mpr rfl)

/-- **One failed check costs at most one copy**, a working one none. -/
theorem count_ensure (f : Fate) (chain : List R) (r q : R) :
    (ensure f chain r).count q ≤ max 1 (chain.count q) + if f.checks then 0 else 1 := by
  rcases ensure_cases f chain r with h | ⟨h, habsent⟩
  · rw [h]
    omega
  · rw [h, List.count_append]
    have hone : [r].count q ≤ 1 := List.count_le_length
    by_cases hq : q = r
    · subst hq
      cases hchecks : f.checks with
      | true =>
          have hzero : chain.count q = 0 := List.count_eq_zero.mpr (habsent hchecks)
          omega
      | false =>
          simp only [Bool.false_eq_true, if_false]
          omega
    · have hzero : [r].count q = 0 := List.count_eq_zero.mpr (by simpa using hq)
      omega

end RuleChain
