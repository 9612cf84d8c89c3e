import Mathlib

/-!
# `Lib.WrapSearch` — upward search with a wrapping 64-bit counter

The loop `for (t = lo; t <= hi; ++t) if (p(t)) return true; return false;` over `uint64_t`, for an
arbitrary test `p`. The counter wraps at `2 ^ 64`, so the loop is not total: with `hi` the largest
value the guard never fails. `search` cuts the loop off after `fuel` tests of `p` (`none`), which makes
"ends within `n` tests" the statement `search p hi n lo ≠ none`.

## Contents
- `search` with its one-step equations and monotonicity in the fuel.
- `search_eq_true_iff` / `search_ends_of_lt`: what a `true` means, and when the loop ends.
- `window_ends_iff` / `window_true_within`: the loop over `[c - w, c + w]` computed with wrap-around.
- `search_top_iff`: with `hi` the largest value the loop ends only on a match.
- `search_cycle`: one full `cycle` of the counter (`2 ^ 64` tests) decides the loop for every fuel.
-/

namespace WrapSearch

/-- The largest value of the counter. -/
def top : UInt64 := 18446744073709551615

/-- The number of values of the counter (irreducible, so that no tactic runs a loop that long). -/
@[irreducible] def cycle : Nat := 2 ^ 64

/-- `for (t = lo; t <= hi; ++t) if (p(t)) return true; return false;`, given up (`none`) when it asks
    for test number `fuel + 1`. -/
def search (p : UInt64 → Bool) (hi : UInt64) : Nat → UInt64 → Option Bool
  | 0, t => if t ≤ hi then none else some false
  | n + 1, t => if t ≤ hi then (if p t then some true else search p hi n (t + 1)) else some false

variable {p : UInt64 → Bool} {hi : UInt64}

/-! ## Counter arithmetic -/

theorem toNat_top : top.toNat = 2 ^ 64 - 1 := rfl

theorem le_top (t : UInt64) : t ≤ top := by
  rw [UInt64.le_iff_toNat_le, toNat_top]
  have := t.toNat_lt
  omega

/-- Below the largest value the increment does not wrap. -/
theorem toNat_succ {t : UInt64} (h : t ≠ top) : (t + 1).toNat = t.toNat + 1 := by
  have hlt := t.toNat_lt
  have hne : t.toNat ≠ 2 ^ 64 - 1 := fun he => h (UInt64.toNat_inj.mp he)
  rw [UInt64.toNat_add, show (1 : UInt64).toNat = 1 from rfl, Nat.mod_eq_of_lt (by omega)]

theorem add_ofNat_succ (t : UInt64) (i : Nat) :
    t + 1 + UInt64.ofNat i = t + UInt64.ofNat (i + 1) := by
  apply UInt64.toNat_inj.mp
  simp only [UInt64.toNat_add, UInt64.toNat_ofNat', show (1 : UInt64).toNat = 1 from rfl]
  omega

theorem add_ofNat_zero (t : UInt64) : t + UInt64.ofNat 0 = t := by simp

/-- Every value is reached from `t` within one cycle. -/
theorem exists_add_ofNat (t s : UInt64) : ∃ i < cycle, t + UInt64.ofNat i = s := by
  have ht := t.toNat_lt
  have hs := s.toNat_lt
  refine ⟨(s.toNat + 2 ^ 64 - t.toNat) % 2 ^ 64, by unfold cycle; omega, ?_⟩
  apply UInt64.toNat_inj.mp
  simp only [UInt64.toNat_add, UInt64.toNat_ofNat']
  omega

/-! ## One-step equations -/

theorem search_done {n : Nat} {t : UInt64} (h : ¬ t ≤ hi) : search p hi n t = some false := by
  cases n with
  | zero => simp [search, h]
  | succ n => simp [search, h]

theorem search_hit {n : Nat} {t : UInt64} (h : t ≤ hi) (hp : p t = true) :
    search p hi (n + 1) t = some true := by
  simp [search, h, hp]

theorem search_miss {n : Nat} {t : UInt64} (h : t ≤ hi) (hp : p t = false) :
    search p hi (n + 1) t = search p hi n (t + 1) := by
  simp [search, h, hp]

/-- **More fuel keeps the result.** -/
theorem search_mono {n m : Nat} {t : UInt64} {b : Bool} (h : search p hi n t = some b)
    (hnm : n ≤ m) : search p hi m t = some b := by
  induction n generalizing t m with
  | zero =>
      by_cases ht : t ≤ hi
      · simp [search, ht] at h
      · rw [search_done ht] at h ⊢
        exact h
  | succ n ih =>
      obtain ⟨m, rfl⟩ : ∃ k, m = k + 1 := ⟨m - 1, by omega⟩
      by_cases ht : t ≤ hi
      · cases hp : p t with
        | true => rw [search_hit ht hp] at h ⊢; exact h
        | false =>
            rw [search_miss ht hp] at h ⊢
            exact ih h (by omega)
      · rw [search_done ht] at h ⊢
        exact h

/-! ## What the result means -/

/-- **The loop returns `true` within `n` tests** exactly when one of the first `n` counter values
    matches and the guard has held up to it. -/
theorem search_eq_true_iff {n : Nat} {t : UInt64} :
    search p hi n t = some true ↔
      ∃ i < n, (∀ j ≤ i, t + UInt64.ofNat j ≤ hi) ∧ p (t + UInt64.ofNat i) = true := by
  induction n generalizing t with
  | zero =>
      constructor
      · intro h
        by_cases ht : t ≤ hi <;> simp [search, ht] at h
      · rintro ⟨i, hi, -⟩
        exact absurd hi (Nat.not_lt_zero i)
  | succ n ih =>
      -- the guard, then the test at `t`; after a miss position `i` becomes `i + 1`
      by_cases ht : t ≤ hi
      · cases hp : p t with
        | true =>
            rw [search_hit ht hp]
            refine ⟨fun _ => ⟨0, Nat.succ_pos n, ?_, by rwa [add_ofNat_zero]⟩, fun _ => rfl⟩
            intro j hj
            obtain rfl : j = 0 := by omega
            rwa [add_ofNat_zero]
        | false =>
            rw [search_miss ht hp, ih]
            constructor
            · rintro ⟨i, hin, hle, hpi⟩
              refine ⟨i + 1, by omega, ?_, by rwa [← add_ofNat_succ]⟩
              intro j hj
              cases j with
              | zero => rwa [add_ofNat_zero]
              | succ j => rw [← add_ofNat_succ]; exact hle j (by omega)
            · rintro ⟨i, hin, hle, hpi⟩
              cases i with
              | zero => rw [add_ofNat_zero, hp] at hpi; exact absurd hpi (by simp)
              | succ i =>
                  refine ⟨i, by omega, ?_, by rwa [add_ofNat_succ]⟩
                  intro j hj
                  rw [add_ofNat_succ]
                  exact hle (j + 1) (by omega)
      · rw [search_done ht]
        constructor
        · intro h
          exact absurd h (by simp)
        · rintro ⟨i, -, hle, -⟩
          exact absurd (by simpa using hle 0 (Nat.zero_le i)) ht

/-- Below the largest bound a `true` comes from a value between the two ends. -/
theorem search_true_mem {n : Nat} {t : UInt64} (hhi : hi ≠ top) (h : search p hi n t = some true) :
    ∃ s, t ≤ s ∧ s ≤ hi ∧ p s = true := by
  induction n generalizing t with
  | zero => by_cases ht : t ≤ hi <;> simp [search, ht] at h
  | succ n ih =>
      by_cases ht : t ≤ hi
      · cases hp : p t with
        | true => exact ⟨t, UInt64.le_refl t, ht, hp⟩
        | false =>
            rw [search_miss ht hp] at h
            obtain ⟨s, hts, hs, hps⟩ := ih h
            have hne : t ≠ top := by
              rintro rfl
              exact hhi (UInt64.le_antisymm (le_top hi) ht)
            refine ⟨s, ?_, hs, hps⟩
            rw [UInt64.le_iff_toNat_le, toNat_succ hne] at hts
            rw [UInt64.le_iff_toNat_le]
            omega
      · rw [search_done ht] at h
        exact absurd h (by simp)

/-- Below the largest bound every value between the two ends is tested. -/
theorem search_true_iff_mem {t : UInt64} (hhi : hi ≠ top) :
    search p hi cycle t = some true ↔ ∃ s, t ≤ s ∧ s ≤ hi ∧ p s = true := by
  refine ⟨search_true_mem hhi, ?_⟩
  rintro ⟨s, hts, hs, hps⟩
  rw [UInt64.le_iff_toNat_le] at hts hs
  have hslt := s.toNat_lt
  have hvalue : ∀ j ≤ s.toNat - t.toNat, (t + UInt64.ofNat j).toNat = t.toNat + j := by
    intro j hj
    rw [UInt64.toNat_add, UInt64.toNat_ofNat', Nat.mod_eq_of_lt (b := 2 ^ 64) (by omega), Nat.mod_eq_of_lt (by omega)]
  refine search_eq_true_iff.mpr ⟨s.toNat - t.toNat, by unfold cycle; omega, ?_, ?_⟩
  · intro j hj
    rw [UInt64.le_iff_toNat_le, hvalue j hj]
    omega
  · have hreach : t + UInt64.ofNat (s.toNat - t.toNat) = s := by
      apply UInt64.toNat_inj.mp
      rw [hvalue _ (Nat.le_refl _)]
      omega
    rw [hreach]
    exact hps

/-- **Below the largest bound the loop ends** after at most `hi - t + 1` tests. -/
theorem search_ends_of_lt {n : Nat} {t : UInt64} (hhi : hi ≠ top)
    (hn : hi.toNat + 1 ≤ t.toNat + n) : ∃ b, search p hi n t = some b := by
  induction n generalizing t with
  | zero =>
      have ht : ¬ t ≤ hi := by
        rw [UInt64.le_iff_toNat_le]
        omega
      exact ⟨false, search_done ht⟩
  | succ n ih =>
      by_cases ht : t ≤ hi
      · cases hp : p t with
        | true => exact ⟨true, search_hit ht hp⟩
        | false =>
            rw [search_miss ht hp]
            have hne : t ≠ top := by
              rintro rfl
              exact hhi (UInt64.le_antisymm (le_top hi) ht)
            exact ih (by rw [toNat_succ hne]; omega)
      · exact ⟨false, search_done ht⟩

/-- **With the largest bound the guard never fails**: the loop ends within `n` tests only on a match
    among the first `n` counter values. -/
theorem search_top_iff {n : Nat} {t : UInt64} :
    (∃ b, search p top n t = some b) ↔ ∃ i < n, p (t + UInt64.ofNat i) = true := by
  constructor
  · rintro ⟨b, hb⟩
    cases b with
    | true =>
        obtain ⟨i, hin, -, hpi⟩ := search_eq_true_iff.mp hb
        exact ⟨i, hin, hpi⟩
    | false =>
        exfalso
        induction n generalizing t with
        | zero => simp [search, le_top] at hb
        | succ n ih =>
            cases hp : p t with
            | true => rw [search_hit (le_top t) hp] at hb; exact absurd hb (by simp)
            | false => rw [search_miss (le_top t) hp] at hb; exact ih hb
  · rintro ⟨i, hin, hpi⟩
    exact ⟨true, search_eq_true_iff.mpr ⟨i, hin, fun j _ => le_top _, hpi⟩⟩

/-- **One full cycle decides the loop**: a result reached with any fuel is reached within `cycle`
    tests. -/
theorem search_cycle {n : Nat} {t : UInt64} {b : Bool} (h : search p hi n t = some b) :
    search p hi cycle t = some b := by
  have hend : ∃ b', search p hi cycle t = some b' := by
    by_cases hhi : hi = top
    · subst hhi
      obtain ⟨i, -, hpi⟩ := search_top_iff.mp ⟨b, h⟩
      obtain ⟨k, hk, he⟩ := exists_add_ofNat t (t + UInt64.ofNat i)
      exact search_top_iff.mpr ⟨k, hk, by rwa [he]⟩
    · have := hi.toNat_lt
      exact search_ends_of_lt hhi (by unfold cycle; omega)
  obtain ⟨b', hb'⟩ := hend
  have h1 := search_mono h (Nat.le_max_left n cycle)
  have h2 := search_mono hb' (Nat.le_max_right n cycle)
  rw [hb', ← h2, h1]

/-! ## A window centred on `c` -/

/-- The loop over `[c - w, c + w]` in wrapping arithmetic: when its first guard holds, the two ends are
    exactly `2 * w` apart. -/
theorem window_span {c w : UInt64} (hw : w.toNat < 2 ^ 63) (h : c - w ≤ c + w) :
    (c + w).toNat = (c - w).toNat + 2 * w.toNat := by
  rw [UInt64.le_iff_toNat_le] at h
  have hc := c.toNat_lt
  simp only [UInt64.toNat_add, UInt64.toNat_sub] at h ⊢
  omega

/-- The two numbers are at most `w` apart. -/
def Within (w : Nat) (a b : UInt64) : Prop := a.toNat ≤ b.toNat + w ∧ b.toNat ≤ a.toNat + w

instance (w : Nat) (a b : UInt64) : Decidable (Within w a b) := inferInstanceAs (Decidable (_ ∧ _))

/-- **Away from the top the window loop is sound**: a `true` comes from a value at most `w` away from the
    centre. -/
theorem window_true_within {c w : UInt64} {n : Nat} (hw : w.toNat < 2 ^ 63) (hc : c + w ≠ top)
    (h : search p (c + w) n (c - w) = some true) : ∃ t, Within w.toNat t c ∧ p t = true := by
  obtain ⟨t, hlo, hhi, hpt⟩ := search_true_mem hc h
  refine ⟨t, ?_, hpt⟩
  have hspan := window_span hw (UInt64.le_trans hlo hhi)
  rw [UInt64.le_iff_toNat_le] at hlo hhi
  have hcl := c.toNat_lt
  simp only [UInt64.toNat_add, UInt64.toNat_sub] at hlo hhi hspan
  unfold Within
  omega

/-- **The values of the loop lie in the window**, for a window of any size. -/
theorem within_of_mem {c w t : UInt64} (hlo : c - w ≤ t) (hhi : t ≤ c + w) : Within w.toNat t c := by
  rw [UInt64.le_iff_toNat_le] at hlo hhi
  have hc := c.toNat_lt
  have hw := w.toNat_lt
  simp only [UInt64.toNat_add, UInt64.toNat_sub] at hlo hhi
  unfold Within
  omega

/-- Without wrap-around they are the window. -/
theorem mem_of_within {c w t : UInt64} (hlow : w.toNat ≤ c.toNat) (hhigh : c.toNat + w.toNat < 2 ^ 64)
    (h : Within w.toNat t c) : c - w ≤ t ∧ t ≤ c + w := by
  rw [UInt64.le_iff_toNat_le, UInt64.le_iff_toNat_le]
  have hc := c.toNat_lt
  simp only [UInt64.toNat_add, UInt64.toNat_sub]
  unfold Within at h
  omega

/-- Away from the top the window loop ends within `2 * w + 1` tests. -/
theorem window_ends {c w : UInt64} (hw : w.toNat < 2 ^ 63) (hc : c + w ≠ top) :
    ∃ b, search p (c + w) (2 * w.toNat + 1) (c - w) = some b := by
  by_cases h : c - w ≤ c + w
  · exact search_ends_of_lt hc (by rw [window_span hw h]; omega)
  · exact ⟨false, search_done h⟩

/-- **Exactly when the window loop ends within `2 * w + 1` tests**: its bound is not the largest value,
    or some value of the window matches. -/
theorem window_ends_iff {c w : UInt64} (hw : w.toNat < 2 ^ 63) :
    (∃ b, search p (c + w) (2 * w.toNat + 1) (c - w) = some b) ↔
      c + w ≠ top ∨ ∃ t, c - w ≤ t ∧ p t = true := by
  by_cases hc : c + w = top
  · -- the guard never fails, only a hit ends the loop
    have hspan := window_span (c := c) hw (by rw [hc]; exact le_top _)
    rw [hc, toNat_top] at hspan
    rw [hc, search_top_iff]
    constructor
    · rintro ⟨i, hi, hpi⟩
      refine Or.inr ⟨_, ?_, hpi⟩
      rw [UInt64.le_iff_toNat_le, UInt64.toNat_add, UInt64.toNat_ofNat',
        Nat.mod_eq_of_lt (b := 2 ^ 64) (by omega), Nat.mod_eq_of_lt (by omega)]
      omega
    · rintro (h | ⟨t, hle, hpt⟩)
      · exact absurd rfl h
      · rw [UInt64.le_iff_toNat_le] at hle
        have ht := t.toNat_lt
        refine ⟨t.toNat - (c - w).toNat, by omega, ?_⟩
        rw [show c - w + UInt64.ofNat (t.toNat - (c - w).toNat) = t from ?_]
        · exact hpt
        · apply UInt64.toNat_inj.mp
          rw [UInt64.toNat_add, UInt64.toNat_ofNat', Nat.mod_eq_of_lt (b := 2 ^ 64) (by omega),
            Nat.mod_eq_of_lt (by omega)]
          omega
  · exact ⟨fun _ => Or.inl hc, fun _ => window_ends hw hc⟩

end WrapSearch
