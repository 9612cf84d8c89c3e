import Mathlib

/-!
# `Lib.Directory` — two tables that are inverse to each other

A directory is a partial bijection between keys and addresses, Mathlib's `PEquiv`: the two tables, and the
proof that they are inverse, in one value. It grows by `insert`, which asks for a key and an address that
are both free, so nothing is overwritten (`le_insert`).

Keys and addresses often come from one supply: the `i`-th customer draws `key i` and `addr i`, and fills
the tables later, in any order. As long as no more are drawn than the two labellings keep apart, a drawn
key that is still free has a free address (`Issued.addr_free`), so `insert` applies.
-/

namespace Directory

variable {K A : Type} [DecidableEq K] [DecidableEq A]

/-- Enter a pair of a free key and a free address. -/
def insert (e : K ≃. A) (k : K) (a : A) (hk : e k = none) (ha : e.symm a = none) : K ≃. A where
  toFun := Function.update e k (some a)
  invFun := Function.update e.symm a (some k)
  inv k' a' := by
    by_cases hk' : k' = k
    · subst hk'
      by_cases ha' : a' = a
      · subst ha'
        simp
      · rw [Function.update_self, Function.update_of_ne ha']
        constructor
        · intro h
          have hfree : e k' = some a' := PEquiv.eq_some_iff e |>.mp h
          rw [hk] at hfree
          exact absurd hfree (by simp)
        · intro h
          exact absurd (Option.some.inj h).symm ha'
    · rw [Function.update_of_ne hk']
      by_cases ha' : a' = a
      · subst ha'
        rw [Function.update_self]
        constructor
        · intro h
          exact absurd (Option.some.inj h).symm hk'
        · intro h
          have hfree : e.symm a' = some k' := PEquiv.eq_some_iff e |>.mpr h
          rw [ha] at hfree
          exact absurd hfree (by simp)
      · rw [Function.update_of_ne ha']
        exact PEquiv.eq_some_iff e

variable {e e' : K ≃. A} {k : K} {a : A}

theorem insert_apply (hk : e k = none) (ha : e.symm a = none) (k' : K) :
    insert e k a hk ha k' = Function.update e k (some a) k' := rfl

theorem insert_symm_apply (hk : e k = none) (ha : e.symm a = none) (a' : A) :
    (insert e k a hk ha).symm a' = Function.update e.symm a (some k) a' := rfl

/-- **An insertion overwrites nothing.** -/
theorem le_insert (hk : e k = none) (ha : e.symm a = none) : e ≤ insert e k a hk ha := by
  intro k' a' h
  have hne : k' ≠ k := by
    rintro rfl
    rw [hk] at h
    exact absurd h (by simp)
  show Function.update e k (some a) k' = some a'
  rw [Function.update_of_ne hne]
  exact h

/-- What a step of a component that owns a directory may do to it. -/
inductive Step : (K ≃. A) → (K ≃. A) → Prop where
  | keep (e : K ≃. A) : Step e e
  | enter (e : K ≃. A) (k : K) (a : A) (hk : e k = none) (ha : e.symm a = none) :
      Step e (insert e k a hk ha)

theorem Step.le (h : Step e e') : e ≤ e' := by
  cases h with
  | keep => exact le_refl e
  | enter k a hk ha => exact le_insert hk ha

/-! ## Directories filled from one supply -/

variable {key : ℕ → K} {addr : ℕ → A} {n m i : ℕ}

/-- Every pair of the directory was drawn, by one of the first `n` customers. -/
def Issued (key : ℕ → K) (addr : ℕ → A) (n : ℕ) (e : K ≃. A) : Prop :=
  ∀ k a, e k = some a → ∃ i < n, k = key i ∧ a = addr i

omit [DecidableEq K] [DecidableEq A] in
theorem Issued.mono (h : Issued key addr n e) (hnm : n ≤ m) : Issued key addr m e := by
  intro k a hka
  obtain ⟨i, hi, hk, ha⟩ := h k a hka
  exact ⟨i, lt_of_lt_of_le hi hnm, hk, ha⟩

omit [DecidableEq K] [DecidableEq A] in
theorem issued_empty : Issued key addr n (⊥ : K ≃. A) := by
  intro k a h
  exact absurd h (by simp)

omit [DecidableEq K] [DecidableEq A] in
/-- The next key to be drawn is free, as long as the keys drawn are different. -/
theorem Issued.key_free (h : Issued key addr n e) (hinj : Set.InjOn key (Set.Iio (n + 1))) :
    e (key n) = none := by
  cases hfree : e (key n) with
  | none => rfl
  | some a =>
      obtain ⟨j, hj, hkey, -⟩ := h (key n) a hfree
      have heq : n = j := hinj (Nat.lt_succ_self n) (Nat.lt_succ_of_lt hj) hkey
      exact absurd heq (Nat.ne_of_gt hj)

omit [DecidableEq K] [DecidableEq A] in
/-- **A drawn key that is free has a free address**, as long as the addresses drawn are different. -/
theorem Issued.addr_free (h : Issued key addr n e) (hinj : Set.InjOn addr (Set.Iio n)) (hi : i < n)
    (hk : e (key i) = none) : e.symm (addr i) = none := by
  cases hfree : e.symm (addr i) with
  | none => rfl
  | some k =>
      have hka : e k = some (addr i) := PEquiv.eq_some_iff e |>.mp hfree
      obtain ⟨j, hj, rfl, haddr⟩ := h k (addr i) hka
      rw [← hinj hi hj haddr, hk] at hka
      exact absurd hka (by simp)

theorem Issued.insert (h : Issued key addr n e) (hi : i < n) (hk : e (key i) = none)
    (ha : e.symm (addr i) = none) : Issued key addr n (insert e (key i) (addr i) hk ha) := by
  intro k a hka
  rw [insert_apply] at hka
  by_cases hki : k = key i
  · rw [hki, Function.update_self] at hka
    exact ⟨i, hi, hki, (Option.some.inj hka).symm⟩
  · rw [Function.update_of_ne hki] at hka
    exact h k a hka

end Directory
