import Kirdi.Lib.Resumption

/-!
# `Lib.Passage` — what a handler passes through

An outside observer sees the states between the steps of a handler, those of an interrupt included
(`visited`, `visitedInterrupted`). `Safe` and `SafeAt` are the weakest conditions under which all of them
meet an invariant `I` and the end meets a postcondition; they follow the structure of the handler.

## Contents
- `safe_iff`, `safeAt_iff`: what the two conditions say about the states.
- **Sequencing** `safe_andThen`, `safeAt_andThen_lt`, `safeAt_andThen_ge`.
- **Lists of updates** `safe_atoms`, `safeAt_atoms`: an invariant that speaks about the updates still to come.
- **Interrupted triples** `Guards`: as `Robust`, with the states on the way and with postconditions.
-/

namespace Proc

variable {σ : Type}

/-- The states after each step. -/
def visited : Proc σ → σ → List σ
  | done, _ => []
  | act upd next, s => upd s :: (next s).visited (upd s)

/-- The states after each step, with `intr` running after the first `k` steps. -/
def visitedInterrupted : Proc σ → (intr : Proc σ) → Nat → σ → List σ
  | done, intr, _, s => intr.visited s
  | act upd next, intr, 0, s => intr.visited s ++ (act upd next).visited (intr.run s)
  | act upd next, intr, k + 1, s => upd s :: (next s).visitedInterrupted intr k (upd s)

/-- Every state passed through meets `I`, and the end meets `Q`. -/
def Safe (I Q : σ → Prop) : Proc σ → σ → Prop
  | done, s => Q s
  | act upd next, s => I (upd s) ∧ (next s).Safe I Q (upd s)

/-- The same with `intr` running after the first `k` steps. -/
def SafeAt (I Q : σ → Prop) : Proc σ → (intr : Proc σ) → Nat → σ → Prop
  | done, intr, _, s => intr.Safe I Q s
  | act upd next, intr, 0, s => intr.Safe I ((act upd next).Safe I Q) s
  | act upd next, intr, k + 1, s => I (upd s) ∧ (next s).SafeAt I Q intr k (upd s)

variable {I P Q Q' R : σ → Prop} {intr p q : Proc σ} {s : σ} {k : Nat}

theorem safe_iff : p.Safe I Q s ↔ (∀ s' ∈ p.visited s, I s') ∧ Q (p.run s) := by
  induction p generalizing s with
  | done => simp [Safe, visited]
  | act upd next ih =>
      show I (upd s) ∧ (next s).Safe I Q (upd s) ↔ (∀ s' ∈ upd s :: (next s).visited (upd s), I s') ∧ _
      rw [ih s, List.forall_mem_cons, run_act, and_assoc]

theorem safeAt_iff : p.SafeAt I Q intr k s ↔
    (∀ s' ∈ p.visitedInterrupted intr k s, I s') ∧ Q (p.runInterrupted intr.run k s) := by
  induction p generalizing s k with
  | done => exact safe_iff
  | act upd next ih =>
      cases k with
      | zero =>
          show intr.Safe I ((act upd next).Safe I Q) s ↔
            (∀ s' ∈ intr.visited s ++ (act upd next).visited (intr.run s), I s') ∧ _
          rw [safe_iff, safe_iff, List.forall_mem_append, and_assoc]
          rfl
      | succ k =>
          show I (upd s) ∧ (next s).SafeAt I Q intr k (upd s) ↔
            (∀ s' ∈ upd s :: (next s).visitedInterrupted intr k (upd s), I s') ∧ _
          rw [ih s, List.forall_mem_cons, and_assoc]
          rfl

/-! ## Safe runs -/

theorem Safe.mono (h : p.Safe I Q s) (hQ : ∀ s, Q s → Q' s) : p.Safe I Q' s := by
  rw [safe_iff] at h ⊢
  exact ⟨h.1, hQ _ h.2⟩

theorem Safe.imp {J : σ → Prop} (h : p.Safe I Q s) (hI : ∀ s, I s → J s) (hQ : ∀ s, Q s → Q' s) :
    p.Safe J Q' s := by
  rw [safe_iff] at h ⊢
  exact ⟨fun s' hs' => hI s' (h.1 s' hs'), hQ _ h.2⟩

theorem safe_andThen : (p.andThen q).Safe I Q s ↔ p.Safe I (q.Safe I Q) s := by
  induction p generalizing s with
  | done => exact Iff.rfl
  | act upd next ih => exact and_congr_right fun _ => ih s

/-- Steps that keep an invariant stronger than `I`. -/
theorem safe_of_maintains (hI : ∀ s, P s → I s) (hp : Maintains P p) (hs : P s) : p.Safe I P s := by
  induction p generalizing s with
  | done => exact hs
  | act upd next ih => exact ⟨hI _ (hp.1 s hs), ih s (hp.2 s) (hp.1 s hs)⟩

theorem SafeAt.mono (h : p.SafeAt I Q intr k s) (hQ : ∀ s, Q s → Q' s) : p.SafeAt I Q' intr k s := by
  rw [safeAt_iff] at h ⊢
  exact ⟨h.1, hQ _ h.2⟩

/-- An interrupt that comes within the first of two handlers. -/
theorem safeAt_andThen_lt (hk : k < p.steps s) (h : p.SafeAt I (q.Safe I Q) intr k s) :
    (p.andThen q).SafeAt I Q intr k s := by
  induction p generalizing s k with
  | done => exact absurd hk (Nat.not_lt_zero k)
  | act upd next ih =>
      cases k with
      | zero => exact Safe.mono h fun _ hs => safe_andThen.mpr hs
      | succ k => exact ⟨h.1, ih s (Nat.lt_of_succ_lt_succ hk) h.2⟩

/-- An interrupt that comes after the first of two handlers. -/
theorem safeAt_andThen_ge (hk : p.steps s ≤ k) (hp : p.Safe I (fun _ => True) s)
    (hq : q.SafeAt I Q intr (k - p.steps s) (p.run s)) : (p.andThen q).SafeAt I Q intr k s := by
  induction p generalizing s k with
  | done => exact hq
  | act upd next ih =>
      cases k with
      | zero => exact absurd hk (Nat.not_succ_le_zero _)
      | succ k =>
          refine ⟨hp.1, ih s (Nat.le_of_succ_le_succ hk) hp.2 ?_⟩
          rw [steps, Nat.add_sub_add_right] at hq
          exact hq

/-- An interrupt that changes nothing. -/
theorem safeAt_of_noop (hintr : ∀ s, R s → I s → ∀ Q : σ → Prop, Q s → intr.Safe I Q s)
    (hR : Maintains R p) (hs : R s) (hI : I s) (h : p.Safe I Q s) : p.SafeAt I Q intr k s := by
  induction p generalizing s k with
  | done => exact hintr s hs hI Q h
  | act upd next ih =>
      cases k with
      | zero => exact hintr s hs hI _ h
      | succ k => exact ⟨h.1, ih s (hR.2 s) (hR.1 s hs) h.1 h.2⟩

/-! ## A list of updates -/

variable {ι : Type}

/-- One update after the other. -/
def atoms (f : ι → σ → σ) : List ι → Proc σ
  | [] => done
  | x :: xs => act (f x) fun _ => atoms f xs

variable {f : ι → σ → σ} {xs : List ι} {J L : List ι → σ → Prop}

/-- The rule of a list of updates: `J` speaks about those still to come. -/
theorem safe_atoms (hI : ∀ xs s, J xs s → I s) (hJ : ∀ x xs s, J (x :: xs) s → J xs (f x s))
    (h : J xs s) : (atoms f xs).Safe I (J []) s := by
  induction xs generalizing s with
  | nil => exact h
  | cons x xs ih => exact ⟨hI xs _ (hJ x xs s h), ih (hJ x xs s h)⟩

/-- An interrupt after `k` updates turns `J` into `L`. -/
theorem safeAt_atoms (hI : ∀ xs s, J xs s → I s) (hL : ∀ xs s, L xs s → I s)
    (hJ : ∀ x xs s, J (x :: xs) s → J xs (f x s)) (hLstep : ∀ x xs s, L (x :: xs) s → L xs (f x s))
    (hintr : ∀ s, J (xs.drop k) s → intr.Safe I (L (xs.drop k)) s) (h : J xs s) :
    (atoms f xs).SafeAt I (L []) intr k s := by
  induction xs generalizing s k with
  | nil =>
      rw [List.drop_nil] at hintr
      exact hintr s h
  | cons x xs ih =>
      cases k with
      | zero =>
          refine (hintr s h).mono ?_
          intro s' hs'
          exact ⟨hL xs _ (hLstep x xs s' hs'), safe_atoms hL hLstep (hLstep x xs s' hs')⟩
      | succ k => exact ⟨hI xs _ (hJ x xs s h), ih hintr (hJ x xs s h)⟩

/-! ## Interrupted triples -/

/-- From `P` the handler ends in `P'`. An interrupt turns `P` into `Q`; when it falls after `k` steps, the
    handler ends in `Q'`. All states on the way meet `I`. -/
structure Guards (intr : Proc σ) (I P Q : σ → Prop) (p : Proc σ) (P' Q' : σ → Prop) (k : Nat) : Prop where
  before      : ∀ s, P s → p.Safe I P' s
  after       : k = 0 → ∀ s, Q s → p.Safe I Q' s
  interrupted : ∀ s, P s → p.SafeAt I Q' intr k s

variable {P' N M : σ → Prop}

theorem guards_done (hintr : ∀ s, P s → intr.Safe I Q s) : Guards intr I P Q done P Q k where
  before := fun _ hs => hs
  after := fun _ _ hs => hs
  interrupted := fun s hs => hintr s hs

theorem Guards.mono (h : Guards intr I P Q p P' Q' k) (hP : ∀ s, P' s → M s) (hQ : ∀ s, Q' s → N s) :
    Guards intr I P Q p M N k where
  before := fun s hs => (h.before s hs).mono hP
  after := fun hk s hs => (h.after hk s hs).mono hQ
  interrupted := fun s hs => (h.interrupted s hs).mono hQ

/-- The interrupt falls before the first step, or the step is taken and it falls later. -/
theorem guards_act (hintr : ∀ s, P s → intr.Safe I Q s) {upd : σ → σ} {next : σ → Proc σ}
    (hP : ∀ s, P s → I (upd s) ∧ M (upd s)) (hQ : ∀ s, Q s → I (upd s) ∧ N (upd s))
    (hnext : ∀ s, P s ∨ Q s → Guards intr I M N (next s) P' Q' (k - 1)) :
    Guards intr I P Q (act upd next) P' Q' k := by
  have hafter : k = 0 → ∀ s, Q s → (act upd next).Safe I Q' s := by
    rintro rfl s hs
    exact ⟨(hQ s hs).1, (hnext s (Or.inr hs)).after rfl _ (hQ s hs).2⟩
  refine ⟨fun s hs => ⟨(hP s hs).1, (hnext s (Or.inl hs)).before _ (hP s hs).2⟩, hafter, ?_⟩
  intro s hs
  cases k with
  | zero => exact (hintr s hs).mono (hafter rfl)
  | succ k => exact ⟨(hP s hs).1, (hnext s (Or.inl hs)).interrupted _ (hP s hs).2⟩

theorem guards_atom (hintr : ∀ s, P s → intr.Safe I Q s) (hintr' : ∀ s, P' s → intr.Safe I Q' s)
    {upd : σ → σ} (hP : ∀ s, P s → I (upd s) ∧ P' (upd s)) (hQ : ∀ s, Q s → I (upd s) ∧ Q' (upd s)) :
    Guards intr I P Q (atom upd) P' Q' k :=
  guards_act hintr hP hQ fun _ _ => guards_done hintr'

theorem guards_andThen (hp : Guards intr I P Q p M N k) (hq : ∀ k, Guards intr I M N q P' Q' k) :
    Guards intr I P Q (p.andThen q) P' Q' k where
  before := fun s hs => safe_andThen.mpr ((hp.before s hs).mono (hq 0).before)
  after := fun hk s hs => safe_andThen.mpr ((hp.after hk s hs).mono ((hq 0).after rfl))
  interrupted := by
    intro s hs
    by_cases hk : k < p.steps s
    · -- the second handler runs after the interrupt
      exact safeAt_andThen_lt hk ((hp.interrupted s hs).mono ((hq 0).after rfl))
    · have hbefore := safe_iff.mp (hp.before s hs)
      exact safeAt_andThen_ge (Nat.not_lt.mp hk) (safe_iff.mpr ⟨hbefore.1, trivial⟩)
        ((hq _).interrupted _ hbefore.2)

/-- A handler whose steps do not change what the conditions depend on. -/
theorem guards_of_keeps {α : Type} {g : σ → α} (hintr : ∀ s, P s → intr.Safe I Q s)
    (hPI : ∀ s, P s → I s) (hQI : ∀ s, Q s → I s) (hP : ∀ s s', g s' = g s → P s → P s')
    (hQ : ∀ s s', g s' = g s → Q s → Q s') (hp : Keeps g p) : Guards intr I P Q p P Q k := by
  induction p generalizing k with
  | done => exact guards_done hintr
  | act upd next ih =>
      refine guards_act hintr ?_ ?_ fun s _ => ih s (hp.2 s)
      · intro s hs
        exact ⟨hPI _ (hP s _ (hp.1 s) hs), hP s _ (hp.1 s) hs⟩
      · intro s hs
        exact ⟨hQI _ (hQ s _ (hp.1 s) hs), hQ s _ (hp.1 s) hs⟩

end Proc
