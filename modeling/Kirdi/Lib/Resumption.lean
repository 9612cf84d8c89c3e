import Mathlib

/-!
# `Lib.Resumption` — handlers as sequences of atomic steps, and asynchronous interrupts

A handler of an event loop runs to completion on its thread, but a signal handler may run between any
two of its steps. `Proc σ` is such a handler over a state `σ`: a sequence of atomic updates, each of which
chooses what comes next from the state it found. `Proc.run` runs it undisturbed; `Proc.runInterrupted`
runs another routine once, after a given number of steps, and then the rest.

## Contents
- `Proc`, sequencing (`andThen`), the number of steps (`steps`), the two ways to run.
- **Frame rule** `Keeps`: a quantity no step changes is unchanged by the run.
- **Step relation** `Each`: what every single step does, for handlers that share their state with threads.
- **Invariant rule** `Maintains`: an invariant of every step and of the interrupt holds at the end, at
  whatever point the interrupt falls.
- **Interrupted triples** `Robust`: what a handler keeps before and after the interrupt, and when it is
  interrupted somewhere; how handlers with such a triple compose.
- **Interrupted effects** `Effects`: how a handler changes a quantity that the interrupt does not look at.
-/

/-- A handler: finished, or one atomic update followed by a handler that depends on the state found. -/
inductive Proc (σ : Type) where
  | done : Proc σ
  | act (upd : σ → σ) (next : σ → Proc σ) : Proc σ

namespace Proc

variable {σ α : Type}

/-- One atomic update. -/
def atom (upd : σ → σ) : Proc σ := act upd fun _ => done

/-- A test of the state: an atomic read, then one of two handlers. -/
def branch (c : σ → Bool) (p q : Proc σ) : Proc σ := act id fun s => if c s then p else q

/-- `p`, then `q`. -/
def andThen : Proc σ → Proc σ → Proc σ
  | done, q => q
  | act upd next, q => act upd fun s => (next s).andThen q

/-- Run a handler to its end. -/
def run : Proc σ → σ → σ
  | done, s => s
  | act upd next, s => (next s).run (upd s)

/-- How many atomic steps a handler takes from a state. -/
def steps : Proc σ → σ → Nat
  | done, _ => 0
  | act upd next, s => (next s).steps (upd s) + 1

/-- Run a handler with `intr` running once, after the first `k` steps (at the end when the handler takes
    fewer). -/
def runInterrupted (intr : σ → σ) : Proc σ → Nat → σ → σ
  | done, _, s => intr s
  | act upd next, 0, s => (act upd next).run (intr s)
  | act upd next, k + 1, s => (next s).runInterrupted intr k (upd s)

/-- No step changes the quantity `f`. -/
def Keeps (f : σ → α) : Proc σ → Prop
  | done => True
  | act upd next => (∀ s, f (upd s) = f s) ∧ ∀ s, Keeps f (next s)

/-- Every step relates the state it finds to the one it leaves. -/
def Each (R : σ → σ → Prop) : Proc σ → Prop
  | done => True
  | act upd next => (∀ s, R s (upd s)) ∧ ∀ s, Each R (next s)

/-- Every step keeps the invariant `I`. -/
def Maintains (I : σ → Prop) : Proc σ → Prop
  | done => True
  | act upd next => (∀ s, I s → I (upd s)) ∧ ∀ s, Maintains I (next s)

/-! ## Running a composite handler -/

@[simp] theorem run_done (s : σ) : (done : Proc σ).run s = s := rfl

@[simp] theorem run_act (upd : σ → σ) (next : σ → Proc σ) (s : σ) :
    (act upd next).run s = (next s).run (upd s) := rfl

@[simp] theorem run_atom (upd : σ → σ) (s : σ) : (atom upd).run s = upd s := rfl

@[simp] theorem run_branch (c : σ → Bool) (p q : Proc σ) (s : σ) :
    (branch c p q).run s = if c s then p.run s else q.run s := by
  cases h : c s <;> simp [branch, h]

@[simp] theorem run_andThen (p q : Proc σ) (s : σ) : (p.andThen q).run s = q.run (p.run s) := by
  induction p generalizing s with
  | done => rfl
  | act upd next ih => exact ih s (upd s)

theorem andThen_assoc (p q r : Proc σ) : (p.andThen q).andThen r = p.andThen (q.andThen r) := by
  induction p with
  | done => rfl
  | act upd next ih => exact congrArg (act upd) (funext fun s => ih s)

/-- An interrupt that falls within the first of two handlers leaves the second undisturbed. -/
theorem runInterrupted_andThen_lt (intr : σ → σ) {k : Nat} (p q : Proc σ) {s : σ}
    (h : k < p.steps s) :
    (p.andThen q).runInterrupted intr k s = q.run (p.runInterrupted intr k s) := by
  induction p generalizing s k with
  | done => exact absurd h (Nat.not_lt_zero k)
  | act upd next ih =>
      cases k with
      | zero => exact run_andThen (act upd next) q (intr s)
      | succ k => exact ih s (Nat.lt_of_succ_lt_succ h)

/-- An interrupt that falls after the first of two handlers leaves it undisturbed. -/
theorem runInterrupted_andThen_ge (intr : σ → σ) {k : Nat} (p q : Proc σ) {s : σ}
    (h : p.steps s ≤ k) :
    (p.andThen q).runInterrupted intr k s = q.runInterrupted intr (k - p.steps s) (p.run s) := by
  induction p generalizing s k with
  | done => rfl
  | act upd next ih =>
      cases k with
      | zero => exact absurd h (Nat.not_succ_le_zero _)
      | succ k =>
          have hk := ih s (s := upd s) (k := k) (Nat.le_of_succ_le_succ h)
          show ((next s).andThen q).runInterrupted intr k (upd s) = _
          rw [hk, steps, run_act, Nat.add_sub_add_right]

/-! ## Frame rule -/

theorem keeps_done {f : σ → α} : Keeps f done := trivial

theorem keeps_atom {f : σ → α} {upd : σ → σ} (h : ∀ s, f (upd s) = f s) : Keeps f (atom upd) :=
  ⟨h, fun _ => trivial⟩

theorem keeps_act {f : σ → α} {upd : σ → σ} {next : σ → Proc σ} (h : ∀ s, f (upd s) = f s)
    (hnext : ∀ s, Keeps f (next s)) : Keeps f (act upd next) := ⟨h, hnext⟩

theorem keeps_branch {f : σ → α} {c : σ → Bool} {p q : Proc σ} (hp : Keeps f p) (hq : Keeps f q) :
    Keeps f (branch c p q) := by
  refine ⟨fun _ => rfl, fun s => ?_⟩
  show Keeps f (if c s then p else q)
  split
  · exact hp
  · exact hq

theorem keeps_andThen {f : σ → α} {p q : Proc σ} (hp : Keeps f p) (hq : Keeps f q) :
    Keeps f (p.andThen q) := by
  induction p with
  | done => exact hq
  | act upd next ih => exact ⟨hp.1, fun s => ih s (hp.2 s)⟩

/-- **Frame rule.** -/
theorem Keeps.run_eq {f : σ → α} {p : Proc σ} (h : Keeps f p) (s : σ) : f (p.run s) = f s := by
  induction p generalizing s with
  | done => rfl
  | act upd next ih =>
      rw [run_act, ih s (h.2 s), h.1 s]

/-! ## Step relation -/

section Each

variable {R : σ → σ → Prop}

theorem each_done : Each R done := trivial

theorem each_act {upd : σ → σ} {next : σ → Proc σ} (h : ∀ s, R s (upd s))
    (hnext : ∀ s, Each R (next s)) : Each R (act upd next) := ⟨h, hnext⟩

theorem each_atom {upd : σ → σ} (h : ∀ s, R s (upd s)) : Each R (atom upd) :=
  each_act h fun _ => each_done

theorem each_andThen {p q : Proc σ} (hp : Each R p) (hq : Each R q) : Each R (p.andThen q) := by
  induction p with
  | done => exact hq
  | act upd next ih => exact each_act hp.1 fun s => ih s (hp.2 s)

theorem Each.imp {S : σ → σ → Prop} (hRS : ∀ s s', R s s' → S s s') {p : Proc σ} (h : Each R p) :
    Each S p := by
  induction p with
  | done => exact each_done
  | act upd next ih => exact each_act (fun s => hRS s _ (h.1 s)) fun s => ih s (h.2 s)

/-- A relation that only looks at a quantity no step changes. -/
theorem Keeps.each {f : σ → α} (hR : ∀ s s', f s' = f s → R s s') {p : Proc σ} (h : Keeps f p) :
    Each R p := by
  induction p with
  | done => exact each_done
  | act upd next ih => exact each_act (fun s => hR s _ (h.1 s)) fun s => ih s (h.2 s)

end Each

/-! ## Invariant rule -/

theorem maintains_done {I : σ → Prop} : Maintains I done := trivial

theorem maintains_act {I : σ → Prop} {upd : σ → σ} {next : σ → Proc σ} (h : ∀ s, I s → I (upd s))
    (hnext : ∀ s, Maintains I (next s)) : Maintains I (act upd next) := ⟨h, hnext⟩

theorem maintains_atom {I : σ → Prop} {upd : σ → σ} (h : ∀ s, I s → I (upd s)) :
    Maintains I (atom upd) := maintains_act h fun _ => trivial

theorem maintains_branch {I : σ → Prop} {c : σ → Bool} {p q : Proc σ} (hp : Maintains I p)
    (hq : Maintains I q) : Maintains I (branch c p q) := by
  refine maintains_act (fun _ h => h) fun s => ?_
  split
  · exact hp
  · exact hq

theorem maintains_andThen {I : σ → Prop} {p q : Proc σ} (hp : Maintains I p) (hq : Maintains I q) :
    Maintains I (p.andThen q) := by
  induction p with
  | done => exact hq
  | act upd next ih => exact ⟨hp.1, fun s => ih s (hp.2 s)⟩

/-- **Invariant rule**, undisturbed run. -/
theorem Maintains.run {I : σ → Prop} {p : Proc σ} (h : Maintains I p) {s : σ} (hs : I s) :
    I (p.run s) := by
  induction p generalizing s with
  | done => exact hs
  | act upd next ih => exact ih s (h.2 s) (h.1 s hs)

/-- **Invariant rule**, interrupted run: `I` holds before the interrupt, the interrupt turns it into `J`,
    and the rest of the handler keeps `J`. -/
theorem Maintains.runInterrupted {I J : σ → Prop} {intr : σ → σ} {p : Proc σ} (hI : Maintains I p)
    (hJ : Maintains J p) (hintr : ∀ s, I s → J (intr s)) {s : σ} (hs : I s) (k : Nat) :
    J (p.runInterrupted intr k s) := by
  induction p generalizing s k with
  | done => exact hintr s hs
  | act upd next ih =>
      cases k with
      | zero => exact hJ.run (hintr s hs)
      | succ k => exact ih s (hI.2 s) (hJ.2 s) (hI.1 s hs) k

/-- An interrupt that does nothing in the states the handler passes through. -/
theorem runInterrupted_eq_run {R : σ → Prop} {intr : σ → σ} (hid : ∀ s, R s → intr s = s)
    {p : Proc σ} (hp : Maintains R p) {s : σ} (hs : R s) (k : Nat) :
    p.runInterrupted intr k s = p.run s := by
  induction p generalizing s k with
  | done => exact hid s hs
  | act upd next ih =>
      cases k with
      | zero =>
          show (act upd next).run (intr s) = _
          rw [hid s hs]
      | succ k => exact ih s (hp.2 s) (hp.1 s hs) k

/-! ## Interrupted triples -/

variable {P Q : σ → Prop} {intr : σ → σ} {p q : Proc σ}

/-- The handler keeps `P`, keeps the `Q` that the interrupt leaves behind, and ends in `Q` when the interrupt
    falls anywhere in it. -/
structure Robust (intr : σ → σ) (P Q : σ → Prop) (p : Proc σ) : Prop where
  before      : ∀ s, P s → P (p.run s)
  after       : ∀ s, Q s → Q (p.run s)
  interrupted : ∀ s k, P s → Q (p.runInterrupted intr k s)

theorem robust_of_maintains (hintr : ∀ s, P s → Q (intr s)) (hP : Maintains P p) (hQ : Maintains Q p) :
    Robust intr P Q p where
  before := fun _ hs => hP.run hs
  after := fun _ hs => hQ.run hs
  interrupted := fun _ k hs => hP.runInterrupted hQ hintr hs k

theorem robust_done (hintr : ∀ s, P s → Q (intr s)) : Robust intr P Q done :=
  robust_of_maintains hintr maintains_done maintains_done

theorem robust_atom (hintr : ∀ s, P s → Q (intr s)) {upd : σ → σ} (hP : ∀ s, P s → P (upd s))
    (hQ : ∀ s, Q s → Q (upd s)) : Robust intr P Q (atom upd) :=
  robust_of_maintains hintr (maintains_atom hP) (maintains_atom hQ)

/-- The interrupt falls before the first step, or the step is taken and it falls later. -/
theorem robust_act (hintr : ∀ s, P s → Q (intr s)) {upd : σ → σ} {next : σ → Proc σ}
    (hP : ∀ s, P s → P (upd s)) (hQ : ∀ s, Q s → Q (upd s))
    (hnext : ∀ s, P s ∨ Q s → Robust intr P Q (next s)) : Robust intr P Q (act upd next) where
  before := fun s hs => (hnext s (Or.inl hs)).before _ (hP s hs)
  after := fun s hs => (hnext s (Or.inr hs)).after _ (hQ s hs)
  interrupted := by
    intro s k hs
    cases k with
    | zero => exact (hnext (intr s) (Or.inr (hintr s hs))).after _ (hQ _ (hintr s hs))
    | succ k => exact (hnext s (Or.inl hs)).interrupted _ k (hP s hs)

theorem robust_branch (hintr : ∀ s, P s → Q (intr s)) {b : σ → Bool} (hp : Robust intr P Q p)
    (hq : Robust intr P Q q) : Robust intr P Q (branch b p q) := by
  refine robust_act hintr (fun _ hs => hs) (fun _ hs => hs) fun s _ => ?_
  split
  · exact hp
  · exact hq

/-- The interrupt falls in the first handler, and the second one keeps what it leaves, or in the second. -/
theorem robust_andThen (hp : Robust intr P Q p) (hq : Robust intr P Q q) :
    Robust intr P Q (p.andThen q) where
  before := by
    intro s hs
    rw [run_andThen]
    exact hq.before _ (hp.before s hs)
  after := by
    intro s hs
    rw [run_andThen]
    exact hq.after _ (hp.after s hs)
  interrupted := by
    intro s k hs
    by_cases hk : k < p.steps s
    · rw [runInterrupted_andThen_lt intr p q hk]
      exact hq.after _ (hp.interrupted s k hs)
    · rw [runInterrupted_andThen_ge intr p q (Nat.not_lt.mp hk)]
      exact hq.interrupted (p.run s) _ (hp.before s hs)

/-- A quantity that determines another one. -/
theorem Keeps.comp {β : Type} {f : σ → α} (h : Keeps f p) (g : α → β) : Keeps (fun s => g (f s)) p := by
  induction p with
  | done => trivial
  | act upd next ih => exact ⟨fun s => congrArg g (h.1 s), fun s => ih s (h.2 s)⟩

/-- An invariant that is a property of a quantity no step changes. -/
theorem Keeps.maintains {f : σ → α} (h : Keeps f p) (I : α → Prop) : Maintains (fun s => I (f s)) p := by
  induction p with
  | done => trivial
  | act upd next ih =>
      refine ⟨?_, fun s => ih s (h.2 s)⟩
      intro s hs
      show I (f (upd s))
      rw [h.1 s]
      exact hs

/-! ## Interrupted effects -/

section Effects

variable {f : σ → α} {R S : α → α → Prop}

/-- The handler changes `f` as `R` says, interrupted or not. -/
structure Effects (intr : σ → σ) (f : σ → α) (R : α → α → Prop) (p : Proc σ) : Prop where
  run         : ∀ s, R (f s) (f (p.run s))
  interrupted : ∀ s k, R (f s) (f (p.runInterrupted intr k s))

theorem Effects.imp (h : Effects intr f R p) (hRS : ∀ a b, R a b → S a b) : Effects intr f S p where
  run := fun s => hRS _ _ (h.run s)
  interrupted := fun s k => hRS _ _ (h.interrupted s k)

theorem effects_done (hintr : ∀ s, f (intr s) = f s) : Effects intr f Eq done where
  run := fun _ => rfl
  interrupted := fun s _ => (hintr s).symm

/-- What follows the first step may depend on the state that it finds, of which `f` is as at the start. -/
theorem effects_act (hintr : ∀ s, f (intr s) = f s) {upd : σ → σ} {next : σ → Proc σ}
    (hnext : ∀ s, Effects intr f (fun a b => a = f (upd s) → R (f s) b) (next s)) :
    Effects intr f R (act upd next) where
  run := fun s => (hnext s).run (upd s) rfl
  interrupted := by
    intro s k
    cases k with
    | zero =>
        rw [← hintr s]
        exact (hnext (intr s)).run (upd (intr s)) rfl
    | succ k => exact (hnext s).interrupted (upd s) k rfl

theorem effects_atom (hintr : ∀ s, f (intr s) = f s) {upd : σ → σ} (h : ∀ s, R (f s) (f (upd s))) :
    Effects intr f R (atom upd) := by
  refine effects_act hintr fun s => (effects_done hintr).imp ?_
  rintro a b rfl rfl
  exact h s

theorem effects_of_keeps (hintr : ∀ s, f (intr s) = f s) (h : Keeps f p) : Effects intr f Eq p := by
  induction p with
  | done => exact effects_done hintr
  | act upd next ih =>
      refine effects_act hintr fun s => (ih s (h.2 s)).imp ?_
      rintro a b rfl rfl
      exact (h.1 s).symm

theorem effects_branch (hintr : ∀ s, f (intr s) = f s) {b : σ → Bool} (hp : Effects intr f R p)
    (hq : Effects intr f R q) : Effects intr f R (branch b p q) := by
  refine effects_act hintr fun s => ?_
  have heither : Effects intr f R (if b s then p else q) := by
    split
    · exact hp
    · exact hq
  refine heither.imp ?_
  rintro a b hR rfl
  exact hR

/-- **One handler after another**: the interrupt falls in the first or in the second. -/
theorem effects_andThen (hp : Effects intr f R p) (hq : Effects intr f S q) :
    Effects intr f (Relation.Comp R S) (p.andThen q) where
  run := by
    intro s
    rw [run_andThen]
    exact ⟨_, hp.run s, hq.run _⟩
  interrupted := by
    intro s k
    by_cases hk : k < p.steps s
    · rw [runInterrupted_andThen_lt intr p q hk]
      exact ⟨_, hp.interrupted s k, hq.run _⟩
    · rw [runInterrupted_andThen_ge intr p q (Nat.not_lt.mp hk)]
      exact ⟨_, hp.run s, hq.interrupted _ _⟩

/-- A first handler that leaves `f` alone. -/
theorem effects_keeps_andThen (hintr : ∀ s, f (intr s) = f s) (hp : Keeps f p) (hq : Effects intr f S q) :
    Effects intr f S (p.andThen q) := by
  refine (effects_andThen (effects_of_keeps hintr hp) hq).imp ?_
  rintro a b ⟨_, rfl, hS⟩
  exact hS

end Effects

end Proc
