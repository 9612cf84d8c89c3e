import Mathlib

/-!
# `Lib.EventMachine` — executable machines driven by a list of events

A machine is a function `step : σ → ε → Option σ`; `none` means that the event cannot happen in the
state. `run` replays a list of events. Runs are what safety statements quantify over, so this module
carries the rules every such statement is proved by:

* `run_invariant` — what every step keeps, every run keeps, where the steps may be restricted to those
  that meet a condition `C` on the state before the step and the event (`Along`);
* `Along.of_append` / `Along.after` / `along_cons` — how such a condition splits over a run;
* `terminates_of_measure` / `not_terminates_of_invariant` — when every sequence of steps is finite.
* `only`, `Stuck` — a machine left to some of its events, and where it stops: a liveness statement says that
  such a machine terminates and what holds where it is stuck.
-/

namespace EventMachine

variable {σ ε : Type}

/-- Replay the events of a list in order. -/
def run (step : σ → ε → Option σ) : σ → List ε → Option σ
  | s, [] => some s
  | s, e :: es => (step s e).bind fun s' => run step s' es

/-- Every step of the run of `es` from `s` meets `C`: at each event, `C` holds of the state the run is
    in and of the event. -/
def Along (step : σ → ε → Option σ) (C : σ → ε → Prop) (s : σ) (es : List ε) : Prop :=
  ∀ pre e post s', es = pre ++ e :: post → run step s pre = some s' → C s' e

variable {step : σ → ε → Option σ} {C : σ → ε → Prop} {I : σ → Prop}

/-! ## How runs compose -/

theorem run_nil (s : σ) : run step s [] = some s := rfl

theorem run_cons {s s' : σ} {e : ε} {es : List ε} :
    run step s (e :: es) = some s' ↔ ∃ m, step s e = some m ∧ run step m es = some s' := by
  show (step s e).bind _ = some s' ↔ _
  rw [Option.bind_eq_some_iff]

theorem run_append {s s' : σ} {es fs : List ε} :
    run step s (es ++ fs) = some s' ↔ ∃ m, run step s es = some m ∧ run step m fs = some s' := by
  induction es generalizing s with
  | nil => simp [run_nil]
  | cons e es ih =>
      simp only [List.cons_append, run_cons, ih]
      constructor
      · rintro ⟨m, hm, k, hk, hs⟩
        exact ⟨k, ⟨m, hm, hk⟩, hs⟩
      · rintro ⟨k, ⟨m, hm, hk⟩, hs⟩
        exact ⟨m, hm, k, hk, hs⟩

theorem run_snoc {s s' : σ} {es : List ε} {e : ε} :
    run step s (es ++ [e]) = some s' ↔ ∃ m, run step s es = some m ∧ step m e = some s' := by
  rw [run_append]
  constructor
  · rintro ⟨m, hm, h⟩
    obtain ⟨k, hk, he⟩ := run_cons.mp h
    exact ⟨m, hm, by rw [hk, Option.some.inj he]⟩
  · rintro ⟨m, hm, h⟩
    exact ⟨m, hm, run_cons.mpr ⟨s', h, rfl⟩⟩

/-! ## Conditions along a run -/

theorem along_nil (s : σ) : Along step C s [] := by
  intro pre e post s' h
  simp at h

theorem along_cons {s : σ} {e : ε} {es : List ε} :
    Along step C s (e :: es) ↔ C s e ∧ ∀ m, step s e = some m → Along step C m es := by
  constructor
  · intro h
    refine ⟨h [] e es s rfl rfl, ?_⟩
    intro m hm pre e' post s' hes hrun
    exact h (e :: pre) e' post s' (by rw [hes]; rfl) (run_cons.mpr ⟨m, hm, hrun⟩)
  · rintro ⟨hC, hrest⟩ pre e' post s' hes hrun
    cases pre with
    | nil =>
        obtain ⟨rfl, rfl⟩ : e = e' ∧ es = post := by simpa using hes
        cases hrun
        exact hC
    | cons a pre =>
        obtain ⟨rfl, hes'⟩ : e = a ∧ es = pre ++ e' :: post := by simpa using hes
        obtain ⟨m, hm, hrun'⟩ := run_cons.mp hrun
        exact hrest m hm pre e' post s' hes' hrun'

/-- A condition along a given run can be computed. -/
instance decidableAlong [∀ s e, Decidable (C s e)] : (s : σ) → (es : List ε) → Decidable (Along step C s es)
  | s, [] => isTrue (along_nil s)
  | s, e :: es =>
      match h : step s e with
      | none => decidable_of_iff (C s e) (by rw [along_cons, h]; simp)
      | some m =>
          have := decidableAlong m es
          decidable_of_iff (C s e ∧ Along step C m es) (by rw [along_cons, h]; simp)

/-- A condition that holds along a run holds along each of its beginnings. -/
theorem Along.of_append {s : σ} {es fs : List ε} (h : Along step C s (es ++ fs)) :
    Along step C s es := by
  intro pre e post s' hes hrun
  exact h pre e (post ++ fs) s' (by rw [hes]; simp) hrun

/-- And along what is left of the run after such a beginning. -/
theorem Along.after {s m : σ} {es fs : List ε} (h : Along step C s (es ++ fs))
    (hrun : run step s es = some m) : Along step C m fs := by
  intro pre e post s' hes hrun'
  exact h (es ++ pre) e post s' (by rw [hes, List.append_assoc]) (run_append.mpr ⟨m, hrun, hrun'⟩)

/-- A condition that every step meets holds along every run. -/
theorem along_of_forall (h : ∀ s e, C s e) (s : σ) (es : List ε) : Along step C s es :=
  fun _ e _ s' _ _ => h s' e

/-! ## The invariant rule -/

/-- **Invariant rule.** An invariant kept by every step that meets `C` holds after every run whose steps
    all meet `C`. -/
theorem run_invariant (hstep : ∀ s e s', C s e → I s → step s e = some s' → I s')
    {s s' : σ} {es : List ε} (hC : Along step C s es) (hI : I s)
    (hrun : run step s es = some s') : I s' := by
  induction es generalizing s with
  | nil => cases hrun; exact hI
  | cons e es ih =>
      obtain ⟨m, hm, hrun'⟩ := run_cons.mp hrun
      obtain ⟨hCe, hrest⟩ := along_cons.mp hC
      exact ih (hrest m hm) (hstep s e m hCe hI hm) hrun'

/-- The invariant rule for unrestricted runs. -/
theorem run_invariant' (hstep : ∀ s e s', I s → step s e = some s' → I s')
    {s s' : σ} {es : List ε} (hI : I s) (hrun : run step s es = some s') : I s' :=
  run_invariant (C := fun _ _ => True) (fun s e s' _ => hstep s e s')
    (along_of_forall (fun _ _ => trivial) s es) hI hrun

/-- A condition that comes down to one on the events, in the states of a run. -/
theorem along_iff {D : ε → Prop} (hstep : ∀ s e s', I s → step s e = some s' → I s')
    (hC : ∀ s e s', I s → step s e = some s' → (C s e ↔ D e)) {s s' : σ} {es : List ε} (hI : I s)
    (hrun : run step s es = some s') : Along step C s es ↔ ∀ e ∈ es, D e := by
  induction es generalizing s with
  | nil => exact iff_of_true (along_nil s) (by simp)
  | cons e es ih =>
      obtain ⟨m, hm, hrest⟩ := run_cons.mp hrun
      have htail := ih (hstep s e m hI hm) hrest
      rw [along_cons, List.forall_mem_cons, hC s e m hI hm]
      refine and_congr_right fun _ => ?_
      constructor
      · intro h
        exact htail.mp (h m hm)
      · intro h m' hm'
        obtain rfl : m = m' := Option.some.inj (hm.symm.trans hm')
        exact htail.mpr h

/-- **History rule.** An invariant that also reads the events so far, kept by every step of the run. -/
theorem run_history {J : List ε → σ → Prop} {s₀ s : σ} {es : List ε}
    (hstep : ∀ es s e s', C s e → J es s → step s e = some s' → J (es ++ [e]) s')
    (hC : Along step C s₀ es) (hJ : J [] s₀) (hrun : run step s₀ es = some s) : J es s := by
  induction es using List.reverseRecOn generalizing s with
  | nil => cases hrun; exact hJ
  | append_singleton es e ih =>
      obtain ⟨m, hm, he⟩ := run_snoc.mp hrun
      exact hstep es m e s (hC es e [] m rfl hm) (ih hC.of_append hm) he

/-- The history rule for unrestricted runs. -/
theorem run_history' {J : List ε → σ → Prop} {s₀ s : σ} {es : List ε}
    (hstep : ∀ es s e s', J es s → step s e = some s' → J (es ++ [e]) s') (hJ : J [] s₀)
    (hrun : run step s₀ es = some s) : J es s :=
  run_history (C := fun _ _ => True) (fun es s e s' _ => hstep es s e s')
    (along_of_forall (fun _ _ => trivial) s₀ es) hJ hrun

/-! ## Termination -/

/-- Every sequence of steps from the state is finite. -/
def Terminates (step : σ → ε → Option σ) (s : σ) : Prop :=
  ¬ ∃ f : ℕ → σ, f 0 = s ∧ ∀ n, ∃ e, step (f n) e = some (f (n + 1))

theorem terminates_iff_acc (s : σ) : Terminates step s ↔ Acc (fun b a => ∃ e, step a e = some b) s := by
  unfold Terminates
  rw [← not_acc_iff_exists_descending_chain (r := fun b a => ∃ e, step a e = some b), not_not]

theorem terminates_of_steps {s : σ} (h : ∀ e s', step s e = some s' → Terminates step s') :
    Terminates step s := by
  rw [terminates_iff_acc]
  constructor
  rintro s' ⟨e, he⟩
  exact (terminates_iff_acc s').mp (h e s' he)

/-- **Measure rule.** Every step brings the measure down, or leads where everything terminates. -/
theorem terminates_of_measure {M : ℕ → σ → Prop}
    (hstep : ∀ n s e s', M n s → step s e = some s' → (∃ m < n, M m s') ∨ Terminates step s')
    {n : ℕ} {s : σ} (h : M n s) : Terminates step s := by
  induction n using Nat.strong_induction_on generalizing s with
  | _ n ih =>
      apply terminates_of_steps
      intro e s' he
      rcases hstep n s e s' h he with ⟨m, hm, h'⟩ | hdone
      · exact ih m hm h'
      · exact hdone

/-- The measure rule for a measure that can be computed, in any well-founded order. -/
theorem terminates_of_decreasing {α : Type} [Preorder α] [WellFoundedLT α] (m : σ → α)
    (hstep : ∀ s e s', step s e = some s' → m s' < m s) (s : σ) : Terminates step s := by
  induction hn : m s using WellFoundedLT.induction generalizing s with
  | ind n ih =>
      subst hn
      exact terminates_of_steps fun e s' he => ih (m s') (hstep s e s' he) s' rfl

/-- **Divergence rule.** From every state of the invariant some step stays within it. -/
theorem not_terminates_of_invariant (hstep : ∀ s, I s → ∃ e s', step s e = some s' ∧ I s') {s : σ}
    (h : I s) : ¬ Terminates step s := by
  intro hterm
  induction (terminates_iff_acc s).mp hterm with
  | intro s _ ih =>
      obtain ⟨e, s', he, h'⟩ := hstep s h
      refine ih s' ⟨e, he⟩ h' ?_
      rintro ⟨f, hf, hsteps⟩
      -- the step before an endless sequence makes an endless one
      refine hterm ⟨fun n => Nat.casesOn n s f, rfl, ?_⟩
      intro n
      cases n with
      | zero => exact ⟨e, he.trans (congrArg some hf.symm)⟩
      | succ n => exact hsteps n

/-! ## Coming to rest -/

/-- The machine left to the events of `p`. -/
def only (p : ε → Bool) (step : σ → ε → Option σ) (s : σ) (e : ε) : Option σ := if p e then step s e else none

/-- No event can happen. -/
def Stuck (step : σ → ε → Option σ) (s : σ) : Prop := ∀ e, step s e = none

theorem only_eq_some {p : ε → Bool} {s s' : σ} {e : ε} :
    only p step s e = some s' ↔ p e = true ∧ step s e = some s' := Option.ite_none_right_eq_some

/-- Its runs are runs of the whole machine. -/
theorem run_of_only {p : ε → Bool} {s s' : σ} {es : List ε} (h : run (only p step) s es = some s') :
    run step s es = some s' := by
  induction es generalizing s with
  | nil => exact h
  | cons e es ih =>
      obtain ⟨m, hm, hrest⟩ := run_cons.mp h
      exact run_cons.mpr ⟨m, (only_eq_some.mp hm).2, ih hrest⟩

theorem only_events {p : ε → Bool} {s s' : σ} {es : List ε} (h : run (only p step) s es = some s') :
    ∀ e ∈ es, p e = true := by
  induction es generalizing s with
  | nil => exact fun _ he => absurd he List.not_mem_nil
  | cons e es ih =>
      obtain ⟨m, hm, hrest⟩ := run_cons.mp h
      exact List.forall_mem_cons.mpr ⟨(only_eq_some.mp hm).1, ih hrest⟩

theorem stuck_only {p : ε → Bool} {s : σ} : Stuck (only p step) s ↔ ∀ e, p e = true → step s e = none := by
  refine forall_congr' fun e => ?_
  unfold only
  split
  · rename_i hp
    simp [hp]
  · rename_i hp
    simp [hp]

end EventMachine
