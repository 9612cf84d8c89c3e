import Mathlib.Data.List.Basic

/-!
# `Lib.Options` — a list of words as settings

A program goes through its words from left to right: a word ends the reading with an error, changes the
configuration, or does so with the word after it, whatever that is. So the words that are accepted are those of a
list of settings, and the configuration is what the settings make of it in turn (`read_eq_ok_iff`); there is one
such list at most (`settings_unique`). A reading that fails has read settings up to a word at which it stops
(`read_eq_error_iff`).

Where what settings make of a configuration can be said of the list as a whole, `applies_iff` turns the one
description into the other; the case of options of which the last counts is `last`.
-/

namespace Options

variable {W E C : Type}

/-- What a word means in the place of an option. -/
inductive Kind (W E C : Type) where
  | stop (error : E)
  | flag (f : C → C)
  | value (missing : E) (set : W → Except E (C → C))

/-- Go through the words. -/
def read (kind : W → Kind W E C) (c : C) : List W → Except E C
  | [] => .ok c
  | w :: ws =>
      match kind w with
      | .stop error => .error error
      | .flag f => read kind (f c) ws
      | .value missing set =>
          match ws with
          | [] => .error missing
          | v :: ws =>
              match set v with
              | .error error => .error error
              | .ok f => read kind (f c) ws

/-- One option, with its value if it has one. -/
inductive Setting (W : Type) where
  | flag (w : W)
  | value (w v : W)
  deriving DecidableEq, Repr

def Setting.words : Setting W → List W
  | .flag w => [w]
  | .value w v => [w, v]

/-- What a setting does, if it is one. -/
def Setting.effect (kind : W → Kind W E C) : Setting W → Option (C → C)
  | .flag w =>
      match kind w with
      | .flag f => some f
      | .stop _ | .value _ _ => none
  | .value w v =>
      match kind w with
      | .value _ set => (set v).toOption
      | .stop _ | .flag _ => none

/-- Several settings in turn, all of which are known. -/
inductive Applies (kind : W → Kind W E C) : C → List (Setting W) → C → Prop where
  | nil (c : C) : Applies kind c [] c
  | cons {c c' : C} {s : Setting W} {ss : List (Setting W)} {f : C → C} (hs : s.effect kind = some f)
      (hss : Applies kind (f c) ss c') : Applies kind c (s :: ss) c'

/-- The words on which a reading stops, from the one that it stops at. -/
inductive Stops (kind : W → Kind W E C) : List W → E → Prop where
  | word {w : W} {ws : List W} {error : E} (h : kind w = .stop error) : Stops kind (w :: ws) error
  | missing {w : W} {error : E} {set : W → Except E (C → C)} (h : kind w = .value error set) : Stops kind [w] error
  | value {w v : W} {ws : List W} {error missing : E} {set : W → Except E (C → C)} (h : kind w = .value missing set)
      (hv : set v = .error error) : Stops kind (w :: v :: ws) error

/-- The last of the settings that `p` takes something from. -/
def last {V : Type} (p : Setting W → Option V) : List (Setting W) → Option V
  | [] => none
  | s :: ss => (last p ss).or (p s)

variable {kind : W → Kind W E C} {c c' : C} {s : Setting W} {ss ss' : List (Setting W)} {w v : W} {f : C → C}

theorem effect_flag : (Setting.flag w).effect kind = some f ↔ kind w = .flag f := by
  unfold Setting.effect
  cases hkind : kind w <;> simp [hkind]

theorem effect_value :
    (Setting.value w v).effect kind = some f ↔ ∃ missing set, kind w = .value missing set ∧ set v = .ok f := by
  unfold Setting.effect
  cases hkind : kind w with
  | stop | flag => simp [hkind]
  | value missing set =>
      cases hset : set v with
      | error => simp [hkind, Except.toOption, hset]
      | ok g => simp [hkind, Except.toOption, hset]

/-- What follows the words of settings is read with the configuration that they leave. -/
theorem read_append (h : Applies kind c ss c') (ws : List W) :
    read kind c (ss.flatMap Setting.words ++ ws) = read kind c' ws := by
  induction h with
  | nil => rfl
  | @cons c c' s ss f hs _ ih =>
      rw [List.flatMap_cons, List.append_assoc]
      cases s with
      | flag w =>
          show read kind c (w :: (ss.flatMap Setting.words ++ ws)) = _
          rw [read, effect_flag.mp hs]
          exact ih
      | value w v =>
          obtain ⟨missing, set, hkind, hset⟩ := effect_value.mp hs
          show read kind c (w :: v :: (ss.flatMap Setting.words ++ ws)) = _
          rw [read, hkind]
          dsimp only
          rw [hset]
          exact ih

/-- **What is read are settings.** -/
theorem applies_of_read {ws : List W} (h : read kind c ws = .ok c') :
    ∃ ss, ws = ss.flatMap Setting.words ∧ Applies kind c ss c' := by
  fun_induction read kind c ws with
  | case1 c =>
      obtain rfl := Except.ok.inj h
      exact ⟨[], rfl, .nil c⟩
  | case2 | case4 | case5 => exact absurd h (by simp)
  | case3 c w ws f hkind ih =>
      obtain ⟨ss, hwords, happlies⟩ := ih h
      exact ⟨.flag w :: ss, by rw [hwords]; rfl, .cons (effect_flag.mpr hkind) happlies⟩
  | case6 c w missing set hkind v ws f hset ih =>
      obtain ⟨ss, hwords, happlies⟩ := ih h
      exact ⟨.value w v :: ss, by rw [hwords]; rfl, .cons (effect_value.mpr ⟨missing, set, hkind, hset⟩) happlies⟩

/-- **A reading accepts the words of settings.** -/
theorem read_eq_ok_iff {ws : List W} :
    read kind c ws = .ok c' ↔ ∃ ss, ws = ss.flatMap Setting.words ∧ Applies kind c ss c' := by
  constructor
  · exact applies_of_read
  · rintro ⟨ss, rfl, happlies⟩
    have hread := read_append happlies []
    rwa [List.append_nil] at hread

/-- **Words are the words of one list of settings.** -/
theorem settings_unique {c₁ c₁' : C} (h : Applies kind c ss c') (h' : Applies kind c₁ ss' c₁')
    (hwords : ss.flatMap Setting.words = ss'.flatMap Setting.words) : ss = ss' := by
  induction h generalizing ss' c₁ with
  | nil =>
      cases h' with
      | nil => rfl
      | @cons _ _ s' => cases s' <;> exact absurd hwords (by simp [Setting.words])
  | @cons c c' s ss f hs _ ih =>
      cases h' with
      | nil => cases s <;> exact absurd hwords (by simp [Setting.words])
      | @cons _ _ s' ss' f' hs' hss' =>
          -- the first word decides whether a value follows
          cases s with
          | flag w =>
              cases s' with
              | flag w' =>
                  obtain ⟨rfl, hrest⟩ := List.cons_eq_cons.mp hwords
                  rw [ih hss' hrest]
              | value w' v' =>
                  obtain ⟨rfl, -⟩ := List.cons_eq_cons.mp hwords
                  obtain ⟨_, _, hkind, -⟩ := effect_value.mp hs'
                  rw [effect_flag.mp hs] at hkind
                  exact absurd hkind (by simp)
          | value w v =>
              obtain ⟨_, _, hkind, -⟩ := effect_value.mp hs
              cases s' with
              | flag w' =>
                  obtain ⟨rfl, -⟩ := List.cons_eq_cons.mp hwords
                  rw [effect_flag.mp hs'] at hkind
                  exact absurd hkind (by simp)
              | value w' v' =>
                  obtain ⟨rfl, hafter⟩ := List.cons_eq_cons.mp hwords
                  obtain ⟨rfl, hrest⟩ := List.cons_eq_cons.mp hafter
                  rw [ih hss' hrest]

/-! ## Where a reading stops -/

/-- **A reading stops after settings**, at the first word it does not take. -/
theorem stops_of_read {ws : List W} {error : E} (h : read kind c ws = .error error) :
    ∃ ss c' rest, ws = ss.flatMap Setting.words ++ rest ∧ Applies kind c ss c' ∧ Stops kind rest error := by
  fun_induction read kind c ws with
  | case1 => exact absurd h (by simp)
  | case2 c w ws error' hkind =>
      obtain rfl := Except.error.inj h
      exact ⟨[], c, _, rfl, .nil c, .word hkind⟩
  | case3 c w ws f hkind ih =>
      obtain ⟨ss, c', rest, hwords, happlies, hstops⟩ := ih h
      exact ⟨.flag w :: ss, c', rest, by rw [hwords]; rfl, .cons (effect_flag.mpr hkind) happlies, hstops⟩
  | case4 c w missing set hkind =>
      obtain rfl := Except.error.inj h
      exact ⟨[], c, _, rfl, .nil c, .missing hkind⟩
  | case5 c w missing set hkind v ws error' hset =>
      obtain rfl := Except.error.inj h
      exact ⟨[], c, _, rfl, .nil c, .value hkind hset⟩
  | case6 c w missing set hkind v ws f hset ih =>
      obtain ⟨ss, c', rest, hwords, happlies, hstops⟩ := ih h
      exact ⟨.value w v :: ss, c', rest, by rw [hwords]; rfl,
        .cons (effect_value.mpr ⟨missing, set, hkind, hset⟩) happlies, hstops⟩

theorem read_of_stops {ws : List W} {error : E} (h : Stops kind ws error) : read kind c ws = .error error := by
  cases h with
  | word hkind => rw [read, hkind]
  | missing hkind => rw [read, hkind]
  | value hkind hset =>
      rw [read, hkind]
      dsimp only
      rw [hset]

theorem read_eq_error_iff {ws : List W} {error : E} :
    read kind c ws = .error error ↔
      ∃ ss c' rest, ws = ss.flatMap Setting.words ++ rest ∧ Applies kind c ss c' ∧ Stops kind rest error := by
  constructor
  · exact stops_of_read
  · rintro ⟨ss, c', rest, rfl, happlies, hstops⟩
    rw [read_append happlies]
    exact read_of_stops hstops

/-! ## What settings amount to -/

/-- **Settings are applied one by one or all at once**: where one setting does what `declared` says of it alone, and
    `declared` goes through a list from its beginning. -/
theorem applies_iff {declared : C → List (Setting W) → C} (hnil : ∀ c, declared c [] = c)
    (hcons : ∀ c s ss, declared c (s :: ss) = declared (declared c [s]) ss)
    (hone : ∀ s f, s.effect kind = some f → ∀ c, f c = declared c [s]) :
    Applies kind c ss c' ↔ (∀ s ∈ ss, ∃ f, s.effect kind = some f) ∧ c' = declared c ss := by
  induction ss generalizing c with
  | nil =>
      rw [hnil]
      constructor
      · rintro ⟨⟩
        exact ⟨fun s hs => absurd hs List.not_mem_nil, rfl⟩
      · rintro ⟨-, rfl⟩
        exact .nil _
  | cons s ss ih =>
      rw [hcons, List.forall_mem_cons]
      constructor
      · rintro (_ | ⟨hs, hss⟩)
        rw [hone _ _ hs] at hss
        obtain ⟨hknown, hc⟩ := ih.mp hss
        exact ⟨⟨⟨_, hs⟩, hknown⟩, hc⟩
      · rintro ⟨⟨⟨f, hs⟩, hknown⟩, hc⟩
        rw [← hone s f hs] at hc
        exact .cons hs (ih.mpr ⟨hknown, hc⟩)

/-- The last setting of a list is that of its rest, else its first. -/
theorem getD_last_cons {V : Type} (p : Setting W → Option V) (s : Setting W) (ss : List (Setting W)) (x : V) :
    (last p (s :: ss)).getD x = (last p ss).getD ((last p [s]).getD x) := by
  show ((last p ss).or (p s)).getD x = (last p ss).getD (((none : Option V).or (p s)).getD x)
  cases last p ss with
  | none => rfl
  | some v => rfl

end Options
