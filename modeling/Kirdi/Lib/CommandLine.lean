import Mathlib.Data.List.TakeWhile

/-!
# `Lib.CommandLine` — the words of a simple command

A command interpreter reads a text up to a terminator, splits it at blanks, and gives a meaning of their own
to some further characters. A text with none of these is one simple command; its words are the maximal runs
between blanks. `words` is `none` for every other text: what such a text does is not for its author to say.

The question of a program that pastes strings into a command is whether the interpreter sees the words that
were pasted. It does exactly when each of them is a word by itself (`words_join_iff`).
-/

/-- The classes of characters that an interpreter knows; all others stand for themselves. -/
structure CommandLine (α : Type) where
  ends    : α → Bool      -- ends the text
  blank   : α → Bool      -- separates words
  special : α → Bool      -- an operator, a quote, an expansion

namespace CommandLine

variable {α : Type} {A : CommandLine α} {cmd w : List α} {ws : List (List α)} {sep : α}

/-- What the interpreter reads. -/
def text (A : CommandLine α) (cmd : List α) : List α := cmd.takeWhile fun c => !A.ends c

/-- The words of the one simple command that `cmd` is, if it is one. -/
def words (A : CommandLine α) (cmd : List α) : Option (List (List α)) :=
  if (A.text cmd).any A.special then none
  else some (((A.text cmd).splitOnP A.blank).filter fun w => !w.isEmpty)

/-- A character that stands for itself. -/
def literal (A : CommandLine α) (c : α) : Bool := !A.ends c && !A.blank c && !A.special c

/-- A single word, which stands for itself. -/
def Word (A : CommandLine α) (w : List α) : Prop := w ≠ [] ∧ ∀ c ∈ w, A.literal c = true

instance [DecidableEq α] : DecidablePred A.Word := fun w => inferInstanceAs (Decidable (w ≠ [] ∧ _))

theorem literal_iff {c : α} :
    A.literal c = true ↔ A.ends c = false ∧ A.blank c = false ∧ A.special c = false := by
  simp [literal, and_assoc]

/-! ## Words that are read -/

/-- The pieces between blanks are made of the characters that are no blanks. -/
theorem mem_splitOnP {p : α → Bool} {c : α} (hw : w ∈ cmd.splitOnP p) (hc : c ∈ w) :
    c ∈ cmd ∧ p c = false := by
  induction cmd generalizing w with
  | nil =>
      rw [List.splitOnP_nil, List.mem_singleton] at hw
      rw [hw] at hc
      exact absurd hc (List.not_mem_nil)
  | cons a cmd ih =>
      rw [List.splitOnP_cons_eq_if_modifyHead] at hw
      have hne := List.splitOnP_ne_nil p cmd
      split at hw
      · rcases List.mem_cons.mp hw with rfl | hlater
        · exact absurd hc (List.not_mem_nil)
        · exact ⟨List.mem_cons_of_mem _ (ih hlater hc).1, (ih hlater hc).2⟩
      · rename_i ha
        cases hsplit : cmd.splitOnP p with
        | nil => exact absurd hsplit hne
        | cons v vs =>
            rw [hsplit, List.modifyHead_cons] at hw
            -- the first piece begins with `a`, the others are pieces of the rest
            rcases List.mem_cons.mp hw with rfl | hlater
            · rcases List.mem_cons.mp hc with rfl | hc
              · exact ⟨List.mem_cons_self, by simpa using ha⟩
              · have hv := ih (hsplit ▸ List.mem_cons_self) hc
                exact ⟨List.mem_cons_of_mem _ hv.1, hv.2⟩
            · have hv := ih (hsplit ▸ List.mem_cons_of_mem _ hlater) hc
              exact ⟨List.mem_cons_of_mem _ hv.1, hv.2⟩

/-- **Every word of a simple command stands for itself.** -/
theorem word_of_mem_words (h : A.words cmd = some ws) (hw : w ∈ ws) : A.Word w := by
  unfold words at h
  split at h
  · exact absurd h (by simp)
  · rename_i hplain
    obtain rfl := Option.some.inj h
    obtain ⟨hpiece, hne⟩ := List.mem_filter.mp hw
    refine ⟨by simpa using hne, fun c hc => literal_iff.mpr ?_⟩
    obtain ⟨htext, hblank⟩ := mem_splitOnP hpiece hc
    have hends : A.ends c = false := by simpa using List.mem_takeWhile_imp htext
    have hspecial : A.special c = false := by
      rw [Bool.eq_false_iff]
      exact fun hs => hplain (List.any_eq_true.mpr ⟨c, htext, hs⟩)
    exact ⟨hends, hblank, hspecial⟩

/-! ## Words that are joined -/

/-- The separator is a blank and nothing else. -/
structure Separates (A : CommandLine α) (sep : α) : Prop where
  blank   : A.blank sep = true
  ends    : A.ends sep = false
  special : A.special sep = false

theorem mem_join {c : α} (hc : c ∈ [sep].intercalate ws) : c = sep ∨ ∃ w ∈ ws, c ∈ w := by
  induction ws with
  | nil => simp at hc
  | cons w ws ih =>
      by_cases hws : ws = []
      · subst hws
        rw [List.intercalate_singleton] at hc
        exact Or.inr ⟨w, List.mem_cons_self, hc⟩
      · rw [List.intercalate_cons_of_ne_nil hws] at hc
        rcases List.mem_append.mp hc with hc | hc
        · rcases List.mem_append.mp hc with hc | hc
          · exact Or.inr ⟨w, List.mem_cons_self, hc⟩
          · exact Or.inl (List.mem_singleton.mp hc)
        · rcases ih hc with hc | ⟨v, hv, hcv⟩
          · exact Or.inl hc
          · exact Or.inr ⟨v, List.mem_cons_of_mem _ hv, hcv⟩

/-- Splitting undoes joining. -/
theorem splitOnP_join (hsep : A.Separates sep) (hws : ∀ w ∈ ws, A.Word w) :
    (([sep].intercalate ws).splitOnP A.blank).filter (fun w => !w.isEmpty) = ws := by
  have hblanks : ∀ {w}, A.Word w → ∀ c ∈ w, A.blank c = false :=
    fun hw c hc => (literal_iff.mp (hw.2 c hc)).2.1
  have hkept : ∀ {w}, A.Word w → (!w.isEmpty) = true := fun hw => by simpa using hw.1
  induction ws with
  | nil => simp
  | cons w ws ih =>
      have hw := hws w List.mem_cons_self
      by_cases hempty : ws = []
      · subst hempty
        rw [List.intercalate_singleton, List.splitOnP_eq_singleton (hblanks hw)]
        simp [hw.1]
      · rw [List.intercalate_cons_of_ne_nil hempty, List.append_assoc, List.singleton_append,
          List.splitOnP_append_cons_of_forall_mem (hblanks hw) sep hsep.blank, List.filter_cons, if_pos (hkept hw),
          ih fun v hv => hws v (List.mem_cons_of_mem _ hv)]

/-- **The interpreter sees the words that were joined** exactly when each of them is a word by itself. -/
theorem words_join_iff (hsep : A.Separates sep) :
    A.words ([sep].intercalate ws) = some ws ↔ ∀ w ∈ ws, A.Word w := by
  constructor
  · intro h w hw
    exact word_of_mem_words h hw
  · intro hws
    -- neither a word nor the separator ends the text or is special in it
    have hends : ∀ c ∈ [sep].intercalate ws, A.ends c = false ∧ A.special c = false := by
      intro c hc
      rcases mem_join hc with rfl | ⟨w, hw, hcw⟩
      · exact ⟨hsep.ends, hsep.special⟩
      · have hliteral := literal_iff.mp ((hws w hw).2 c hcw)
        exact ⟨hliteral.1, hliteral.2.2⟩
    have htext : A.text ([sep].intercalate ws) = [sep].intercalate ws := by
      unfold text
      rw [List.takeWhile_eq_self_iff]
      intro c hc
      simp [(hends c hc).1]
    have hplain : ([sep].intercalate ws).any A.special = false := by
      rw [List.any_eq_false]
      intro c hc
      simp [(hends c hc).2]
    unfold words
    rw [htext, hplain, splitOnP_join hsep hws]
    rfl

end CommandLine
