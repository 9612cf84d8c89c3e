import Kirdi.Transport.WriteQueue

/-!
# `Transport.Closing` — a callback that closes its transport

`do_write` runs on the strand, so not before the running callback has returned, and it tests the flag that
`close` clears. What such a callback sends is therefore queued and never written (`sealed_of_closing`).
-/

set_option linter.dupNamespace false

namespace Kirdi
namespace Transport

open Protocol EventMachine

/-- The running callback has yet to call `close`. -/
def Transport.willClose (t : Transport) : Prop :=
  ∃ todo, Op.close ∈ todo ∧
    (t.handler = some (.callback todo) ∨ ∃ data, t.handler = some (.callbackPush data todo))

/-- No handler writes, and none will. -/
def Transport.sealed (k : Kind) (t : Transport) : Prop :=
  t.willClose ∨ t.gate k = false ∧ t.writeHandler = false

variable {k : Kind} {t t' : Transport} {e : Event} {es : List Event} {calls : List Op}

/-- A handler that writes comes from a `do_write` on an open gate. -/
theorem sealed_of_closed (hg : t.gate k = false) (hw : t.writeHandler = false) (hstep : step k t e = some t') :
    t'.gate k = false ∧ t'.writeHandler = false ∧ t'.handed = t.handed := by
  have hle := handed_closed_step hg hstep
  have hhanded : t'.handed = t.handed := by
    rcases step_frames hstep with ⟨-, hh⟩ | ⟨data, -, hh⟩ | ⟨-, hd, -⟩
    · exact hh
    · exact hh
    · unfold Transport.writeHandler at hw
      rw [hd] at hw
      exact absurd hw (by decide)
  refine ⟨gate_closed_step hg hstep, ?_, hhanded⟩
  rw [hhanded, hw] at hle
  by_contra hset
  rw [Bool.eq_true_of_not_eq_false hset, Bool.toNat_true, Bool.toNat_false] at hle
  omega

/-- The callback goes on to its `close`, and other threads do not write. -/
theorem sealed_of_willClose (h : t.willClose) (hstep : step k t e = some t') :
    t'.sealed k ∧ t'.handed = t.handed := by
  obtain ⟨todo, hclose, hd⟩ := h
  -- the strand is busy
  have hbusy : ∀ c, t.handler = c → (∀ todo, c ≠ some (.callback todo)) →
      (∀ data todo, c ≠ some (.callbackPush data todo)) → False := by
    rintro c rfl hcallback hpush
    rcases hd with hd | ⟨data, hd⟩
    · exact hcallback todo hd
    · exact hpush data todo hd
  have hcallback : ∀ rest, t.handler = some (.callback rest) → rest = todo := by
    intro rest hrest
    rcases hd with hd | ⟨data, hd⟩
    · rw [hd] at hrest
      simpa using hrest.symm
    · rw [hd] at hrest
      exact absurd hrest (by simp)
  have hafter : ∀ {op : Op} {rest : List Op}, op ≠ .close → op :: rest = todo → Op.close ∈ rest := by
    rintro op rest hop rfl
    exact (List.mem_cons.mp hclose).resolve_left hop.symm
  cases step_cases hstep with
  | sent data hg | refused data hg | pushed i data hi | closed hc | closeReturn hn =>
      exact ⟨Or.inl ⟨todo, hclose, hd⟩, rfl⟩
  | close t₁ hc =>
      obtain ⟨-, -, c, c', rfl⟩ := beginClose_spec hc
      exact ⟨Or.inl ⟨todo, hclose, hd⟩, rfl⟩
  | doWrite hn | writeDone ok hn | read calls hn | readError hn => exact (hbusy _ hn (by simp) (by simp)).elim
  | lock hn | startWrite hn | callReturn rest hn => exact (hbusy _ hn (by simp) (by simp)).elim
  | finished hn =>
      rw [← hcallback [] hn] at hclose
      exact absurd hclose List.not_mem_nil
  | callSend data rest hn hg =>
      exact ⟨Or.inl ⟨rest, hafter (by simp) (hcallback _ hn), Or.inr ⟨data, rfl⟩⟩, rfl⟩
  | callRefused data rest hn hg =>
      exact ⟨Or.inl ⟨rest, hafter (by simp) (hcallback _ hn), Or.inl rfl⟩, rfl⟩
  | callPush data rest hn =>
      have hrest : rest = todo := by
        rcases hd with hd | ⟨data', hd⟩
        · rw [hd] at hn
          exact absurd hn (by simp)
        · rw [hd] at hn
          exact (Handler.callbackPush.inj (Option.some.inj hn)).2.symm
      exact ⟨Or.inl ⟨rest, hrest ▸ hclose, Or.inl rfl⟩, rfl⟩
  | callClose rest t₁ hn hc =>
      obtain ⟨hg, -, c, c', rfl⟩ := beginClose_spec hc
      refine ⟨Or.inr ⟨?_, rfl⟩, rfl⟩
      cases k <;> exact hg
  | callClosed rest hn hc =>
      refine ⟨Or.inr ⟨?_, rfl⟩, rfl⟩
      have hg := gate_of_beginClose_none hc
      cases k <;> exact hg

theorem sealed_step (h : t.sealed k) (hstep : step k t e = some t') : t'.sealed k ∧ t'.handed = t.handed := by
  rcases h with h | ⟨hg, hw⟩
  · exact sealed_of_willClose h hstep
  · obtain ⟨hg', hw', hhanded⟩ := sealed_of_closed hg hw hstep
    exact ⟨Or.inr ⟨hg', hw'⟩, hhanded⟩

/-- The callback of a message closes the transport. -/
theorem sealed_of_read (hclose : Op.close ∈ calls) (hstep : step k t (.read calls) = some t') :
    t'.sealed k ∧ t'.handed = t.handed := by
  obtain ⟨-, ⟨⟩⟩ := Option.ite_none_right_eq_some.mp hstep
  exact ⟨Or.inl ⟨calls, hclose, Or.inl rfl⟩, rfl⟩

/-- **Nothing is handed to `async_write` from the start of a callback that calls `close`**, whatever the
    callback sends before. -/
theorem sealed_of_closing (hclose : Op.close ∈ calls) (hread : step k t (.read calls) = some t')
    {t'' : Transport} (hrun : run (step k) t' es = some t'') : t''.sealed k ∧ t''.handed = t.handed := by
  apply run_invariant' (I := fun s => s.sealed k ∧ s.handed = t.handed) _ (sealed_of_read hclose hread) hrun
  rintro s e s' ⟨hs, hh⟩ hstep
  obtain ⟨hs', hh'⟩ := sealed_step hs hstep
  exact ⟨hs', hh'.trans hh⟩

/-- When the callback has returned, the transport is closed. -/
theorem closed_of_sealed (h : t.sealed k) (hd : t.handler = none) : t.gate k = false := by
  rcases h with ⟨todo, -, hn | ⟨data, hn⟩⟩ | ⟨hg, -⟩
  · exact absurd (hd.symm.trans hn) (by simp)
  · exact absurd (hd.symm.trans hn) (by simp)
  · exact hg

end Transport
end Kirdi
