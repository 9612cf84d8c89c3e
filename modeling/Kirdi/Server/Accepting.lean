import Kirdi.Server.Server

/-!
# `Server.Accepting` — the accept loop

`on_accept` arms the next `async_accept` in its last line. It gets there after an accept error, and on a
socket whose peer is still there; on a socket whose peer is gone, `set_option` or `remote_endpoint` throws,
the exception escapes `io_context::run`, and nothing accepts any more. With TLS a peer that is there ends the
server, too: when its handshake completes, `async_accept` is called on a stream that has been moved away.

So the server accepts for exactly as long as every peer is alive when `on_accept` runs and no TLS handshake
completes (`survives_iff_harmless`); behind nginx there is none.
-/

set_option linter.dupNamespace false

namespace Kirdi
namespace Server

open EventMachine

/-- An event of a connection attempt: a completion of `async_accept`, or of a handshake. -/
def Event.attempt : Event → Bool
  | .acceptError | .accept _ | .sslHandshake _ _ | .wsAccept _ _ _ => true
  | .frame _ _ _ _ | .tunPacket _ | .stop => false

/-- The handler of a connection attempt, `on_accept` among them, returns, and one `async_accept` is outstanding. -/
def Survives (deps : Deps) (s : Server) (e : Event) : Prop :=
  e.attempt = true → ∃ s', step deps s e = some s' ∧ s'.ended = false ∧ s'.accepting = 1

/-- The peer of an accepted socket is still there when `on_accept` runs, and a TLS handshake fails. -/
def Event.Harmless : Event → Prop
  | .accept peer => peer = .alive
  | .sslHandshake _ ok => ok = false
  | .acceptError | .wsAccept _ _ _ | .frame _ _ _ _ | .tunPacket _ | .stop => True

instance : (e : Event) → Decidable e.Harmless
  | .accept peer => inferInstanceAs (Decidable (peer = .alive))
  | .sslHandshake _ ok => inferInstanceAs (Decidable (ok = false))
  | .acceptError | .wsAccept _ _ _ | .frame _ _ _ _ | .tunPacket _ | .stop => inferInstanceAs (Decidable True)

/-- A server that has not ended is accepting. -/
def Server.Listening (s : Server) : Prop := s.ended = false → s.accepting = 1

variable {deps : Deps} {s s' : Server} {e : Event}

theorem step_ended (h : step deps s e = some s') : s.ended = false := by
  cases hs : s.ended with
  | false => rfl
  | true => simp [step, hs] at h

/-- An accepted socket: the server goes on, or it has ended. -/
theorem onAccept_cases (s : Server) (peer : Peer) :
    (s.onAccept peer).ended = (decide (peer ≠ .alive) || s.ended) ∧
      (peer = .alive → (s.onAccept peer).accepting = s.accepting + 1) := by
  cases peer with
  | alive => exact ⟨rfl, fun _ => rfl⟩
  | setOptionThrows | remoteEndpointThrows => exact ⟨rfl, fun h => absurd h (by simp)⟩

/-- Every other event leaves the accept loop alone. -/
theorem step_accepting (he : e.attempt = false) (h : step deps s e = some s') : s'.accepting = s.accepting := by
  cases step_moves h with
  | acceptError | accept _ | sslFailed _ | sslDone _ | wsFailed _ _ | wsDone _ _ => simp [Event.attempt] at he
  | _ => rfl

/-- What a connection attempt leaves. -/
theorem step_attempt (hs : s.Listening) (he : e.attempt = true) (h : step deps s e = some s') :
    (e.Harmless → s'.ended = false ∧ s'.accepting = 1) ∧ (¬ e.Harmless → s'.ended = true) := by
  have hended := step_ended h
  have haccepting := hs hended
  -- the accept that has completed is outstanding no more; its handler starts the next one
  cases step_moves h with
  | acceptError =>
      refine ⟨fun _ => ⟨hended, ?_⟩, fun hharm => absurd trivial hharm⟩
      show s.accepting - 1 + 1 = 1
      rw [haccepting]
  | accept peer =>
      obtain ⟨hpeer, harmed⟩ := onAccept_cases { s with accepting := s.accepting - 1 } peer
      constructor
      · intro halive
        refine ⟨?_, ?_⟩
        · rw [hpeer, show peer = .alive from halive]
          exact hended
        · rw [harmed halive]
          show s.accepting - 1 + 1 = 1
          rw [haccepting]
      · intro hdead
        rw [hpeer, decide_eq_true (show peer ≠ .alive from hdead), Bool.true_or]
  | sslFailed _ => exact ⟨fun _ => ⟨hended, haccepting⟩, fun hharm => absurd rfl hharm⟩
  | sslDone _ => exact ⟨fun hdone => absurd hdone (by simp [Event.Harmless]), fun _ => rfl⟩
  | wsFailed _ _ | wsDone _ _ => exact ⟨fun _ => ⟨hended, haccepting⟩, fun hharm => absurd trivial hharm⟩
  | _ => simp [Event.attempt] at he

theorem listening_step (hs : s.Listening) (h : step deps s e = some s') : s'.Listening := by
  intro hended
  cases he : e.attempt with
  | false => rw [step_accepting he h, hs (step_ended h)]
  | true =>
      obtain ⟨hharmless, hharm⟩ := step_attempt hs he h
      by_cases ha : e.Harmless
      · exact (hharmless ha).2
      · exact absurd ((hharm ha).symm.trans hended) (by simp)

/-- **A step** survives exactly when it is harmless. -/
theorem survives_iff (hs : s.Listening) (h : step deps s e = some s') : Survives deps s e ↔ e.Harmless := by
  cases he : e.attempt with
  | false =>
      refine iff_of_true (fun hacc => absurd (he.symm.trans hacc) (by simp)) ?_
      cases e with
      | acceptError | accept _ | sslHandshake _ _ | wsAccept _ _ _ => simp [Event.attempt] at he
      | frame _ _ _ _ | tunPacket _ | stop => exact trivial
  | true =>
      obtain ⟨hharmless, hharm⟩ := step_attempt hs he h
      constructor
      · intro hsurvives
        obtain ⟨m, hm, hended, -⟩ := hsurvives he
        obtain rfl : s' = m := Option.some.inj (h.symm.trans hm)
        by_contra ha
        exact absurd ((hharm ha).symm.trans hended) (by simp)
      · intro ha _
        exact ⟨s', h, hharmless ha⟩

/-- Behind nginx no connection is in a TLS handshake. -/
def Server.Plain (s : Server) : Prop := s.config.tlsEnabled = false ∧ ∀ hs ∈ s.handshakes, hs.stage = .ws

theorem plain_step (hs : s.Plain) (h : step deps s e = some s') : s'.Plain := by
  have hconfig := step_config h
  refine ⟨by rw [hconfig]; exact hs.1, ?_⟩
  cases step_moves h with
  | accept peer =>
      cases peer with
      | alive =>
          intro x hx
          rcases List.mem_append.mp hx with hx | hx
          · exact hs.2 x hx
          · rw [List.mem_singleton.mp hx]
            show (if s.config.tlsEnabled then Stage.ssl else Stage.ws) = .ws
            rw [hs.1]
            rfl
      | setOptionThrows | remoteEndpointThrows => exact hs.2
  | sslFailed _ | wsFailed _ _ | wsDone _ _ => exact fun x hx => hs.2 x (List.mem_of_mem_eraseIdx hx)
  | _ => exact hs.2

/-- A TLS handshake is not among the events of such a server. -/
theorem step_plain_event (hs : s.Plain) (h : step deps s e = some s') (i : ℕ) (ok : Bool) :
    e ≠ .sslHandshake i ok := by
  rintro rfl
  cases step_moves h with
  | sslFailed hi | sslDone hi => exact absurd (hs.2 _ (List.mem_of_getElem? hi)) (by simp)

/-- **The accept loop survives** a run exactly when every accepted peer is alive and no TLS handshake completes;
    behind nginx there is no TLS handshake. -/
theorem survives_iff_harmless {config : ServerConfig} {es : List Event}
    (hrun : run (step deps) (Server.init config) es = some s) :
    (Along (step deps) (Survives deps) (Server.init config) es ↔ ∀ e ∈ es, e.Harmless) ∧
      (config.tlsEnabled = false → ∀ i ok, Event.sslHandshake i ok ∉ es) := by
  constructor
  · refine along_iff (D := Event.Harmless) (I := Server.Listening) ?_ ?_ (fun _ => rfl) hrun
    · intro s e s' hs h
      exact listening_step hs h
    · intro s e s' hs h
      exact survives_iff hs h
  · intro hplain i ok
    have hhistory : s.Plain ∧ Event.sslHandshake i ok ∉ es := by
      refine run_history' (J := fun es s => s.Plain ∧ Event.sslHandshake i ok ∉ es) ?_
        ⟨⟨hplain, fun _ hx => absurd hx List.not_mem_nil⟩, List.not_mem_nil⟩ hrun
      rintro es s e s' ⟨hs, hnone⟩ h
      refine ⟨plain_step hs h, fun hmem => ?_⟩
      rcases List.mem_append.mp hmem with hmem | hmem
      · exact hnone hmem
      · exact step_plain_event hs h i ok (List.mem_singleton.mp hmem).symm
    exact hhistory.2

/-- With TLS: two peers that are alive, a TLS handshake that fails, and an error in between. -/
theorem survives_errors :
    ∃ s, run (step (Deps.table [])) (Server.init { plainConfig with tlsEnabled := true })
        [.accept .alive, .acceptError, .accept .alive, .sslHandshake 0 false] = some s ∧
      Along (step (Deps.table [])) (Survives (Deps.table [])) (Server.init { plainConfig with tlsEnabled := true })
        [.accept .alive, .acceptError, .accept .alive, .sslHandshake 0 false] := by
  have hrun : (run (step (Deps.table [])) (Server.init { plainConfig with tlsEnabled := true })
      [.accept .alive, .acceptError, .accept .alive, .sslHandshake 0 false]).isSome = true := by decide +kernel
  obtain ⟨s, hs⟩ := Option.isSome_iff_exists.mp hrun
  exact ⟨s, hs, (survives_iff_harmless hs).1.mpr (by decide)⟩

/-- The last of the events ends the server. -/
def EndsServer (tls : Bool) (es : List Event) (e : Event) : Prop :=
  ∃ s, run (step (Deps.table [])) (Server.init { plainConfig with tlsEnabled := tls }) (es ++ [e]) = some s ∧
    s.ended = true ∧
    ¬ Along (step (Deps.table [])) (Survives (Deps.table []))
      (Server.init { plainConfig with tlsEnabled := tls }) (es ++ [e])

theorem endsServer_of_run {tls : Bool} {es : List Event} (he : e.attempt = true)
    (hrun : (run (step (Deps.table [])) (Server.init { plainConfig with tlsEnabled := tls }) (es ++ [e])).any
      Server.ended = true) : EndsServer tls es e := by
  obtain ⟨s, hs, hended⟩ := Option.any_eq_true _ _ |>.mp hrun
  refine ⟨s, hs, hended, fun halong => ?_⟩
  obtain ⟨m, hm, hstep⟩ := run_snoc.mp hs
  obtain ⟨s', hs', hgoes, -⟩ := halong es e [] m rfl hm he
  obtain rfl : s = s' := Option.some.inj (hstep.symm.trans hs')
  exact absurd (hended.symm.trans hgoes) (by simp)

/-- **Peers that end the server**: one that resets its connection before `on_accept` runs, with TLS and without,
    and with TLS one that completes its handshake. -/
theorem peer_ends_server :
    EndsServer true [] (.accept .setOptionThrows) ∧ EndsServer true [] (.accept .remoteEndpointThrows) ∧
      EndsServer false [] (.accept .setOptionThrows) ∧ EndsServer false [] (.accept .remoteEndpointThrows) ∧
      EndsServer true [.accept .alive] (.sslHandshake 0 true) := by
  refine ⟨?_, ?_, ?_, ?_, ?_⟩ <;> exact endsServer_of_run rfl (by decide +kernel)

end Server
end Kirdi
