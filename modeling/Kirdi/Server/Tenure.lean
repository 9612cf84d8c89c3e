import Kirdi.Server.Registry
import Kirdi.Server.Routing

/-!
# `Server.Tenure` — how long a session keeps its packets

An authenticated session stays registered under its id and stays authenticated until one of its own
`AuthRequest`s is refused (`kept_of_run`). The id is not given to another connection before the counter comes
round, hence the bound on the accepted connections. All that time `route_to_client` hands it the packets for
its virtual IP.
-/

set_option linter.dupNamespace false

namespace Kirdi
namespace Server

open Protocol Inet EventMachine

/-- Every session has its id and the settings of the server. -/
structure Furnished (config : ServerConfig) (s : Server) : Prop where
  config_eq : s.config = config
  sessions  : ∀ sid session, s.sessions sid = some session →
    session.id = sid ∧ session.tunInfo = ⟨config.tunServerIp, config.tunMask, config.mtu⟩ ∧
      session.authSecret = config.authSecret

/-- An IPv4 packet for the address. -/
structure Ipv4For (virtualIp data : Bytes) : Prop where
  long        : 20 ≤ data.length
  short       : data.length ≤ maxPayload
  version     : ipVersion data = 4
  destination : inetNtop (ip4Dst data) = virtualIp

/-- The packet joins the queue of the session, and no other one. -/
def Delivers (s : Server) (sid : UInt32) (data : Bytes) : Prop :=
  s.routeToClient data = some sid ∧
    ∀ queues, s.routeQueues queues data =
      Function.update queues sid (queues sid ++ [frame MsgType.ipPacket.toByte data])

/-- No `AuthRequest` of the session is refused. -/
def Unrefused (deps : Deps) (sid : UInt32) (s : Server) (e : Event) : Prop :=
  ∀ now hdr payload session, e = .frame sid now hdr payload → MsgType.ofByte hdr.type = some .authRequest →
    s.sessions sid = some session → authOk deps now session.authSecret payload ≠ some false

/-- The session is registered and authenticated. -/
def Kept (sid : UInt32) (session : ClientSession) (s : Server) : Prop :=
  s.sessions sid = some { session with authenticated := true }

variable {deps : Deps} {config : ServerConfig} {s s' : Server} {e : Event} {es fs : List Event} {sid : UInt32}
  {session : ClientSession} {data : Bytes}

/-! ## What a session is furnished with -/

theorem furnished_init : Furnished config (Server.init config) where
  config_eq := rfl
  sessions := fun _ _ h => absurd h (by simp [Server.init])

theorem furnished_step (h : Furnished config s) (hstep : step deps s e = some s') : Furnished config s' := by
  refine ⟨(step_config hstep).trans h.config_eq, ?_⟩
  rcases step_tables hstep with ⟨-, hsessions, -⟩ | ⟨i, uninit, sid₀, clientIp, rfl, -, rfl⟩ |
    ⟨sid₀, now, hdr, payload, session₀, rfl, hsession₀, hsessions, -⟩
  · rw [hsessions]
    exact h.sessions
  · obtain ⟨new, hnew, hid, -, hsecret, -, -, htun, -⟩ := registerSession_tables
      { s with handshakes := s.handshakes.eraseIdx i } sid₀ clientIp uninit
    intro sid session hsession
    rw [hnew] at hsession
    by_cases hsid : sid = sid₀
    · rw [hsid, Function.update_self] at hsession
      obtain rfl := Option.some.inj hsession
      rw [hid, htun, hsecret, hsid, ← h.config_eq]
      exact ⟨rfl, rfl, rfl⟩
    · rw [Function.update_of_ne hsid] at hsession
      exact h.sessions sid session hsession
  · -- a packet changes the flag of one session
    obtain ⟨b, hb⟩ := handlePacket_fields deps now session₀ hdr payload
    intro sid session hsession
    rw [hsessions] at hsession
    by_cases hsid : sid = sid₀
    · rw [hsid, Function.update_self, hb] at hsession
      obtain rfl := Option.some.inj hsession
      rw [hsid]
      exact h.sessions sid₀ session₀ hsession₀
    · rw [Function.update_of_ne hsid] at hsession
      exact h.sessions sid session hsession

theorem furnished_of_run (hrun : run (step deps) (Server.init config) es = some s) : Furnished config s :=
  run_invariant' (I := Furnished config) (fun _ _ _ => furnished_step) furnished_init hrun

/-! ## Staying registered and authenticated -/

/-- A frame that is no refused login leaves the flag of an authenticated session set. -/
theorem handlePacket_keeps {now : UInt64} {hdr : PacketHeader} {payload : Bytes}
    (h : MsgType.ofByte hdr.type = some .authRequest → authOk deps now session.authSecret payload ≠ some false) :
    (handlePacket deps now { session with authenticated := true } hdr payload).session =
      { session with authenticated := true } := by
  rw [handlePacket_session]
  by_cases hty : MsgType.ofByte hdr.type = some .authRequest
  · rw [if_pos hty]
    cases hok : authOk deps now session.authSecret payload with
    | none => rw [handleAuthRequest_diverged (s := { session with authenticated := true }) hok]
    | some ok =>
        obtain ⟨b, hb⟩ := handlePacket_fields deps now { session with authenticated := true } hdr payload
        rw [handlePacket_session, if_pos hty] at hb
        have hflag := (handleAuthRequest_authenticated (s := { session with authenticated := true }) hok).1
        cases ok with
        | true =>
            rw [hb] at hflag ⊢
            rw [show b = true from hflag]
        | false => exact absurd hok (h hty)
  · rw [if_neg hty]

/-- A registration takes another id, as long as ids do not repeat. -/
theorem kept_step {k : Nat} {d : UInt32 ≃. UInt32} (h : Kept sid session s) (hdrawn : Drawn config k s d)
    (hspares : Unrefused deps sid s e) (hstep : step deps s e = some s') : Kept sid session s' := by
  unfold Kept at h ⊢
  rcases step_tables hstep with ⟨-, hsessions, -⟩ | ⟨i, uninit, sid₀, clientIp, rfl, hi, rfl⟩ |
    ⟨sid₀, now, hdr, payload, session₀, rfl, hsession₀, hsessions, -⟩
  · rw [hsessions]
    exact h
  · obtain ⟨new, hnew, -⟩ := registerSession_tables
      { s with handshakes := s.handshakes.eraseIdx i } sid₀ clientIp uninit
    have hother : sid ≠ sid₀ := by
      -- the id of a handshake is not registered yet
      rintro rfl
      rw [hdrawn.unregistered (List.mem_of_getElem? hi)] at h
      exact absurd h (by simp)
    rw [hnew, Function.update_of_ne hother]
    exact h
  · rw [hsessions]
    by_cases hsid : sid = sid₀
    · subst hsid
      obtain rfl := Option.some.inj (h.symm.trans hsession₀)
      rw [Function.update_self]
      refine congrArg some (handlePacket_keeps ?_)
      intro hty
      exact hspares now hdr payload { session with authenticated := true } rfl hty h
    · rw [Function.update_of_ne hsid]
      exact h

/-- **An authenticated session is kept** over every run that refuses none of its `AuthRequest`s. -/
theorem kept_of_run (hrun : run (step deps) (Server.init config) es = some s) (h : Kept sid session s)
    (hrest : run (step deps) s fs = some s') (hspares : Along (step deps) (Unrefused deps sid) s fs)
    (haccepts : accepts (es ++ fs) ≤ 2 ^ 32) : Kept sid session s' := by
  -- the history carries the run from the start, for the ids drawn so far
  have hhistory : run (step deps) (Server.init config) (es ++ fs) = some s' ∧
      (accepts (es ++ fs) ≤ 2 ^ 32 → Kept sid session s') := by
    refine run_history (J := fun fs s' => run (step deps) (Server.init config) (es ++ fs) = some s' ∧
      (accepts (es ++ fs) ≤ 2 ^ 32 → Kept sid session s')) ?_ hspares ?_ hrest
    · rintro fs m e m' hC ⟨hpre, hkept⟩ hstep
      rw [← List.append_assoc]
      refine ⟨run_snoc.mpr ⟨m, hpre, hstep⟩, ?_⟩
      intro hle
      have hle' : accepts (es ++ fs) ≤ 2 ^ 32 := by
        rw [accepts_append] at hle
        exact le_trans (Nat.le_add_right _ _) hle
      obtain ⟨k, -, d, hdrawn⟩ := drawn_of_run hpre hle'
      exact kept_step (hkept hle') hdrawn hC hstep
    · rw [List.append_nil]
      exact ⟨hrun, fun _ => h⟩
  exact hhistory.2 haccepts

/-- **A kept session gets the packets for its address.** -/
theorem Kept.delivers (h : Kept sid session s) (haddressed : Addressed config s)
    (hdata : Ipv4For session.virtualIp data) : Delivers s sid data := by
  have hroute : s.routeToClient data = some sid :=
    haddressed.routeToClient_iff.mpr ⟨hdata.long, _, h, rfl, hdata.destination.symm⟩
  exact ⟨hroute, fun queues => routeQueues_of_routed hroute hdata.short⟩

end Server
end Kirdi
