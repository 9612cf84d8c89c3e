import Kirdi.Server.Gate

/-!
# `Server.Routing` — which session a packet goes to

Both counters advance together, so the address of a session is a function of its id (`vipOf`), which is
injective and outlives every wrap-around of the counters. Hence in every reachable state the two maps agree
(`Addressed`), without a bound on the connections, and `route_to_client` finds the session whose virtual IP
the bytes 16 to 19 of a packet spell.

It does not look at the IP version. A packet that is not IPv4 goes to the session whose address these
bytes happen to spell (`routes_to_addressee_iff`).
-/

set_option linter.dupNamespace false

namespace Kirdi
namespace Server

open Protocol Inet EventMachine

/-- The frames passed to the transports of the sessions, `route_to_client` run on `data`. -/
def Server.routeQueues (s : Server) (queues : UInt32 → List Bytes) (data : Bytes) : UInt32 → List Bytes :=
  match s.routeToClient data with
  | none => queues
  | some sid =>
      match sendIpPacket data with
      | .ok pkt => Function.update queues sid (queues sid ++ [pkt])
      | .error _ => queues

/-- `data` is an IPv4 packet for the session, which is registered and authenticated. -/
def Server.Addressee (s : Server) (data : Bytes) (sid : UInt32) : Prop :=
  20 ≤ data.length ∧ ipVersion data = 4 ∧
    ∃ session, s.sessions sid = some session ∧ session.authenticated = true ∧
      session.virtualIp = inetNtop (ip4Dst data)

/-- The packet goes to its addressee and to no other session. -/
structure RoutedRight (s : Server) (data : Bytes) : Prop where
  handed : ∀ sid, s.routeToClient data = some sid ↔ s.Addressee data sid
  queued : ∀ queues sid, s.Addressee data sid → data.length ≤ maxPayload →
    s.routeQueues queues data sid = queues sid ++ [frame MsgType.ipPacket.toByte data]
  others : ∀ queues sid, ¬ s.Addressee data sid → s.routeQueues queues data sid = queues sid

/-- A packet that is not IPv4 spells the address of no authenticated session. -/
def VersionSafe (s : Server) (data : Bytes) : Prop :=
  data.length < 20 ∨ ipVersion data = 4 ∨
    ∀ sid session, s.sessions sid = some session → session.authenticated = true →
      session.virtualIp ≠ inetNtop (ip4Dst data)

/-- The address that a session id comes with, in network byte order. -/
def vipOf (config : ServerConfig) (sid : UInt32) : UInt32 := htonl (ntohl config.base + (sid + 1))

/-- Ids and addresses go together everywhere. -/
structure Addressed (config : ServerConfig) (s : Server) : Prop where
  config_eq : s.config = config
  offset    : s.nextClientIpOffset = s.nextSessionId + 1
  captured  : ∀ c ∈ s.handshakes, c.clientIp = inetNtop (vipOf config c.sid)
  sessions  : ∀ sid session, s.sessions sid = some session →
    session.virtualIp = inetNtop (vipOf config sid) ∧ s.ipToSession (vipOf config sid) = some sid
  addrs     : ∀ addr sid, s.ipToSession addr = some sid →
    addr = vipOf config sid ∧ (s.sessions sid).isSome = true

variable {deps : Deps} {config : ServerConfig} {s s' : Server} {e : Event} {sid sid' : UInt32} {data : Bytes}

/-! ## Ids and addresses -/

theorem vipOf_injective (h : vipOf config sid = vipOf config sid') : sid = sid' := by
  have hsum := htonl_injective h
  have hnext := UInt32.add_right_inj (ntohl config.base) |>.mp hsum
  exact UInt32.add_left_inj 1 |>.mp hnext

/-- An address is known from its text. -/
theorem inetNtop_injective {a b : UInt32} (h : inetNtop a = inetNtop b) : a = b := by
  have hpton := congrArg inetPton h
  rw [inetPton_inetNtop, inetPton_inetNtop] at hpton
  exact Option.some.inj hpton

theorem inetPton_vip {clientIp : Bytes} {a : UInt32} (h : clientIp = inetNtop a) :
    inetPton (cStr clientIp) = some a := by
  rw [h, cStr_inetNtop, inetPton_inetNtop]

theorem addressed_init : Addressed config (Server.init config) where
  config_eq := rfl
  offset := rfl
  captured := fun _ hc => absurd hc List.not_mem_nil
  sessions := fun _ _ h => absurd h (by simp [Server.init])
  addrs := fun _ _ h => absurd h (by simp [Server.init])

/-- Steps that leave the tables and the counters alone. -/
theorem Addressed.of_tables (h : Addressed config s) (hconfig : s'.config = s.config)
    (hoffset : s'.nextClientIpOffset = s'.nextSessionId + 1)
    (hcaptured : ∀ c ∈ s'.handshakes, c.clientIp = inetNtop (vipOf config c.sid))
    (hsessions : s'.sessions = s.sessions) (haddrs : s'.ipToSession = s.ipToSession) : Addressed config s' where
  config_eq := hconfig.trans h.config_eq
  offset := hoffset
  captured := hcaptured
  sessions := by
    rw [hsessions, haddrs]
    exact h.sessions
  addrs := by
    rw [hsessions, haddrs]
    exact h.addrs

/-- A connection leaves the handshakes. -/
theorem Addressed.erase (h : Addressed config s) (i : Nat) :
    Addressed config { s with handshakes := s.handshakes.eraseIdx i } :=
  h.of_tables rfl h.offset (fun c hc => h.captured c (List.mem_of_mem_eraseIdx hc)) rfl rfl

/-- **A registration** enters the pair of its connection; whatever it overwrites was the same pair. -/
theorem Addressed.register (h : Addressed config s) {clientIp : Bytes} (uninit : UInt32)
    (hip : clientIp = inetNtop (vipOf config sid)) : Addressed config (s.registerSession sid clientIp uninit) := by
  obtain ⟨session, hsession, -, -, -, hvip, -⟩ := registerSession_tables s sid clientIp uninit
  have haddrs : (s.registerSession sid clientIp uninit).ipToSession =
      Function.update s.ipToSession (vipOf config sid) (some sid) := by
    show Function.update s.ipToSession ((inetPton (cStr clientIp)).getD 0) (some sid) = _
    rw [inetPton_vip hip]
    rfl
  refine ⟨h.config_eq, h.offset, h.captured, ?_, ?_⟩
  · intro sid' session' hs'
    rw [hsession] at hs'
    rw [haddrs]
    by_cases hsid : sid' = sid
    · subst hsid
      rw [Function.update_self] at hs'
      rw [Function.update_self, ← Option.some.inj hs', hvip]
      exact ⟨hip, rfl⟩
    · -- another session has another address
      rw [Function.update_of_ne hsid] at hs'
      rw [Function.update_of_ne fun hvip' => hsid (vipOf_injective hvip')]
      exact h.sessions sid' session' hs'
  · intro addr sid' ha
    rw [haddrs] at ha
    rw [hsession]
    by_cases haddr : addr = vipOf config sid
    · rw [haddr, Function.update_self] at ha
      rw [← Option.some.inj ha, Function.update_self]
      exact ⟨haddr, rfl⟩
    · rw [Function.update_of_ne haddr] at ha
      obtain ⟨hvip', hsome⟩ := h.addrs addr sid' ha
      refine ⟨hvip', ?_⟩
      by_cases hsid : sid' = sid
      · rw [hsid, Function.update_self]
        rfl
      · rw [Function.update_of_ne hsid]
        exact hsome

/-- Handling a frame keeps the address of its session. -/
theorem Addressed.onFrame (h : Addressed config s) {session session' : ClientSession}
    (hsession : s.sessions sid = some session) (hvip : session'.virtualIp = session.virtualIp)
    (stuck : List UInt32) (ended : Bool) :
    Addressed config { s with
      sessions := Function.update s.sessions sid (some session'), stuck := stuck, ended := ended } := by
  refine ⟨h.config_eq, h.offset, h.captured, ?_, ?_⟩
  · intro sid' m hm
    by_cases hsid : sid' = sid
    · subst hsid
      change Function.update s.sessions sid' (some session') sid' = some m at hm
      rw [Function.update_self] at hm
      rw [← Option.some.inj hm, hvip]
      exact h.sessions sid' session hsession
    · change Function.update s.sessions sid (some session') sid' = some m at hm
      rw [Function.update_of_ne hsid] at hm
      exact h.sessions sid' m hm
  · intro addr sid' ha
    obtain ⟨hvip', hsome⟩ := h.addrs addr sid' ha
    refine ⟨hvip', ?_⟩
    show (Function.update s.sessions sid (some session') sid').isSome = true
    by_cases hsid : sid' = sid
    · rw [hsid, Function.update_self]
      rfl
    · rw [Function.update_of_ne hsid]
      exact hsome

/-- **Every step keeps ids and addresses together.** -/
theorem addressed_step (h : Addressed config s) (hstep : step deps s e = some s') : Addressed config s' := by
  cases step_moves hstep with
  | acceptError | sslDone _ | tunPacket _ _ | stop => exact h.of_tables rfl h.offset h.captured rfl rfl
  | accept peer =>
      have hoffset : s.nextClientIpOffset + 1 = s.nextSessionId + 1 + 1 := by rw [h.offset]
      cases peer with
      | setOptionThrows => exact h.of_tables rfl h.offset h.captured rfl rfl
      | remoteEndpointThrows => exact h.of_tables rfl hoffset h.captured rfl rfl
      | alive =>
          refine h.of_tables rfl hoffset ?_ rfl rfl
          intro c hc
          rcases List.mem_append.mp hc with hc | hc
          · exact h.captured c hc
          · -- the connection takes the next id and the next address
            rw [List.mem_singleton.mp hc]
            show inetNtop (htonl (ntohl s.config.base + s.nextClientIpOffset)) = _
            rw [h.offset, h.config_eq]
            rfl
  | sslFailed _ | wsFailed _ _ => exact h.erase _
  | wsDone hi uninit => exact (h.erase _).register uninit (h.captured _ (List.mem_of_getElem? hi))
  | frame hsession now hdr payload stuck ended =>
      obtain ⟨b, hb⟩ := handlePacket_fields deps now _ hdr payload
      exact h.onFrame hsession (by rw [hb]) _ _

theorem addressed_of_run {es : List Event} (hrun : run (step deps) (Server.init config) es = some s) :
    Addressed config s :=
  run_invariant' (I := Addressed config) (fun _ _ _ => addressed_step) addressed_init hrun

/-! ## Routing a packet -/

/-- **`route_to_client` finds the session whose virtual IP the packet spells.** -/
theorem Addressed.routeToClient_iff (h : Addressed config s) :
    s.routeToClient data = some sid ↔
      20 ≤ data.length ∧ ∃ session, s.sessions sid = some session ∧ session.authenticated = true ∧
        session.virtualIp = inetNtop (ip4Dst data) := by
  rw [routeToClient_eq_some_iff]
  refine and_congr_right fun _ => ?_
  constructor
  · rintro ⟨hip, session, hsession, hauth⟩
    refine ⟨session, hsession, hauth, ?_⟩
    rw [(h.sessions sid session hsession).1, (h.addrs _ sid hip).1]
  · rintro ⟨session, hsession, hauth, hvip⟩
    obtain ⟨hown, hip⟩ := h.sessions sid session hsession
    rw [inetNtop_injective (hvip.symm.trans hown)]
    exact ⟨hip, session, hsession, hauth⟩

/-- The queue of a session changes only when the packet is handed to it. -/
theorem routeQueues_of_routed {queues : UInt32 → List Bytes} (h : s.routeToClient data = some sid)
    (hlen : data.length ≤ maxPayload) :
    s.routeQueues queues data = Function.update queues sid (queues sid ++ [frame MsgType.ipPacket.toByte data]) := by
  unfold Server.routeQueues sendIpPacket buildIpPacket
  rw [h, buildPacket_ok _ hlen]

theorem routeQueues_other {queues : UInt32 → List Bytes} (h : s.routeToClient data ≠ some sid) :
    s.routeQueues queues data sid = queues sid := by
  unfold Server.routeQueues
  cases hroute : s.routeToClient data with
  | none => rfl
  | some sid' =>
      have hne : sid ≠ sid' := by
        rintro rfl
        exact h hroute
      show (match sendIpPacket data with | .ok pkt => _ | .error _ => _ : UInt32 → List Bytes) sid = _
      cases sendIpPacket data with
      | ok pkt => exact Function.update_of_ne hne _ _
      | error _ => rfl

/-- What remains of the property is who the packet is handed to. -/
theorem routedRight_iff : RoutedRight s data ↔ ∀ sid, s.routeToClient data = some sid ↔ s.Addressee data sid := by
  refine ⟨RoutedRight.handed, fun h => ⟨h, ?_, ?_⟩⟩
  · intro queues sid haddressee hlen
    rw [routeQueues_of_routed ((h sid).mpr haddressee) hlen, Function.update_self]
  · intro queues sid hother
    exact routeQueues_other fun hroute => hother ((h sid).mp hroute)

/-- **Packets reach their addressee only**, in every reachable state, exactly when a packet of another version
    spells no authenticated session's address. -/
theorem routes_to_addressee_iff {es : List Event} (hrun : run (step deps) (Server.init config) es = some s)
    (data : Bytes) : RoutedRight s data ↔ VersionSafe s data := by
  have haddressed := addressed_of_run hrun
  rw [routedRight_iff]
  constructor
  · intro h
    by_contra hunsafe
    simp only [VersionSafe, not_or, not_forall, not_not, Nat.not_lt] at hunsafe
    obtain ⟨hlen, hversion, sid, session, hsession, hauth, hvip⟩ := hunsafe
    have hroute := haddressed.routeToClient_iff.mpr ⟨hlen, session, hsession, hauth, hvip⟩
    exact hversion ((h sid).mp hroute).2.1
  · intro hsafe sid
    rw [haddressed.routeToClient_iff]
    unfold Server.Addressee
    refine and_congr_right fun hlen => ⟨?_, And.right⟩
    rintro ⟨session, hsession, hauth, hvip⟩
    rcases hsafe with hshort | hversion | hnone
    · exact absurd hlen (Nat.not_le.mpr hshort)
    · exact ⟨hversion, session, hsession, hauth, hvip⟩
    · exact absurd hvip (hnone sid session hsession hauth)

/-- An IPv4 packet for 10.8.0.2, and an IPv6 packet with the same bytes there. -/
def sampleIpv4 : Bytes := 0x45 :: List.replicate 15 0 ++ [10, 8, 0, 2]

def sampleIpv6 : Bytes := 0x60 :: List.replicate 15 0 ++ [10, 8, 0, 2] ++ List.replicate 20 0

theorem ipv4_routed :
    ∃ s, run (step sampleDeps) (Server.init plainConfig) (connectEvents ++ [loginEvent]) = some s ∧
      s.routeToClient sampleIpv4 = some 1 ∧ (RoutedRight s sampleIpv4 ↔ VersionSafe s sampleIpv4) := by
  obtain ⟨s, hs, hsession, hip, -, -⟩ := loggedIn_run
  refine ⟨s, hs, routeToClient_eq_some_iff.mpr ⟨by decide, ?_, acceptedSession, hsession, rfl⟩,
    routes_to_addressee_iff hs sampleIpv4⟩
  rw [show ip4Dst sampleIpv4 = ip4Dst routedPacket by decide +kernel]
  exact hip

/-- **An IPv6 packet is handed to the session of an IPv4 address.** -/
theorem ipv6_routed :
    ∃ s, run (step sampleDeps) (Server.init plainConfig) (connectEvents ++ [loginEvent]) = some s ∧
      s.routeToClient sampleIpv6 = some 1 ∧ ipVersion sampleIpv6 = 6 ∧ ¬ RoutedRight s sampleIpv6 := by
  obtain ⟨s, hs, hsession, hip, -, -⟩ := loggedIn_run
  have hroute : s.routeToClient sampleIpv6 = some 1 := by
    refine routeToClient_eq_some_iff.mpr ⟨by decide, ?_, acceptedSession, hsession, rfl⟩
    rw [show ip4Dst sampleIpv6 = ip4Dst routedPacket by decide +kernel]
    exact hip
  refine ⟨s, hs, hroute, by decide, fun hright => ?_⟩
  exact absurd ((hright.handed 1).mp hroute).2.1 (by decide)

end Server
end Kirdi
