import Kirdi.Server.Login
import Kirdi.Server.Server

/-!
# `Server.Gate` — packets pass only after a verified login

Over whole runs of the server, `authenticated_` of a session stands for the verdict on the last
`AuthRequest` it was sent (`granted_of_authenticated`): packets pass in either direction only while that one
was verified (`GateStep`).

The one way past the gate is a login that is never decided. Its handler leaves the flag of an authenticated
session set for ever, and routed packets keep passing (`gate_left_open`). `gate_holds` covers every run
without such a login, and without one that is accepted but cannot be answered, where the exception escapes
after the flag was set.
-/

namespace Kirdi
namespace Server

open Protocol Crypto WrapSearch EventMachine

/-- The last `AuthRequest` delivered to a session, with the server time of its delivery. -/
def lastAuthRequest (sid : UInt32) (es : List Event) : Option (UInt64 × Bytes) :=
  es.foldl (fun last e =>
    match e with
    | .frame sid' now hdr payload =>
        if sid' = sid ∧ MsgType.ofByte hdr.type = some .authRequest then some (now, payload) else last
    | _ => last) none

/-- The payload parses to a request with a token that is verified for the declared timestamp or for the
    server clock. -/
def Verified (deps : Deps) (authSecret : Bytes) (now : UInt64) (payload : Bytes) : Prop :=
  ∃ r, AuthRequest.decode deps payload = some r ∧ r.token ≠ [] ∧
    (verifyAuthToken deps r.user authSecret r.token r.timestamp 30 = some true ∨
      verifyAuthToken deps r.user authSecret r.token now 30 = some true)

/-- The last `AuthRequest` of the session was verified. -/
def Granted (deps : Deps) (authSecret : Bytes) (sid : UInt32) (es : List Event) : Prop :=
  ∃ now payload, lastAuthRequest sid es = some (now, payload) ∧ Verified deps authSecret now payload

/-- **The gate**, at a step from `m` to `m'` that the events `pre` lead up to. -/
structure GateStep (deps : Deps) (authSecret : Bytes) (pre : List Event) (m : Server) (e : Event)
    (m' : Server) : Prop where
  delivered : ∀ sid now hdr payload id packet, e = .frame sid now hdr payload →
    Call.onIpPacket id packet ∈ m.calls deps e → Granted deps authSecret sid pre
  routed    : ∀ data sid, e = .tunPacket data → m.routeToClient data = some sid →
    Granted deps authSecret sid pre
  refused   : ∀ sid now hdr payload session, e = .frame sid now hdr payload →
    MsgType.ofByte hdr.type = some .authRequest → ¬ Verified deps authSecret now payload →
    m'.sessions sid = some session → session.authenticated = false
  raised    : ∀ sid now hdr payload session session', e = .frame sid now hdr payload →
    MsgType.ofByte hdr.type = some .authRequest → m.sessions sid = some session →
    (handlePacket deps now session hdr payload).exit = .threw →
    m'.sessions sid = some session' → session'.authenticated = false

/-- The token loops of a login are not caught at the top of the range: when the bound of one of them is the
    largest value, the token was built for some time. -/
def LoginReturns (deps : Deps) (authSecret : Bytes) (now : UInt64) (payload : Bytes) : Prop :=
  ∀ r, AuthRequest.decode deps payload = some r → r.token ≠ [] →
    r.timestamp + 30 = top ∨ now + 30 = top → ∃ t, r.token = buildAuthToken deps r.user authSecret t

/-- The acceptance for this session serializes, and fits in a packet. -/
def Answerable (deps : Deps) (s : ClientSession) : Prop :=
  ∃ text, deps.dump (acceptance s) = some text ∧ text.length ≤ maxPayload

/-- What `gate_holds` asks of a step: an `AuthRequest` to an authenticated session is decided, and a
    verified one can be answered. -/
def GateCondition (deps : Deps) (s : Server) (e : Event) : Prop :=
  ∀ sid now hdr payload session, e = .frame sid now hdr payload →
    MsgType.ofByte hdr.type = some .authRequest → s.sessions sid = some session →
    (session.authenticated = true → LoginReturns deps session.authSecret now payload) ∧
      (Verified deps session.authSecret now payload → Answerable deps session)

variable {deps : Deps} {config : ServerConfig} {s s' : Server} {es : List Event} {sid : UInt32}
  {now : UInt64} {hdr : PacketHeader} {payload authSecret : Bytes}

/-! ## The verdict on one request -/

theorem verified_of_authOk (hs : authSecret ≠ []) (h : authOk deps now authSecret payload = some true) :
    Verified deps authSecret now payload := by
  obtain ⟨r, hd, hv⟩ := (authOk_true_iff hs).mp h
  rcases hv with hv | ⟨-, hv⟩
  · exact ⟨r, hd, token_ne_nil_of_verified hv, Or.inl hv⟩
  · exact ⟨r, hd, token_ne_nil_of_verified hv, Or.inr hv⟩

/-- **A login is decided** exactly when its loops are not caught at the top of the range. -/
theorem authOk_ne_none_iff (hs : authSecret ≠ []) :
    authOk deps now authSecret payload ≠ none ↔ LoginReturns deps authSecret now payload := by
  cases hd : AuthRequest.decode deps payload with
  | none => simp [authOk, authOkWithin, LoginReturns, hd]
  | some r =>
      by_cases ht : r.token = []
      · have hok : authOk deps now authSecret payload = some false := authOkWithin_empty_token hs hd ht
        rw [hok]
        refine ⟨fun _ r' hr' ht' => ?_, fun _ => by simp⟩
        rw [hd] at hr'
        cases hr'
        exact absurd ht ht'
      · rw [authOk_decoded hs hd ht]
        constructor
        · intro hdecided r' hr' _ htop
          rw [hd] at hr'
          cases hr'
          by_contra hunbuilt
          apply hdecided
          have hall : ∀ t, r.token ≠ buildAuthToken deps r.user authSecret t :=
            fun t h => hunbuilt ⟨t, h⟩
          cases hv : verifyAuthToken deps r.user authSecret r.token r.timestamp 30 with
          | none => rfl
          | some b =>
              cases b with
              | true => exact absurd (built_of_verified hv) hunbuilt
              | false =>
                  -- the first loop returned, so it is the second one that is caught
                  rcases htop with htop | htop
                  · have hnone := (verifyAuthToken_none_iff window_lt).mpr ⟨htop, hall⟩
                    rw [hv] at hnone
                    exact absurd hnone (by simp)
                  · exact (verifyAuthToken_none_iff window_lt).mpr ⟨htop, hall⟩
        · intro hreturns
          cases hv : verifyAuthToken deps r.user authSecret r.token r.timestamp 30 with
          | none =>
              obtain ⟨htop, hall⟩ := (verifyAuthToken_none_iff window_lt).mp hv
              obtain ⟨t, hbuilt⟩ := hreturns r hd ht (Or.inl htop)
              exact absurd hbuilt (hall t)
          | some b =>
              cases b with
              | true => simp
              | false =>
                  intro hnone
                  obtain ⟨htop, hall⟩ := (verifyAuthToken_none_iff window_lt).mp hnone
                  obtain ⟨t, hbuilt⟩ := hreturns r hd ht (Or.inr htop)
                  exact absurd hbuilt (hall t)

/-- Only an accepted login or one that is not decided leaves the flag set. -/
theorem handleAuthRequest_flag {session : ClientSession} (hs : session.authSecret ≠ [])
    (hauth : (handleAuthRequest deps now session payload).session.authenticated = true) :
    Verified deps session.authSecret now payload ∨
      (session.authenticated = true ∧ authOk deps now session.authSecret payload = none) := by
  cases hok : authOk deps now session.authSecret payload with
  | none =>
      rw [handleAuthRequest_diverged hok] at hauth
      exact Or.inr ⟨hauth, rfl⟩
  | some ok =>
      rw [(handleAuthRequest_authenticated hok).1] at hauth
      rw [hauth] at hok
      exact Or.inl (verified_of_authOk hs hok)

/-- An exception escapes an accepted login only when it cannot be answered. -/
theorem handleAuthRequest_threw {session : ClientSession} (hs : session.authSecret ≠ [])
    (hanswer : Verified deps session.authSecret now payload → Answerable deps session)
    (hthrew : (handleAuthRequest deps now session payload).exit = .threw) :
    (handleAuthRequest deps now session payload).session.authenticated = false := by
  cases hok : authOk deps now session.authSecret payload with
  | none =>
      rw [handleAuthRequest_diverged hok] at hthrew
      exact absurd hthrew (by simp)
  | some ok =>
      rw [(handleAuthRequest_authenticated hok).1]
      cases ok with
      | false => rfl
      | true =>
          obtain ⟨text, hdump, hfits⟩ := hanswer (verified_of_authOk hs hok)
          have hdump' : deps.dump (acceptance { session with authenticated := true }) = some text := hdump
          have hresp : authResponse deps { session with authenticated := true } true
              = .ok (frame MsgType.authResponse.toByte text) := by
            unfold authResponse
            rw [if_pos rfl, hdump']
            exact buildPacket_ok _ hfits
          rw [handleAuthRequest_answered hok hresp] at hthrew
          exact absurd hthrew (by simp)

/-! ## The last request of a session -/

theorem lastAuthRequest_authRequest (hty : MsgType.ofByte hdr.type = some .authRequest) :
    lastAuthRequest sid (es ++ [.frame sid now hdr payload]) = some (now, payload) := by
  unfold lastAuthRequest
  rw [List.foldl_append]
  simp [hty]

theorem lastAuthRequest_other {e : Event}
    (h : ∀ now hdr payload, e = .frame sid now hdr payload →
      MsgType.ofByte hdr.type ≠ some .authRequest) :
    lastAuthRequest sid (es ++ [e]) = lastAuthRequest sid es := by
  unfold lastAuthRequest
  rw [List.foldl_append]
  cases e with
  | frame sid' now hdr payload =>
      by_cases hsid : sid' = sid
      · subst hsid
        have hty := h now hdr payload rfl
        simp [hty]
      · simp [hsid]
  | acceptError | accept | sslHandshake | wsAccept | tunPacket | stop => rfl

/-- Events that are no `AuthRequest` for the session keep what it was granted. -/
theorem granted_other {e : Event} (h : ∀ now hdr payload, e = .frame sid now hdr payload →
      MsgType.ofByte hdr.type ≠ some .authRequest) (hg : Granted deps authSecret sid es) :
    Granted deps authSecret sid (es ++ [e]) := by
  obtain ⟨now, payload, hlast, hv⟩ := hg
  exact ⟨now, payload, by rw [lastAuthRequest_other h, hlast], hv⟩

/-! ## Over a run -/

/-- Every session has the configured secret, and its flag is set only when it was granted. -/
structure FlagSound (deps : Deps) (config : ServerConfig) (es : List Event) (s : Server) : Prop where
  config_eq : s.config = config
  secret    : ∀ sid session, s.sessions sid = some session → session.authSecret = config.authSecret
  granted   : ∀ sid session, s.sessions sid = some session → session.authenticated = true →
    Granted deps config.authSecret sid es

theorem flagSound_init : FlagSound deps config [] (Server.init config) where
  config_eq := rfl
  secret := by
    intro sid session h
    exact absurd h (by simp [Server.init])
  granted := by
    intro sid session h
    exact absurd h (by simp [Server.init])

/-- **The flag of a session follows its frames.** -/
theorem FlagSound.step {e : Event} (hs : config.authSecret ≠ []) (h : FlagSound deps config es s)
    (hcond : GateCondition deps s e) (hstep : step deps s e = some s') :
    FlagSound deps config (es ++ [e]) s' := by
  have hconfig : s'.config = config := (step_config hstep).trans h.config_eq
  rcases step_tables hstep with ⟨hframe, hsessions, -⟩ | ⟨i, uninit, sid₀, clientIp, rfl, -, rfl⟩ |
    ⟨sid₀, now, hdr, payload, session₀, rfl, hsession₀, hsessions, -⟩
  · refine ⟨hconfig, ?_, ?_⟩
    · rw [hsessions]
      exact h.secret
    · intro sid session hsession hauth
      rw [hsessions] at hsession
      exact granted_other (fun now hdr payload he => absurd he (hframe sid now hdr payload))
        (h.granted sid session hsession hauth)
  · obtain ⟨new, hnew, -, hauth₀, hsecret₀, -⟩ := registerSession_tables
      { s with handshakes := s.handshakes.eraseIdx i } sid₀ clientIp uninit
    have hcases : ∀ sid session,
        Function.update s.sessions sid₀ (some new) sid = some session →
          session = new ∨ s.sessions sid = some session := by
      intro sid session hsession
      by_cases hsid : sid = sid₀
      · rw [hsid, Function.update_self] at hsession
        exact Or.inl (Option.some.inj hsession).symm
      · rw [Function.update_of_ne hsid] at hsession
        exact Or.inr hsession
    refine ⟨hconfig, ?_, ?_⟩
    · intro sid session hsession
      rw [hnew] at hsession
      rcases hcases sid session hsession with rfl | hold
      · rw [hsecret₀]
        exact congrArg ServerConfig.authSecret h.config_eq
      · exact h.secret sid session hold
    · intro sid session hsession hauth
      rw [hnew] at hsession
      rcases hcases sid session hsession with rfl | hold
      · rw [hauth₀] at hauth
        exact absurd hauth (by simp)
      · exact granted_other (fun now hdr payload he => absurd he (by simp))
          (h.granted sid session hold hauth)
  · obtain ⟨b, hb⟩ := handlePacket_fields deps now session₀ hdr payload
    refine ⟨hconfig, ?_, ?_⟩
    · intro sid session hsession
      rw [hsessions] at hsession
      by_cases hsid : sid = sid₀
      · rw [hsid, Function.update_self, hb] at hsession
        cases hsession
        exact h.secret sid₀ session₀ hsession₀
      · rw [Function.update_of_ne hsid] at hsession
        exact h.secret sid session hsession
    · intro sid session hsession hauth
      rw [hsessions] at hsession
      by_cases hsid : sid = sid₀
      · rw [hsid, Function.update_self] at hsession
        cases hsession
        subst hsid
        rw [handlePacket_session] at hauth
        by_cases hty : MsgType.ofByte hdr.type = some .authRequest
        · rw [if_pos hty] at hauth
          have hsecret := h.secret sid session₀ hsession₀
          have hs₀ : session₀.authSecret ≠ [] := by
            rw [hsecret]
            exact hs
          rcases handleAuthRequest_flag hs₀ hauth with hv | ⟨hauth₀, hnone⟩
          · rw [hsecret] at hv
            exact ⟨now, payload, lastAuthRequest_authRequest hty, hv⟩
          · -- the session was authenticated, so the condition says that this login is decided
            have hreturns := (hcond sid now hdr payload session₀ rfl hty hsession₀).1 hauth₀
            exact absurd hnone ((authOk_ne_none_iff hs₀).mpr hreturns)
        · rw [if_neg hty] at hauth
          apply granted_other
          · intro now' hdr' payload' he
            cases he
            exact hty
          · exact h.granted sid session₀ hsession₀ hauth
      · rw [Function.update_of_ne hsid] at hsession
        apply granted_other
        · intro now' hdr' payload' he
          cases he
          exact absurd rfl hsid
        · exact h.granted sid session hsession hauth

theorem flagSound_of_run (hs : config.authSecret ≠ [])
    (hcond : Along (step deps) (GateCondition deps) (Server.init config) es)
    (hrun : run (step deps) (Server.init config) es = some s) : FlagSound deps config es s :=
  run_history (J := FlagSound deps config) (fun _ _ _ _ hC h hstep => h.step hs hC hstep) hcond
    flagSound_init hrun

/-- **The gate holds at every step** of a run in which every `AuthRequest` to an authenticated session is
    decided and every verified one can be answered. -/
theorem gate_holds (hs : config.authSecret ≠ [])
    (hcond : Along (step deps) (GateCondition deps) (Server.init config) es) :
    ∀ pre e post m m', es = pre ++ e :: post → run (step deps) (Server.init config) pre = some m →
      step deps m e = some m' → GateStep deps config.authSecret pre m e m' := by
  intro pre e post m m' hes hpre hstep
  have hsound : FlagSound deps config pre m := by
    rw [hes] at hcond
    exact flagSound_of_run hs hcond.of_append hpre
  have hC : GateCondition deps m e := hcond pre e post m hes hpre
  -- what the step leaves of a session that handled an `AuthRequest`
  have hframe : ∀ sid now hdr payload session', e = .frame sid now hdr payload →
      MsgType.ofByte hdr.type = some .authRequest → m'.sessions sid = some session' →
      ∃ session, m.sessions sid = some session ∧ session.authSecret = config.authSecret ∧
        session' = (handleAuthRequest deps now session payload).session ∧
        (handlePacket deps now session hdr payload).exit
          = (handleAuthRequest deps now session payload).exit := by
    rintro sid now hdr payload session' rfl hty hsession'
    obtain ⟨session, hsession, rfl⟩ := onFrame_cases (step_handle hstep)
    refine ⟨session, hsession, hsound.secret sid session hsession, ?_, ?_⟩
    · have hupdate : Function.update m.sessions sid
          (some (handlePacket deps now session hdr payload).session) sid = some session' := hsession'
      rw [Function.update_self, handlePacket_session, if_pos hty] at hupdate
      exact (Option.some.inj hupdate).symm
    · unfold handlePacket
      rw [hty]
  refine ⟨?_, ?_, ?_, ?_⟩
  · rintro sid now hdr payload id packet rfl hcall
    obtain ⟨session, hsession, hcall'⟩ := mem_calls_frame.mp hcall
    exact hsound.granted sid session hsession (authenticated_of_onIpPacket hcall').1
  · rintro data sid rfl hroute
    obtain ⟨-, -, session, hsession, hauth⟩ := routeToClient_eq_some_iff.mp hroute
    exact hsound.granted sid session hsession hauth
  · rintro sid now hdr payload session' rfl hty hunverified hsession'
    obtain ⟨session, hsession, hsecret, rfl, -⟩ := hframe sid now hdr payload session' rfl hty hsession'
    rw [← hsecret] at hunverified hs
    by_contra hauth
    rcases handleAuthRequest_flag hs (Bool.eq_true_of_not_eq_false hauth) with hv | ⟨hauth₀, hnone⟩
    · exact hunverified hv
    · have hreturns := (hC sid now hdr payload session rfl hty hsession).1 hauth₀
      exact absurd hnone ((authOk_ne_none_iff hs).mpr hreturns)
  · rintro sid now hdr payload session session' rfl hty hsession hthrew hsession'
    obtain ⟨session₀, hsession₀, hsecret, rfl, hexit⟩ :=
      hframe sid now hdr payload session' rfl hty hsession'
    have hsame : session₀ = session := Option.some.inj (hsession₀.symm.trans hsession)
    subst hsame
    rw [← hsecret] at hs
    rw [hexit] at hthrew
    exact handleAuthRequest_threw hs (hC sid now hdr payload session₀ rfl hty hsession).2 hthrew

/-! ## A gate left open

One client connects, logs in at time 1000, and then sends the request whose token loop never ends. -/

def connectEvents : List Event := [.accept .alive, .wsAccept 0 true 0]

def loginEvent : Event := .frame 1 1000 (authHeader sampleLogin) sampleLogin

def endlessEvent : Event := .frame 1 1000 (authHeader endlessLogin) endlessLogin

/-- A packet for the client, 10.8.0.2. -/
def routedPacket : Bytes := List.replicate 16 0 ++ [10, 8, 0, 2]

theorem connected_run :
    ∃ m, run (step sampleDeps) (Server.init plainConfig) connectEvents = some m ∧
      m.sessions 1 = some sampleSession ∧ m.ipToSession (ip4Dst routedPacket) = some 1 ∧
      m.stuck = [] ∧ m.ended = false := by
  have hrun : (run (step sampleDeps) (Server.init plainConfig) connectEvents).any (fun m =>
      m.sessions 1 = some sampleSession ∧ m.ipToSession (ip4Dst routedPacket) = some 1 ∧
        m.stuck = [] ∧ m.ended = false) = true := by decide +kernel
  obtain ⟨m, hm, hfacts⟩ := Option.any_eq_true _ _ |>.mp hrun
  exact ⟨m, hm, of_decide_eq_true hfacts⟩

def acceptedSession : ClientSession := { sampleSession with authenticated := true }

theorem sampleSession_answerable : Answerable sampleDeps sampleSession :=
  ⟨(dumpFlat (acceptance sampleSession)).getD [], by decide +kernel, by decide +kernel⟩

/-- The login is accepted and answered. -/
theorem sampleLogin_outcome :
    (handlePacket sampleDeps 1000 sampleSession (authHeader sampleLogin) sampleLogin).session
        = acceptedSession ∧
      (handlePacket sampleDeps 1000 sampleSession (authHeader sampleLogin) sampleLogin).exit
        = .returned := by
  obtain ⟨hends, hauth⟩ := authenticated_iff_authOk (s := sampleSession).mpr (sampleLogin_accepted 1000)
  obtain ⟨b, hb⟩ := handlePacket_fields sampleDeps 1000 sampleSession (authHeader sampleLogin) sampleLogin
  have hb' : b = true := by
    rw [hb] at hauth
    exact hauth
  refine ⟨by rw [hb, hb']; rfl, ?_⟩
  cases hexit : (handlePacket sampleDeps 1000 sampleSession (authHeader sampleLogin) sampleLogin).exit with
  | returned => rfl
  | diverged => exact absurd hexit hends
  | threw =>
      rw [handlePacket_authHeader] at hexit hauth
      have hfalse : (handleAuthRequest sampleDeps 1000 sampleSession sampleLogin).session.authenticated
          = false :=
        handleAuthRequest_threw (by decide) (fun _ => sampleSession_answerable) hexit
      rw [hfalse] at hauth
      exact absurd hauth (by simp)

theorem loggedIn_run :
    ∃ m, run (step sampleDeps) (Server.init plainConfig) (connectEvents ++ [loginEvent]) = some m ∧
      m.sessions 1 = some acceptedSession ∧
      m.ipToSession (ip4Dst routedPacket) = some 1 ∧ m.stuck = [] ∧ m.ended = false := by
  obtain ⟨m, hm, hsession, hip, hstuck, hended⟩ := connected_run
  obtain ⟨hsession', hexit⟩ := sampleLogin_outcome
  obtain ⟨m', hstep, hsessions', hip', hstuck', hended'⟩ := step_frame sampleDeps 1000
    (authHeader sampleLogin) sampleLogin hended (by rw [hstuck]; exact List.not_mem_nil) hsession
  rw [hexit] at hstuck' hended'
  refine ⟨m', run_snoc.mpr ⟨m, hm, hstep⟩, ?_, ?_, ?_, ?_⟩
  · rw [hsessions', Function.update_self, hsession']
  · rw [hip', hip]
  · rw [hstuck', if_neg (by decide), hstuck]
  · rw [hended']
    rfl

/-- The login meets the condition of `gate_holds`. -/
theorem login_gateCondition :
    Along (step sampleDeps) (GateCondition sampleDeps) (Server.init plainConfig)
      (connectEvents ++ [loginEvent, .tunPacket routedPacket]) := by
  intro pre e post m hes hpre sid now hdr payload session he hty hsession
  subst he
  rcases pre with _ | ⟨e₁, _ | ⟨e₂, _ | ⟨e₃, pre⟩⟩⟩
  · simp [connectEvents] at hes
  · simp [connectEvents] at hes
  · -- the frame is the login, to the session that has just been registered
    obtain ⟨rfl, rfl, ⟨rfl, rfl, rfl, rfl⟩, -⟩ :
        e₁ = .accept .alive ∧ e₂ = .wsAccept 0 true 0 ∧
          (sid = 1 ∧ now = 1000 ∧ hdr = authHeader sampleLogin ∧ payload = sampleLogin) ∧
          post = [.tunPacket routedPacket] := by
      simp only [connectEvents, loginEvent, List.cons_append, List.nil_append, List.cons.injEq,
        Event.frame.injEq] at hes
      tauto
    obtain ⟨m', hm', hsession', -⟩ := connected_run
    obtain rfl : m' = m := Option.some.inj (hm'.symm.trans hpre)
    obtain rfl : sampleSession = session := Option.some.inj (hsession'.symm.trans hsession)
    refine ⟨?_, fun _ => sampleSession_answerable⟩
    intro _ r hd _ htop
    obtain rfl : r = ⟨ascii "kirdi", sampleToken 1000, 1000⟩ :=
      Option.some.inj (hd.symm.trans sampleLogin_decode)
    rcases htop with htop | htop
    · exact absurd htop (by decide)
    · exact absurd htop (by decide)
  · simp only [connectEvents, loginEvent, List.cons_append, List.nil_append, List.cons.injEq] at hes
    obtain ⟨-, -, -, hes⟩ := hes
    cases pre with
    | nil => simp at hes
    | cons e₄ pre => simp at hes

/-- A packet for the client passes after the login. -/
theorem gate_holds_after_login :
    ∃ m m', run (step sampleDeps) (Server.init plainConfig) (connectEvents ++ [loginEvent]) = some m ∧
      step sampleDeps m (.tunPacket routedPacket) = some m' ∧ m.routeToClient routedPacket = some 1 ∧
      GateStep sampleDeps plainConfig.authSecret (connectEvents ++ [loginEvent]) m
        (.tunPacket routedPacket) m' := by
  obtain ⟨m, hm, hsession, hip, -, hended⟩ := loggedIn_run
  obtain ⟨m', hstep⟩ : ∃ m', step sampleDeps m (.tunPacket routedPacket) = some m' := by
    unfold step
    rw [hended]
    exact ⟨_, rfl⟩
  have hroute : m.routeToClient routedPacket = some 1 :=
    routeToClient_eq_some_iff.mpr ⟨by decide, hip, acceptedSession, hsession, rfl⟩
  refine ⟨m, m', hm, hstep, hroute, ?_⟩
  exact gate_holds (by decide) login_gateCondition _ _ [] m m' (by simp) hm hstep

/-- The endless login is verified by neither loop. -/
theorem endlessLogin_unverified : ¬ Verified sampleDeps sampleSecret 1000 endlessLogin := by
  rintro ⟨r, hd, -, hv⟩
  have hr : r = ⟨ascii "kirdi", ascii "x", 18446744073709551585⟩ :=
    Option.some.inj (hd.symm.trans endlessLogin_decode)
  subst hr
  rcases hv with hv | hv
  · obtain ⟨t, ht⟩ := built_of_verified hv
    exact short_token_unbuilt _ _ _ t ht
  · obtain ⟨t, ht⟩ := built_of_verified hv
    exact short_token_unbuilt _ _ _ t ht

/-- **A gate left open.** After the endless login a packet for the client is passed to `send_ip_packet`,
    although the last `AuthRequest` was not verified. -/
theorem gate_left_open :
    ∃ m m', run (step sampleDeps) (Server.init plainConfig) (connectEvents ++ [loginEvent, endlessEvent])
        = some m ∧ step sampleDeps m (.tunPacket routedPacket) = some m' ∧
      m.routeToClient routedPacket = some 1 ∧
      ¬ GateStep sampleDeps plainConfig.authSecret (connectEvents ++ [loginEvent, endlessEvent]) m
        (.tunPacket routedPacket) m' := by
  obtain ⟨m, hm, hsession, hip, hstuck, hended⟩ := loggedIn_run
  have hout : handlePacket sampleDeps 1000 acceptedSession
      (authHeader endlessLogin) endlessLogin
        = ⟨acceptedSession, [], .diverged⟩ := by
    rw [handlePacket_authHeader]
    exact handleAuthRequest_diverged (authOk_none_of_endless (by decide) endlessLogin_decode (by decide)
      (verifyAuthTokenWithin_endless sampleDeps (ascii "kirdi") sampleSecret cycle))
  obtain ⟨m', hstep, hsessions', hip', -, hended'⟩ := step_frame sampleDeps 1000
    (authHeader endlessLogin) endlessLogin hended (by rw [hstuck]; exact List.not_mem_nil) hsession
  rw [hout] at hsessions' hended'
  have hrun := run_snoc.mpr ⟨m, hm, hstep⟩
  rw [List.append_assoc] at hrun
  have hroute : m'.routeToClient routedPacket = some 1 := by
    apply routeToClient_eq_some_iff.mpr
    refine ⟨by decide, by rw [hip', hip], acceptedSession, ?_, rfl⟩
    rw [hsessions', Function.update_self]
  obtain ⟨m'', hstep'⟩ : ∃ m'', step sampleDeps m' (.tunPacket routedPacket) = some m'' := by
    unfold step
    rw [hended']
    exact ⟨_, rfl⟩
  refine ⟨m', m'', hrun, hstep', hroute, ?_⟩
  intro hgate
  obtain ⟨now, payload, hlast, hv⟩ := hgate.routed routedPacket 1 rfl hroute
  have hlast' : lastAuthRequest 1 (connectEvents ++ [loginEvent, endlessEvent])
      = some (1000, endlessLogin) := by decide +kernel
  rw [hlast'] at hlast
  cases hlast
  exact endlessLogin_unverified hv

end Server
end Kirdi
