import Kirdi.Server.Session

/-!
# `Server.Login` — freshness of accepted tokens, termination of the login

Two properties of one `AuthRequest`, both promised by the ±30 second window of `common/crypto.hpp` and
both broken by where the window is put:

* **Freshness.** The first attempt verifies the token around the timestamp the *peer* declares, so an old
  token is accepted with its own old timestamp at any server time (`replay_accepted`). What is fresh, and
  exactly when, is `tokenFresh_iff`.
* **Termination.** The loop bound `timestamp + 30` is computed modulo `2 ^ 64`. For the one timestamp where
  it is the largest value the guard never fails (`login_endless`); `login_loops_bounded_iff` says exactly
  when the loops end within 61 token computations.
-/

namespace Kirdi
namespace Server

open Protocol Crypto WrapSearch

/-- The header of an `AuthRequest` frame. -/
def authHeader (payload : Bytes) : PacketHeader :=
  ⟨MsgType.authRequest.toByte, UInt32.ofNat payload.length⟩

/-- The token of a request was built for a time at most 30 s away from `now`. -/
def BuiltNear (deps : Deps) (authSecret : Bytes) (now : UInt64) (r : AuthRequest) : Prop :=
  ∃ t, Within 30 t now ∧ r.token = buildAuthToken deps r.user authSecret t

/-- **Token freshness** of one `AuthRequest`: if `handle_packet` ends with `authenticated_` set, the
    payload's token was built for a time within 30 s of the server clock. -/
def TokenFresh (deps : Deps) (now : UInt64) (s : ClientSession) (payload : Bytes) : Prop :=
  (handlePacket deps now s (authHeader payload) payload).exit ≠ .diverged →
    (handlePacket deps now s (authHeader payload) payload).session.authenticated = true →
      ∃ r, AuthRequest.decode deps payload = some r ∧ BuiltNear deps s.authSecret now r

/-- A request is accepted by a loop that is not confined to ±30 s of the server clock: the one around the
    declared timestamp, or the one around the server clock at the single clock value where it runs through
    every time. -/
def AcceptedOffClock (deps : Deps) (authSecret : Bytes) (now : UInt64) (r : AuthRequest) : Prop :=
  verifyAuthToken deps r.user authSecret r.token r.timestamp 30 = some true ∨
    (now + 30 = top ∧ verifyAuthToken deps r.user authSecret r.token r.timestamp 30 = some false ∧
      ∃ t, r.token = buildAuthToken deps r.user authSecret t)

/-- Every token loop that handling the payload runs ends within its 61 steps: the one around the declared
    timestamp and, when that one refuses, the one around the server clock. -/
def LoginLoopsEnd (deps : Deps) (authSecret : Bytes) (now : UInt64) (payload : Bytes) : Prop :=
  ∀ r, AuthRequest.decode deps payload = some r → authSecret ≠ [] → r.token ≠ [] →
    LoopEnds deps r.user authSecret r.token r.timestamp 30 ∧
      (verifyAuthToken deps r.user authSecret r.token r.timestamp 30 = some false →
        LoopEnds deps r.user authSecret r.token now 30)

variable {deps : Deps} {now : UInt64} {s : ClientSession} {authSecret payload : Bytes}

theorem handlePacket_authHeader :
    handlePacket deps now s (authHeader payload) payload = handleAuthRequest deps now s payload := by
  simp [handlePacket, authHeader]

/-- More fuel keeps the decision. -/
theorem authOk_of_within {n : Nat} {b : Bool}
    (h : authOkWithin deps n now authSecret payload = some b) :
    authOk deps now authSecret payload = some b := by
  unfold authOk
  cases hd : AuthRequest.decode deps payload with
  | none => simpa [authOkWithin, hd] using h
  | some r =>
      simp only [authOkWithin, hd] at h ⊢
      split at h
      · rename_i hcond
        rw [if_pos hcond]
        cases hv : verifyAuthTokenWithin deps n r.user authSecret r.token r.timestamp 30 with
        | none => simp [hv] at h
        | some b' =>
            have hcycle : verifyAuthTokenWithin deps cycle r.user authSecret r.token r.timestamp 30 = some b' :=
              verifyAuthToken_eq_some_iff.mpr ⟨_, hv⟩
            rw [hv] at h
            rw [hcycle]
            cases b' with
            | true => exact h
            | false => exact verifyAuthToken_eq_some_iff.mpr ⟨_, h⟩
      · rename_i hcond
        rw [if_neg hcond]
        exact h

/-! ## Freshness -/

/-- Handling ends with the flag set exactly when the login is accepted. -/
theorem authenticated_iff_authOk :
    ((handlePacket deps now s (authHeader payload) payload).exit ≠ .diverged ∧
        (handlePacket deps now s (authHeader payload) payload).session.authenticated = true) ↔
      authOk deps now s.authSecret payload = some true := by
  rw [handlePacket_authHeader]
  cases hok : authOk deps now s.authSecret payload with
  | none => simp [handleAuthRequest_diverged hok]
  | some ok =>
      obtain ⟨hauth, hexit⟩ := handleAuthRequest_authenticated hok
      simp [hauth, hexit]

/-- **Exactly when an accepted login is fresh**: when no loop that is not confined to ±30 s of the server
    clock accepts a token from outside that window. -/
theorem tokenFresh_iff (hs : s.authSecret ≠ []) :
    TokenFresh deps now s payload ↔
      ∀ r, AuthRequest.decode deps payload = some r → AcceptedOffClock deps s.authSecret now r →
        BuiltNear deps s.authSecret now r := by
  have hfresh : TokenFresh deps now s payload ↔
      (authOk deps now s.authSecret payload = some true →
        ∃ r, AuthRequest.decode deps payload = some r ∧ BuiltNear deps s.authSecret now r) := by
    rw [← authenticated_iff_authOk]
    exact ⟨fun h hc => h hc.1 hc.2, fun h he ha => h ⟨he, ha⟩⟩
  rw [hfresh, authOk_true_iff hs]
  constructor
  · intro h r hd hoff
    have hverified : verifyAuthToken deps r.user s.authSecret r.token r.timestamp 30 = some true ∨
        (verifyAuthToken deps r.user s.authSecret r.token r.timestamp 30 = some false ∧
          verifyAuthToken deps r.user s.authSecret r.token now 30 = some true) := by
      rcases hoff with hdeclared | ⟨htop, hrefused, hbuilt⟩
      · exact Or.inl hdeclared
      · exact Or.inr ⟨hrefused, (verifyAuthToken_top_iff htop).mpr hbuilt⟩
    obtain ⟨r', hd', hnear⟩ := h ⟨r, hd, hverified⟩
    have hr : r = r' := Option.some.inj (hd.symm.trans hd')
    exact hr ▸ hnear
  · rintro h ⟨r, hd, hverified⟩
    refine ⟨r, hd, ?_⟩
    rcases hverified with hdeclared | ⟨hrefused, hclock⟩
    · exact h r hd (Or.inl hdeclared)
    · by_cases htop : now + 30 = top
      · exact h r hd (Or.inr ⟨htop, hrefused, (verifyAuthToken_top_iff htop).mp hclock⟩)
      · -- the loop around the server clock stays inside the window
        exact verifyAuthToken_true_within window_lt htop hclock

/-! ## Termination -/

/-- **Exactly when handling an `AuthRequest` runs each token loop to its end within 61 computations.** -/
theorem authOkWithin_ends_iff :
    (∃ b, authOkWithin deps 61 now authSecret payload = some b) ↔
      LoginLoopsEnd deps authSecret now payload := by
  have hbound : (61 : Nat) = 2 * (30 : UInt64).toNat + 1 := by decide
  cases hd : AuthRequest.decode deps payload with
  | none => simp [authOkWithin, hd, LoginLoopsEnd]
  | some r =>
      by_cases hs : authSecret = []
      · simp [authOkWithin, hd, hs, LoginLoopsEnd]
      · by_cases ht : r.token = []
        · rw [authOkWithin_empty_token hs hd ht]
          refine ⟨fun _ r' hd' _ ht' => ?_, fun _ => ⟨false, rfl⟩⟩
          rw [hd] at hd'
          cases hd'
          exact absurd ht ht'
        · have hloops : LoginLoopsEnd deps authSecret now payload ↔
              LoopEnds deps r.user authSecret r.token r.timestamp 30 ∧
                (verifyAuthToken deps r.user authSecret r.token r.timestamp 30 = some false →
                  LoopEnds deps r.user authSecret r.token now 30) := by
            refine ⟨fun h => h r hd hs ht, ?_⟩
            rintro h r' hd' - -
            rw [hd] at hd'
            cases hd'
            exact h
          rw [hloops, authOkWithin_decoded hs hd ht, ← verifyAuthTokenWithin_ends_iff window_lt,
            ← verifyAuthTokenWithin_ends_iff window_lt, ← hbound]
          cases hv : verifyAuthTokenWithin deps 61 r.user authSecret r.token r.timestamp 30 with
          | none => simp
          | some b =>
              have hv' : verifyAuthToken deps r.user authSecret r.token r.timestamp 30 = some b :=
                verifyAuthToken_eq_some_iff.mpr ⟨_, hv⟩
              rw [hv']
              cases b <;> simp

/-- A login whose loops end within 61 computations is decided, and its handler ends. -/
theorem handlePacket_ends (h : LoginLoopsEnd deps s.authSecret now payload) :
    (handlePacket deps now s (authHeader payload) payload).exit ≠ .diverged := by
  obtain ⟨b, hb⟩ := authOkWithin_ends_iff.mpr h
  rw [handlePacket_authHeader]
  exact (handleAuthRequest_authenticated (authOk_of_within hb)).2

/-- **Exactly when the token loops are bounded.** For every timestamp and window below `2 ^ 63` the loop of
    `verify_auth_token` ends within `2 * window_sec + 1` computations iff its bound is not the largest
    64-bit value or the token was built for a time it reaches before it wraps; for `handle_packet` this
    bounds both loops of an `AuthRequest` by 61, and then the handler ends. -/
theorem login_loops_bounded_iff (deps : Deps) (user secret token : Bytes) (timestamp windowSec : UInt64)
    (now : UInt64) (s : ClientSession) (payload : Bytes) (hw : windowSec.toNat < 2 ^ 63) :
    ((∃ b, verifyAuthTokenWithin deps (2 * windowSec.toNat + 1) user secret token timestamp windowSec
        = some b) ↔ LoopEnds deps user secret token timestamp windowSec) ∧
    ((∃ b, authOkWithin deps 61 now s.authSecret payload = some b) ↔
      LoginLoopsEnd deps s.authSecret now payload) ∧
    (LoginLoopsEnd deps s.authSecret now payload →
      (handlePacket deps now s (authHeader payload) payload).exit ≠ .diverged) :=
  ⟨verifyAuthTokenWithin_ends_iff hw, authOkWithin_ends_iff, handlePacket_ends⟩

/-! ## A concrete server

One session with secret `secret`, a login for user `kirdi` made at time 1000, and a request that declares
the timestamp `2 ^ 64 - 31`. -/

def sampleSecret : Bytes := ascii "secret"

def sampleSession : ClientSession where
  id := 1
  virtualIp := ascii "10.8.0.2"
  virtualIpN := 0x0200080A
  authenticated := false
  tunInfo := ⟨ascii "10.8.0.1", ascii "255.255.255.0", 1400⟩
  authSecret := sampleSecret
  onIpPacketSet := true

/-- The token of user `kirdi` for a time. -/
def sampleToken (t : UInt64) : Bytes := buildAuthToken (Deps.table []) (ascii "kirdi") sampleSecret t

def loginJson (token : Bytes) (timestamp : UInt64) : Json :=
  .object [(ascii "user", .string (ascii "kirdi")), (ascii "token", .string token),
    (ascii "timestamp", .numberUnsigned timestamp)]

/-- The payload text of a login. -/
def loginText (token : Bytes) (timestamp : UInt64) : Bytes :=
  (dumpFlat (loginJson token timestamp)).getD []

/-- A login made at time 1000. -/
def sampleLogin : Bytes := loginText (sampleToken 1000) 1000

/-- A login with a made-up token and the timestamp at which the loop bound is the largest value. -/
def endlessLogin : Bytes := loginText (ascii "x") 18446744073709551585

def sampleDeps : Deps := Deps.table
  [(sampleLogin, loginJson (sampleToken 1000) 1000),
   (endlessLogin, loginJson (ascii "x") 18446744073709551585)]

theorem sampleLogin_decode :
    AuthRequest.decode sampleDeps sampleLogin = some ⟨ascii "kirdi", sampleToken 1000, 1000⟩ := by
  decide +kernel

theorem endlessLogin_decode :
    AuthRequest.decode sampleDeps endlessLogin
      = some ⟨ascii "kirdi", ascii "x", 18446744073709551585⟩ := by
  decide +kernel

theorem sampleLogin_verified :
    verifyAuthToken sampleDeps (ascii "kirdi") sampleSecret (sampleToken 1000) 1000 30 = some true := by
  have h : verifyAuthTokenWithin sampleDeps 61 (ascii "kirdi") sampleSecret (sampleToken 1000) 1000 30
      = some true := by decide +kernel
  exact verifyAuthToken_eq_some_iff.mpr ⟨_, h⟩

/-- The sample login is accepted at every server time. -/
theorem sampleLogin_accepted (now : UInt64) : authOk sampleDeps now sampleSecret sampleLogin = some true :=
  (authOk_true_iff (by decide)).mpr ⟨_, sampleLogin_decode, Or.inl sampleLogin_verified⟩

/-- The sample token was built for no time within 30 s of 5000. -/
theorem sampleToken_stale {t : UInt64} (h : Within 30 t 5000) :
    sampleToken 1000 ≠ buildAuthToken sampleDeps (ascii "kirdi") sampleSecret t := by
  have hall : ∀ i < 61, sampleToken 1000 ≠
      buildAuthToken sampleDeps (ascii "kirdi") sampleSecret (UInt64.ofNat (4970 + i)) := by
    decide +kernel
  have hwin : t.toNat ≤ 5030 ∧ 4970 ≤ t.toNat := by
    obtain ⟨h1, h2⟩ := h
    rw [show (5000 : UInt64).toNat = 5000 from rfl] at h1 h2
    exact ⟨h1, by omega⟩
  have ht := hall (t.toNat - 4970) (by omega)
  rwa [Nat.add_sub_cancel' hwin.2, UInt64.ofNat_toNat] at ht

/-- **Replay.** The login made at time 1000 is accepted at time 1000, and its payload is accepted again at
    time 5000, where no time within 30 s gives its token. -/
theorem replay_accepted :
    (handlePacket sampleDeps 1000 sampleSession (authHeader sampleLogin) sampleLogin).session.authenticated
        = true ∧
    (handlePacket sampleDeps 5000 sampleSession (authHeader sampleLogin) sampleLogin).session.authenticated
        = true ∧
    ¬ TokenFresh sampleDeps 5000 sampleSession sampleLogin := by
  have h1000 := authenticated_iff_authOk (s := sampleSession).mpr (sampleLogin_accepted 1000)
  have h5000 := authenticated_iff_authOk (s := sampleSession).mpr (sampleLogin_accepted 5000)
  refine ⟨h1000.2, h5000.2, fun hfresh => ?_⟩
  obtain ⟨r, hd, t, hwithin, htok⟩ := hfresh h5000.1 h5000.2
  have hr : r = ⟨ascii "kirdi", sampleToken 1000, 1000⟩ :=
    Option.some.inj (hd.symm.trans sampleLogin_decode)
  subst hr
  exact sampleToken_stale hwithin htok

/-- The login of time 1000 is fresh at time 1010. -/
theorem tokenFresh_at_1010 :
    sampleSession.authSecret ≠ [] ∧ TokenFresh sampleDeps 1010 sampleSession sampleLogin := by
  refine ⟨by decide, (tokenFresh_iff (by decide)).mpr fun r hd _ => ?_⟩
  have hr : r = ⟨ascii "kirdi", sampleToken 1000, 1000⟩ :=
    Option.some.inj (hd.symm.trans sampleLogin_decode)
  subst hr
  exact ⟨1000, by decide, rfl⟩

/-- A token of the wrong length is built for no time. -/
theorem short_token_unbuilt (deps : Deps) (user secret : Bytes) (t : UInt64) :
    ascii "x" ≠ buildAuthToken deps user secret t := by
  intro h
  have hlen := congrArg List.length h
  rw [length_buildAuthToken] at hlen
  exact absurd hlen (by decide)

/-- The loop around `2 ^ 64 - 31` never ends for a token that was built for no time. -/
theorem verifyAuthTokenWithin_endless (deps : Deps) (user secret : Bytes) (n : Nat) :
    verifyAuthTokenWithin deps n user secret (ascii "x") 18446744073709551585 30 = none := by
  cases h : verifyAuthTokenWithin deps n user secret (ascii "x") 18446744073709551585 30 with
  | none => rfl
  | some b =>
      obtain ⟨i, -, hi⟩ := search_top_iff.mp ⟨b, h⟩
      exact absurd (tokenMatches_iff.mp hi) (short_token_unbuilt deps user secret _)

/-- **A login that never ends.** With the timestamp `2 ^ 64 - 31` and a made-up token no number of token
    computations is enough, and the handler of the frame does not end. -/
theorem login_endless :
    (¬ ∃ n b, verifyAuthTokenWithin sampleDeps n (ascii "kirdi") sampleSecret (ascii "x")
        18446744073709551585 30 = some b) ∧
    (handlePacket sampleDeps 1000 sampleSession (authHeader endlessLogin) endlessLogin).exit
        = .diverged := by
  constructor
  · rintro ⟨n, b, h⟩
    rw [verifyAuthTokenWithin_endless] at h
    exact absurd h (by simp)
  · have hok : authOk sampleDeps 1000 sampleSecret endlessLogin = none :=
      authOk_none_of_endless (by decide) endlessLogin_decode (by decide)
        (verifyAuthTokenWithin_endless sampleDeps (ascii "kirdi") sampleSecret cycle)
    rw [handlePacket_authHeader, handleAuthRequest_diverged (s := sampleSession) hok]

/-- The sample login's loop around time 1000 is bounded by 61 computations, and its handler ends. -/
theorem login_loops_bounded_at_1000 :
    (∃ b, verifyAuthTokenWithin sampleDeps 61 (ascii "kirdi") sampleSecret (sampleToken 1000) 1000 30
        = some b) ∧
    (handlePacket sampleDeps 1000 sampleSession (authHeader sampleLogin) sampleLogin).exit
        ≠ .diverged := by
  obtain ⟨hloop, -, hends⟩ := login_loops_bounded_iff sampleDeps (ascii "kirdi") sampleSecret
    (sampleToken 1000) 1000 30 1000 sampleSession sampleLogin (by decide)
  refine ⟨hloop.mpr (Or.inl (by decide)), hends fun r hd _ _ => ?_⟩
  have hr : r = ⟨ascii "kirdi", sampleToken 1000, 1000⟩ :=
    Option.some.inj (hd.symm.trans sampleLogin_decode)
  subst hr
  exact ⟨Or.inl (by decide), fun _ => Or.inl (by decide)⟩

end Server
end Kirdi
