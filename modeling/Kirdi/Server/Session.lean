import Kirdi.Common.Crypto

/-!
# `Server.Session` — `ClientSession::handle_packet`

One frame at a time, `handle_packet` updates the session and calls its transport and the server. `Outcome`
records the session afterwards, the calls in order, and how the handler ended: it may return, let an
exception escape (the response cannot be built), or never end (the token loop of an `AuthRequest`).

`auth_ok` is decided by two verification attempts, around the timestamp the peer declares and, when that
one fails, around the server clock `now`. Its specification `authOk_true_iff` is what every result about
the login rests on.
-/

namespace Kirdi
namespace Server

open Protocol Crypto WrapSearch

/-- TUN configuration sent to the client in the auth response. -/
structure TunInfo where
  serverIp : Bytes
  mask     : Bytes
  mtu      : UInt32
  deriving DecidableEq, Repr

structure ClientSession where
  id            : UInt32
  virtualIp     : Bytes
  virtualIpN    : UInt32
  authenticated : Bool
  tunInfo       : TunInfo
  authSecret    : Bytes
  onIpPacketSet : Bool
  deriving DecidableEq, Repr

/-- A call made by a handler: on the transport (`ws_->send`, `ws_->close`) or on the server
    (`on_ip_packet_`). -/
inductive Call where
  | send (frame : Bytes)
  | close
  | onIpPacket (id : UInt32) (packet : Bytes)
  deriving DecidableEq, Repr

/-- How a handler ends. -/
inductive Exit where
  | returned
  | threw
  | diverged
  deriving DecidableEq, Repr

structure Outcome where
  session : ClientSession
  calls   : List Call
  exit    : Exit
  deriving DecidableEq, Repr

/-- The fields of an `AuthRequest` payload. -/
structure AuthRequest where
  user      : Bytes
  token     : Bytes
  timestamp : UInt64
  deriving DecidableEq, Repr

/-- The three `j.value` reads, with their defaults. -/
def AuthRequest.read (j : Json) : Except JsonError AuthRequest := do
  let user ← j.value Json.getString (ascii "user") []
  let token ← j.value Json.getString (ascii "token") []
  let timestamp ← j.value Json.getUInt64 (ascii "timestamp") 0
  return ⟨user, token, timestamp⟩

/-- Parse and read the payload; `none` is an exception caught by the `try` block. -/
def AuthRequest.decode (deps : Deps) (payload : Bytes) : Option AuthRequest :=
  (deps.parse payload).bind fun j => (AuthRequest.read j).toOption

/-- `auth_ok` at the end of the `try` block, each token loop cut off after `fuel` computations. -/
def authOkWithin (deps : Deps) (fuel : Nat) (now : UInt64) (authSecret payload : Bytes) :
    Option Bool :=
  match AuthRequest.decode deps payload with
  | none => some false
  | some r =>
      if !authSecret.isEmpty && !r.token.isEmpty then
        match verifyAuthTokenWithin deps fuel r.user authSecret r.token r.timestamp 30 with
        | none => none
        | some true => some true
        -- also try current server time in case client clock is off
        | some false => verifyAuthTokenWithin deps fuel r.user authSecret r.token now 30
      else if authSecret.isEmpty then some true  -- no secret configured: accept anyone
      else some false

/-- `auth_ok`; `none` when a token loop does not end. -/
def authOk (deps : Deps) (now : UInt64) (authSecret payload : Bytes) : Option Bool :=
  authOkWithin deps cycle now authSecret payload

/-- `resp` of an accepted login. -/
def acceptance (s : ClientSession) : Json :=
  .object [(ascii "ok", .boolean true), (ascii "tun_ip", .string s.virtualIp),
    (ascii "tun_server_ip", .string s.tunInfo.serverIp), (ascii "tun_mask", .string s.tunInfo.mask),
    (ascii "mtu", .numberUnsigned s.tunInfo.mtu.toUInt64)]

/-- `resp` of a refused one. -/
def refusal : Json :=
  .object [(ascii "ok", .boolean false), (ascii "error", .string (ascii "authentication failed"))]

/-- The `AuthResponse` packet. `error` is an exception of `dump` or `build_packet`; both are outside the
    `try` block. -/
def authResponse (deps : Deps) (s : ClientSession) (authOk : Bool) : Except String Bytes :=
  match deps.dump (if authOk then acceptance s else refusal) with
  | none => .error "[json.exception.type_error.316] invalid UTF-8 byte"
  | some respStr => buildPacket MsgType.authResponse.toByte respStr

/-- A handler that passes a built packet to `ws_->send`. -/
def sendBuilt (s : ClientSession) : Except String Bytes → Outcome
  | .ok pkt => ⟨s, [.send pkt], .returned⟩
  | .error _ => ⟨s, [], .threw⟩

/-- The `AuthRequest` case of `handle_packet`. -/
def handleAuthRequest (deps : Deps) (now : UInt64) (s : ClientSession) (payload : Bytes) : Outcome :=
  match authOk deps now s.authSecret payload with
  | none => ⟨s, [], .diverged⟩
  | some ok =>
      let s := { s with authenticated := ok }
      match authResponse deps s ok with
      | .error _ => ⟨s, [], .threw⟩
      | .ok pkt => ⟨s, .send pkt :: (if ok then [] else [.close]), .returned⟩

/-- `ClientSession::handle_packet` at server time `now`. -/
def handlePacket (deps : Deps) (now : UInt64) (s : ClientSession) (hdr : PacketHeader)
    (payload : Bytes) : Outcome :=
  match MsgType.ofByte hdr.type with
  | some .authRequest => handleAuthRequest deps now s payload
  | some .ipPacket =>
      if !s.authenticated then ⟨s, [], .returned⟩
      else ⟨s, if s.onIpPacketSet then [.onIpPacket s.id payload] else [], .returned⟩
  | some .keepalive => sendBuilt s buildKeepalive
  | some .ping => sendBuilt s (buildPacket MsgType.pong.toByte payload)
  | some .disconnect => ⟨s, [.close], .returned⟩
  | _ => ⟨s, [], .returned⟩

/-- `ClientSession::send_ip_packet`: the packet for `ws_->send`. -/
def sendIpPacket (data : Bytes) : Except String Bytes := buildIpPacket data

variable {deps : Deps} {now : UInt64} {s : ClientSession} {authSecret payload : Bytes}

/-! ## What `auth_ok` decides -/

/-- The window of both attempts. -/
theorem window_lt : (30 : UInt64).toNat < 2 ^ 63 := by decide

/-- An empty token is never verified (and the code does not try). -/
theorem token_ne_nil_of_verified {user token : Bytes} {timestamp windowSec : UInt64}
    (h : verifyAuthToken deps user authSecret token timestamp windowSec = some true) : token ≠ [] := by
  obtain ⟨t, ht⟩ := built_of_verified h
  intro hnil
  have hlen := length_buildAuthToken deps user authSecret t
  rw [← ht, hnil] at hlen
  exact absurd hlen (by decide)

/-- The decision for a request that parses, with a secret and a token. -/
theorem authOkWithin_decoded {fuel : Nat} {r : AuthRequest} (hs : authSecret ≠ [])
    (hd : AuthRequest.decode deps payload = some r) (ht : r.token ≠ []) :
    authOkWithin deps fuel now authSecret payload =
      match verifyAuthTokenWithin deps fuel r.user authSecret r.token r.timestamp 30 with
      | none => none
      | some true => some true
      | some false => verifyAuthTokenWithin deps fuel r.user authSecret r.token now 30 := by
  have hcond : (!authSecret.isEmpty && !r.token.isEmpty) = true := by
    cases authSecret with
    | nil => exact absurd rfl hs
    | cons a as =>
        cases h : r.token with
        | nil => exact absurd h ht
        | cons b bs => rfl
  simp only [authOkWithin, hd, hcond, if_true]

theorem authOk_decoded {r : AuthRequest} (hs : authSecret ≠ [])
    (hd : AuthRequest.decode deps payload = some r) (ht : r.token ≠ []) :
    authOk deps now authSecret payload =
      match verifyAuthToken deps r.user authSecret r.token r.timestamp 30 with
      | none => none
      | some true => some true
      | some false => verifyAuthToken deps r.user authSecret r.token now 30 :=
  authOkWithin_decoded hs hd ht

/-- When the loop around the declared timestamp does not end, neither does the decision. -/
theorem authOk_none_of_endless {r : AuthRequest} (hs : authSecret ≠ [])
    (hd : AuthRequest.decode deps payload = some r) (ht : r.token ≠ [])
    (hv : verifyAuthToken deps r.user authSecret r.token r.timestamp 30 = none) :
    authOk deps now authSecret payload = none := by
  rw [authOk_decoded hs hd ht, hv]

/-- A request without a token is refused when a secret is configured. -/
theorem authOkWithin_empty_token {fuel : Nat} {r : AuthRequest} (hs : authSecret ≠ [])
    (hd : AuthRequest.decode deps payload = some r) (ht : r.token = []) :
    authOkWithin deps fuel now authSecret payload = some false := by
  have hs' : authSecret.isEmpty = false := by
    cases authSecret with
    | nil => exact absurd rfl hs
    | cons a as => rfl
  simp [authOkWithin, hd, ht, hs']

/-- **A login is accepted** exactly when the request parses and one of the two attempts verifies its
    token: around the declared timestamp, or else around the server clock. -/
theorem authOk_true_iff (hs : authSecret ≠ []) :
    authOk deps now authSecret payload = some true ↔
      ∃ r, AuthRequest.decode deps payload = some r ∧
        (verifyAuthToken deps r.user authSecret r.token r.timestamp 30 = some true ∨
          (verifyAuthToken deps r.user authSecret r.token r.timestamp 30 = some false ∧
            verifyAuthToken deps r.user authSecret r.token now 30 = some true)) := by
  cases hd : AuthRequest.decode deps payload with
  | none => simp [authOk, authOkWithin, hd]
  | some r =>
      by_cases ht : r.token = []
      · unfold authOk
        rw [authOkWithin_empty_token hs hd ht]
        constructor
        · intro h
          exact absurd h (by simp)
        · rintro ⟨r', hr, hv⟩
          cases hr
          rcases hv with hv | ⟨-, hv⟩
          · exact absurd ht (token_ne_nil_of_verified hv)
          · exact absurd ht (token_ne_nil_of_verified hv)
      · rw [authOk_decoded hs hd ht]
        cases hv : verifyAuthToken deps r.user authSecret r.token r.timestamp 30 with
        | none => simp [hv]
        | some b => cases b <;> simp [hv]

/-! ## How `handle_packet` treats the flag -/

/-- The answer to an accepted login. -/
theorem authResponse_accepted {s : ClientSession} {respStr : Bytes}
    (hdump : deps.dump (acceptance s) = some respStr) :
    authResponse deps s true = buildPacket MsgType.authResponse.toByte respStr := by
  unfold authResponse
  rw [if_pos rfl, hdump]

theorem handlePacket_authRequest {hdr : PacketHeader} (hty : MsgType.ofByte hdr.type = some .authRequest) :
    handlePacket deps now s hdr payload = handleAuthRequest deps now s payload := by
  unfold handlePacket
  rw [hty]

/-- After an `AuthRequest` that was decided, `authenticated_` is `auth_ok`, whatever the response does. -/
theorem handleAuthRequest_authenticated {ok : Bool}
    (h : authOk deps now s.authSecret payload = some ok) :
    (handleAuthRequest deps now s payload).session.authenticated = ok ∧
      (handleAuthRequest deps now s payload).exit ≠ .diverged := by
  unfold handleAuthRequest
  rw [h]
  cases hr : authResponse deps { s with authenticated := ok } ok with
  | error e => simp [hr]
  | ok pkt => simp [hr]

/-- An `AuthRequest` that is not decided leaves the session as it was, and never ends. -/
theorem handleAuthRequest_diverged (h : authOk deps now s.authSecret payload = none) :
    handleAuthRequest deps now s payload = ⟨s, [], .diverged⟩ := by
  unfold handleAuthRequest
  rw [h]

/-- An `AuthRequest` that is decided is answered, when the response can be built. -/
theorem handleAuthRequest_answered {ok : Bool} {pkt : Bytes} (h : authOk deps now s.authSecret payload = some ok)
    (hresp : authResponse deps { s with authenticated := ok } ok = .ok pkt) :
    handleAuthRequest deps now s payload =
      ⟨{ s with authenticated := ok }, .send pkt :: (if ok then [] else [.close]), .returned⟩ := by
  unfold handleAuthRequest
  rw [h]
  simp only [hresp]

/-- What an `AuthRequest` makes the session call: nothing, or the response, and `close` after a refusal. -/
theorem handleAuthRequest_calls (deps : Deps) (now : UInt64) (s : ClientSession) (payload : Bytes) :
    (handleAuthRequest deps now s payload).calls = [] ∨
      ∃ ok pkt, authOk deps now s.authSecret payload = some ok ∧
        authResponse deps { s with authenticated := ok } ok = .ok pkt ∧
        (handleAuthRequest deps now s payload).calls = .send pkt :: if ok then [] else [.close] := by
  unfold handleAuthRequest
  cases authOk deps now s.authSecret payload with
  | none => exact Or.inl rfl
  | some ok =>
      cases hr : authResponse deps { s with authenticated := ok } ok with
      | error e =>
          left
          simp [hr]
      | ok pkt =>
          right
          refine ⟨ok, pkt, rfl, hr, ?_⟩
          simp [hr]

/-- Only the flag of a session ever changes, and only through an `AuthRequest`. -/
theorem handlePacket_session (hdr : PacketHeader) :
    (handlePacket deps now s hdr payload).session =
      if MsgType.ofByte hdr.type = some .authRequest then
        (handleAuthRequest deps now s payload).session
      else s := by
  unfold handlePacket sendBuilt
  cases hty : MsgType.ofByte hdr.type with
  | none => rfl
  | some ty =>
      cases ty with
      | authRequest => rfl
      | ipPacket => cases s.authenticated <;> rfl
      | ping => cases buildPacket MsgType.pong.toByte payload <;> rfl
      | keepalive | authResponse | tunConfig | disconnect | pong => rfl

/-- Handling a frame changes nothing of a session but its flag. -/
theorem handlePacket_fields (deps : Deps) (now : UInt64) (session : ClientSession)
    (hdr : PacketHeader) (payload : Bytes) :
    ∃ b, (handlePacket deps now session hdr payload).session = { session with authenticated := b } := by
  rw [handlePacket_session]
  by_cases hty : MsgType.ofByte hdr.type = some .authRequest
  · rw [if_pos hty]
    unfold handleAuthRequest
    cases authOk deps now session.authSecret payload with
    | none => exact ⟨session.authenticated, rfl⟩
    | some ok =>
        cases hr : authResponse deps { session with authenticated := ok } ok with
        | error err => exact ⟨ok, by simp [hr]⟩
        | ok pkt => exact ⟨ok, by simp [hr]⟩
  · rw [if_neg hty]
    exact ⟨session.authenticated, rfl⟩

/-- `on_ip_packet_` is called only on an authenticated session. -/
theorem authenticated_of_onIpPacket {hdr : PacketHeader} {id : UInt32} {packet : Bytes}
    (h : Call.onIpPacket id packet ∈ (handlePacket deps now s hdr payload).calls) :
    s.authenticated = true ∧ MsgType.ofByte hdr.type = some .ipPacket ∧ packet = payload := by
  unfold handlePacket sendBuilt at h
  cases hty : MsgType.ofByte hdr.type with
  | none => simp [hty] at h
  | some ty =>
      cases ty with
      | authRequest =>
          simp only [hty, handleAuthRequest] at h
          split at h
          · simp at h
          · split at h
            · simp at h
            · split at h <;> simp at h
      | ipPacket =>
          cases ha : s.authenticated with
          | false => simp [hty, ha] at h
          | true =>
              simp only [hty, ha, Bool.not_true, Bool.false_eq_true, if_false] at h
              split at h
              · simp only [List.mem_singleton, Call.onIpPacket.injEq] at h
                exact ⟨rfl, rfl, h.2⟩
              · simp at h
      | ping => cases hb : buildPacket MsgType.pong.toByte payload <;> simp [hty, hb] at h
      | keepalive => simp [hty, buildKeepalive_eq] at h
      | authResponse | tunConfig | disconnect | pong => simp [hty] at h

end Server
end Kirdi
