import Kirdi.Client.Handlers
import Kirdi.Common.Codec
import Kirdi.Server.Login

/-!
# `Tunnel.Exceptions` — no message throws out of a receive handler

`on_read` passes a received message through `dispatch_packet` to the `handle_packet` of a session or to the
`on_packet` of a client, and nothing above it catches an exception. On the server an exception is an
`Outcome` that `threw`. The client is embedded here once more, with its exceptions (`Receive`): a `throw`
keeps what was assigned before it, and the `catch` of the `AuthResponse` case is where the source has it. The
handlers of `Client.onPacket` are what remains of it (`onPacketThrowing_eq`).

What could throw outside of a `try` block is the building of a packet. `dispatch_packet` hands over no payload
longer than `MAX_PAYLOAD`, so the echo of a `Ping` can be built, and the two responses are built by the server.
-/

set_option linter.dupNamespace false

namespace Kirdi
namespace Tunnel

open Protocol Proc
open Client (Client Env)
open Server (ClientSession AuthRequest Outcome acceptance refusal authResponse authOk handlePacket sendBuilt)

/-! ## The client, with its exceptions -/

inductive Thrown where
  | parseError                     -- `json::parse`
  | json (e : JsonError)
  | runtimeError (what : String)
  | systemError                    -- `std::thread` cannot be started
  deriving DecidableEq, Repr

/-- Code that reads and writes the client and may throw. -/
abbrev Receive (α : Type) := EStateM Thrown Client α

/-- `j.value(key, default)`. -/
def field {α : Type} : Except JsonError α → Receive α
  | .ok a => pure a
  | .error e => throw (.json e)

/-- A built packet, or the exception of `build_packet`. -/
def built : Except String Bytes → Receive Bytes
  | .ok pkt => pure pkt
  | .error what => throw (.runtimeError what)

/-- A handler that does not throw. -/
def performs (p : Proc Client) : Receive Unit := modify p.run

/-- `json::parse`. -/
def parsed (deps : Deps) (payload : Bytes) : Receive Json :=
  match deps.parse payload with
  | some j => pure j
  | none => throw .parseError

/-- `std::thread tun_thread(...)`. -/
def startThread (threadStarts : Bool) : Receive Unit :=
  if threadStarts then performs (atom fun c => { c with tunLoops := c.tunLoops + 1 })
  else throw .systemError

/-- The end of an accepted login. -/
def startTunnel (env : Env) (threadStarts : Bool) (tunCfg : Client.TunConfig) : Receive Unit := do
  performs (atom fun c => c.createTun tunCfg)
  if !env.tunOpens then performs Client.stop
  else do
    performs (atom fun c => c.openTun env.interfaceName)
    performs (branch (fun c => c.config.autoRoute) ((Client.setupRoutes env).andThen (Client.setupDns env)) done)
    startThread threadStarts

/-- The `try` block of the `AuthResponse` case. -/
def readResponse (deps : Deps) (env : Env) (threadStarts : Bool) (payload : Bytes) : Receive Unit := do
  let j ← parsed deps payload
  if ← field (j.value Json.getBool (ascii "ok") false) then do
    let virtualIp ← field (j.value Json.getString (ascii "tun_ip") (ascii "10.8.0.2"))
    performs (atom fun c => { c with virtualIp := virtualIp })
    let serverTunIp ← field (j.value Json.getString (ascii "tun_server_ip") (ascii "10.8.0.1"))
    let tunMask ← field (j.value Json.getString (ascii "tun_mask") (ascii "255.255.255.0"))
    let tunMtu ← field (j.value Json.getUInt32 (ascii "mtu") (← get).config.mtu)
    startTunnel env threadStarts ⟨virtualIp, serverTunIp, tunMask, tunMtu⟩
  else performs Client.stop

/-- `Client::on_packet`, with its exceptions. -/
def onPacketThrowing (deps : Deps) (env : Env) (threadStarts : Bool) (hdr : PacketHeader) (payload : Bytes) :
    Receive Unit :=
  match MsgType.ofByte hdr.type with
  | some .authResponse => tryCatch (readResponse deps env threadStarts payload) fun _ => pure ()
  | some .ipPacket => do
      if (← get).tunOpen then performs (atom fun c => { c with delivered := c.delivered ++ [payload] })
  | some .keepalive => do
      if (← get).wsConnected then
        let pkt ← built buildKeepalive
        performs (atom fun c => c.sendWs pkt)
  | _ => pure ()

variable {deps : Deps} {env : Env} {c : Client} {hdr : PacketHeader} {message payload : Bytes}

/-! ## What remains of an exception -/

/-- The client when the code has returned, or has thrown. -/
def leaves {α : Type} : EStateM.Result Thrown Client α → Client
  | .ok _ c => c
  | .error _ c => c

/-- **A `try` block with an empty handler returns**, in the state in which its body ended. -/
theorem tryCatch_run (body : Receive Unit) (c : Client) :
    (tryCatch body fun _ => pure ()).run c = .ok () (leaves (body.run c)) := by
  show EStateM.tryCatch body (fun _ => pure ()) c = _
  unfold EStateM.tryCatch EStateM.run
  cases body c with
  | ok a c' => rfl
  | error e c' => rfl

@[simp] theorem performs_run (p : Proc Client) (c : Client) : (performs p).run c = .ok () (p.run c) := rfl

@[simp] theorem field_run {α : Type} (r : Except JsonError α) (c : Client) :
    (field r).run c =
      match r with
      | .ok a => .ok a c
      | .error e => .error (.json e) c := by
  cases r <;> rfl

@[simp] theorem parsed_run (payload : Bytes) (c : Client) :
    (parsed deps payload).run c =
      match deps.parse payload with
      | some j => .ok j c
      | none => .error .parseError c := by
  unfold parsed
  cases deps.parse payload <;> rfl

theorem startTunnel_run (virtualIp : Bytes) (tunCfg : Client.TunConfig) (c : Client) :
    (startTunnel env true tunCfg).run { c with virtualIp := virtualIp } =
      .ok () ((Client.onAccepted env virtualIp tunCfg).run c) := by
  unfold startTunnel Client.onAccepted
  cases env.tunOpens with
  | false => simp [run_andThen]
  | true => simp [run_andThen, startThread]

theorem leaves_readResponse (payload : Bytes) (c : Client) :
    leaves ((readResponse deps env true payload).run c) = (Client.onAuthResponse deps env payload).run c := by
  unfold readResponse Client.onAuthResponse Client.readAuthResponse
  rw [EStateM.run_bind, run_act, parsed_run]
  cases hparse : deps.parse payload with
  | none => rfl
  | some j =>
      simp only [EStateM.run_bind, field_run]
      cases hok : j.value Json.getBool (ascii "ok") false with
      | error e => simp [leaves]
      | ok ok =>
          cases ok with
          | false => simp [leaves]
          | true =>
              simp only [if_true, EStateM.run_bind, field_run]
              cases hip : j.value Json.getString (ascii "tun_ip") (ascii "10.8.0.2") with
              | error e => simp [leaves]
              | ok virtualIp =>
                  simp only [performs_run, EStateM.run_get, run_atom]
                  cases hpeer : j.value Json.getString (ascii "tun_server_ip") (ascii "10.8.0.1") with
                  | error e => simp [leaves, bind, Except.bind]
                  | ok serverTunIp =>
                      cases hmask : j.value Json.getString (ascii "tun_mask") (ascii "255.255.255.0") with
                      | error e => simp [leaves, bind, Except.bind]
                      | ok tunMask =>
                          cases hmtu : j.value Json.getUInt32 (ascii "mtu") c.config.mtu with
                          | error e => simp [leaves, bind, Except.bind, hmtu]
                          | ok tunMtu =>
                              simp [leaves, bind, Except.bind, hmtu, pure, Except.pure, startTunnel_run]

/-- **The client with its exceptions does what the client does**, and returns. -/
theorem onPacketThrowing_eq (deps : Deps) (env : Env) (hdr : PacketHeader) (payload : Bytes) (c : Client) :
    (onPacketThrowing deps env true hdr payload).run c = .ok () ((Client.onPacket deps env hdr payload).run c) := by
  unfold onPacketThrowing Client.onPacket
  cases MsgType.ofByte hdr.type with
  | none => rfl
  | some ty =>
      cases ty with
      | authResponse =>
          simp only
          rw [tryCatch_run, leaves_readResponse]
      | ipPacket =>
          simp only [EStateM.run_bind, EStateM.run_get, run_branch]
          split <;> rfl
      | keepalive =>
          simp only [EStateM.run_bind, EStateM.run_get, run_branch, buildKeepalive_eq]
          split <;> rfl
      | authRequest | tunConfig | disconnect | ping | pong => rfl

/-- It returns as well when the thread cannot be started. -/
theorem onPacketThrowing_returns (deps : Deps) (env : Env) (threadStarts : Bool) (hdr : PacketHeader)
    (payload : Bytes) (c : Client) : ∃ c', (onPacketThrowing deps env threadStarts hdr payload).run c = .ok () c' := by
  by_cases hty : MsgType.ofByte hdr.type = some .authResponse
  · unfold onPacketThrowing
    rw [hty]
    exact ⟨_, tryCatch_run _ c⟩
  · -- no other case starts one
    have hsame : onPacketThrowing deps env threadStarts hdr payload = onPacketThrowing deps env true hdr payload := by
      unfold onPacketThrowing
      split
      · exact absurd ‹_› hty
      · rfl
      · rfl
      · rfl
    exact ⟨_, hsame ▸ onPacketThrowing_eq deps env hdr payload c⟩

/-! ## The server -/

/-- The text of the refusal. -/
def refusalText : Bytes := ascii "\x7b\"error\":\"authentication failed\",\"ok\":false\x7d"

/-- The success response of the session serializes and fits. -/
def AcceptanceFits (deps : Deps) (s : ClientSession) : Prop :=
  ∃ respStr, deps.dump (acceptance s) = some respStr ∧ respStr.length ≤ maxPayload

/-- **What `dispatch_packet` hands over can be framed again.** -/
theorem length_dispatched (h : dispatchPacket message (some Prod.mk) = some (hdr, payload)) :
    payload.length ≤ maxPayload := by
  obtain ⟨hhdr, -, rfl⟩ := dispatchPacket_iff.mp h
  have hbound := (deserializeHeader_iff.mp hhdr).1
  rw [List.length_take]
  omega

variable {s : ClientSession} {now : UInt64}

/-- **Both responses can be built.** -/
theorem authResponse_built (ok : Bool) (hfits : AcceptanceFits deps s)
    (hrefusal : deps.dump refusal = some refusalText) :
    ∃ pkt, authResponse deps { s with authenticated := ok } ok = .ok pkt := by
  cases ok with
  | true =>
      obtain ⟨respStr, hdump, hlen⟩ := hfits
      have hdump' : deps.dump (acceptance { s with authenticated := true }) = some respStr := hdump
      rw [Server.authResponse_accepted hdump']
      exact ⟨_, buildPacket_ok _ hlen⟩
  | false =>
      simp only [authResponse, Bool.false_eq_true, if_false, hrefusal]
      exact ⟨_, buildPacket_ok _ (by decide)⟩

/-- **`handle_packet` does not throw** on what `dispatch_packet` hands over. -/
theorem handlePacket_not_threw (hfits : AcceptanceFits deps s) (hrefusal : deps.dump refusal = some refusalText)
    (hlen : payload.length ≤ maxPayload) : (handlePacket deps now s hdr payload).exit ≠ .threw := by
  unfold handlePacket
  cases MsgType.ofByte hdr.type with
  | none => simp
  | some ty =>
      cases ty with
      | authRequest =>
          cases hok : authOk deps now s.authSecret payload with
          | none => simp [Server.handleAuthRequest_diverged hok]
          | some ok =>
              obtain ⟨pkt, hpkt⟩ := authResponse_built ok hfits hrefusal
              simp [Server.handleAuthRequest_answered hok hpkt]
      | ipPacket =>
          cases s.authenticated with
          | false => simp
          | true => simp
      | keepalive => simp [sendBuilt, buildKeepalive_eq]
      | ping => simp [sendBuilt, buildPacket_ok _ hlen]
      | authResponse | tunConfig | disconnect | pong => simp

/-- An `AuthRequest` that cannot be parsed or read is refused. -/
theorem handlePacket_malformed (hty : MsgType.ofByte hdr.type = some .authRequest)
    (hmalformed : AuthRequest.decode deps payload = none) (hrefusal : deps.dump refusal = some refusalText) :
    handlePacket deps now s hdr payload =
      ⟨{ s with authenticated := false }, [.send (frame MsgType.authResponse.toByte refusalText), .close],
        .returned⟩ := by
  have hok : authOk deps now s.authSecret payload = some false := by
    simp [authOk, Server.authOkWithin, hmalformed]
  have hpkt : authResponse deps { s with authenticated := false } false =
      .ok (frame MsgType.authResponse.toByte refusalText) := by
    simp only [authResponse, Bool.false_eq_true, if_false, hrefusal]
    exact buildPacket_ok _ (by decide)
  rw [Server.handlePacket_authRequest hty, Server.handleAuthRequest_answered hok hpkt]
  rfl

/-- An `AuthResponse` that cannot be parsed or read sets `virtual_ip_` at most. -/
theorem onPacket_malformed (env : Env) (hty : MsgType.ofByte hdr.type = some .authResponse)
    (hmalformed : Client.readAuthResponse deps c.config.mtu payload = .malformed ∨
      ∃ virtualIp, Client.readAuthResponse deps c.config.mtu payload = .partlyRead virtualIp) :
    ∃ virtualIp, (Client.onPacket deps env hdr payload).run c = { c with virtualIp := virtualIp } := by
  rw [Client.onPacket_authResponse hty, Client.onAuthResponse_run]
  rcases hmalformed with h | ⟨virtualIp, h⟩
  · rw [h]
    exact ⟨c.virtualIp, rfl⟩
  · rw [h]
    exact ⟨virtualIp, rfl⟩

/-! ## A received message -/

/-- What a received message can do, as far as exceptions go. -/
structure Contained (deps : Deps) (message : Bytes) : Prop where
  /-- The session returns, or its token loop does not end. -/
  session : ∀ now s, AcceptanceFits deps s → ∀ o, dispatchPacket message (some (handlePacket deps now s)) = some o →
    o.exit ≠ .threw
  /-- The client returns, whether or not the thread can be started. -/
  client : ∀ env threadStarts receive,
    dispatchPacket message (some (onPacketThrowing deps env threadStarts)) = some receive →
      ∀ c, ∃ c', receive.run c = .ok () c'
  /-- When it can, the client ends as `Client.onPacket` has it. -/
  handler : ∀ env receive p, dispatchPacket message (some (onPacketThrowing deps env true)) = some receive →
    dispatchPacket message (some (Client.onPacket deps env)) = some p → ∀ c, receive.run c = .ok () (p.run c)
  /-- Every packet that is built for it can be built. -/
  built : ∀ hdr payload, dispatchPacket message (some Prod.mk) = some (hdr, payload) →
    buildPacket MsgType.pong.toByte payload = .ok (frame MsgType.pong.toByte payload) ∧
      buildKeepalive = .ok (frame MsgType.keepalive.toByte [])
  /-- A login with a JSON error is refused by the session. -/
  refused : ∀ hdr payload, dispatchPacket message (some Prod.mk) = some (hdr, payload) →
    MsgType.ofByte hdr.type = some .authRequest → AuthRequest.decode deps payload = none → ∀ now s,
      handlePacket deps now s hdr payload =
        ⟨{ s with authenticated := false }, [.send (frame MsgType.authResponse.toByte refusalText), .close], .returned⟩
  /-- A response with a JSON error is ignored by the client. -/
  ignored : ∀ hdr payload, dispatchPacket message (some Prod.mk) = some (hdr, payload) →
    MsgType.ofByte hdr.type = some .authResponse → ∀ (env : Env) (c : Client),
      (Client.readAuthResponse deps c.config.mtu payload = .malformed ∨
        ∃ virtualIp, Client.readAuthResponse deps c.config.mtu payload = .partlyRead virtualIp) →
      ∃ virtualIp, (onPacketThrowing deps env true hdr payload).run c = .ok () { c with virtualIp := virtualIp }

/-- **No message throws out of a receive handler**, for every byte string, every session whose success
    response fits and every client. -/
theorem receive_contained (message : Bytes) (hrefusal : deps.dump refusal = some refusalText) :
    Contained deps message where
  session now s hfits o ho := by
    rw [dispatchPacket_map] at ho
    obtain ⟨⟨hdr, payload⟩, hdispatch, rfl⟩ := Option.map_eq_some_iff.mp ho
    exact handlePacket_not_threw hfits hrefusal (length_dispatched hdispatch)
  client env threadStarts receive hreceive c := by
    rw [dispatchPacket_map] at hreceive
    obtain ⟨⟨hdr, payload⟩, -, rfl⟩ := Option.map_eq_some_iff.mp hreceive
    exact onPacketThrowing_returns deps env threadStarts hdr payload c
  handler env receive p hreceive hp c := by
    rw [dispatchPacket_map] at hreceive hp
    obtain ⟨⟨hdr, payload⟩, hdispatch, rfl⟩ := Option.map_eq_some_iff.mp hreceive
    rw [hdispatch] at hp
    obtain rfl := Option.some.inj hp
    exact onPacketThrowing_eq deps env hdr payload c
  built hdr payload hdispatch := ⟨buildPacket_ok _ (length_dispatched hdispatch), buildKeepalive_eq⟩
  refused hdr payload _ hty hmalformed now s := handlePacket_malformed hty hmalformed hrefusal
  ignored hdr payload _ hty env c hmalformed := by
    obtain ⟨virtualIp, hrun⟩ := onPacket_malformed env hty hmalformed
    exact ⟨virtualIp, by rw [onPacketThrowing_eq, hrun]⟩

/-- A `Ping`, with the sample session, whose success response fits. -/
theorem receive_contained_ping :
    AcceptanceFits (Deps.table []) Server.sampleSession ∧
      Contained (Deps.table []) (frame MsgType.ping.toByte (ascii "1")) := by
  have hfits : AcceptanceFits (Deps.table []) Server.sampleSession := by
    refine ⟨_, rfl, ?_⟩
    decide +kernel
  exact ⟨hfits, receive_contained _ (by decide +kernel)⟩

end Tunnel
end Kirdi
