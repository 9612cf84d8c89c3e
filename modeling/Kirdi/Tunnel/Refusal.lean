import Kirdi.Transport.Closing
import Kirdi.Tunnel.Fidelity

/-!
# `Tunnel.Refusal` — a refused login is not answered

`handle_packet` sends the refusal and closes in one handler. The `do_write` that `send` has posted runs after
that handler, finds the flag cleared and leaves the frame in the queue. The client reads what was under way
before, then the close frame; it takes that for an error of the connection, and reconnects
(`refusal_never_answered`).
-/

set_option linter.dupNamespace false

namespace Kirdi
namespace Tunnel

open Protocol Crypto EventMachine Proc
open Transport (Kind Op)
open Client (Client Env)
open Server (ClientSession Call Outcome handlePacket handleAuthRequest authOk authOkWithin authResponse)

/-- The next message for the session is an `AuthRequest` that it refuses. -/
def Refuses (deps : Deps) (now : UInt64) (t : Tunnel) : Prop :=
  ∃ message hdr payload, t.up.net.head? = some message ∧
    dispatchPacket message (some Prod.mk) = some (hdr, payload) ∧
    MsgType.ofByte hdr.type = some .authRequest ∧ authOk deps now t.session.authSecret payload = some false

/-- What the sender has handed over is what the reader has read and what is under way. -/
def Lane.Carried (l : Lane) : Prop := l.ws.handed = l.arrived ++ l.net

/-- No message under way is an `AuthResponse`. -/
def Lane.Unanswered (l : Lane) : Prop :=
  ∀ message ∈ l.net, ∀ hdr payload, dispatchPacket message (some Prod.mk) = some (hdr, payload) →
    MsgType.ofByte hdr.type ≠ some .authResponse

variable {deps : Deps} {k : Kind} {t t' : Tunnel} {l l' : Lane} {env : Env} {e : Event} {now : UInt64}

/-! ## Messages on a lane -/

theorem Lane.Carried.drive (h : l.Carried) {ev : Transport.Event} (hdrive : l.drive k ev = some l') :
    l'.Carried := by
  obtain ⟨ws, hws, rfl⟩ := Option.map_eq_some_iff.mp hdrive
  have hgrows : l.ws.handed <+: ws.handed := by
    rcases Transport.step_frames hws with ⟨-, hh⟩ | ⟨data, -, hh⟩ | ⟨-, -, rfl⟩
    · rw [hh]
    · rw [hh]
    · exact List.prefix_append _ _
  show ws.handed = l.arrived ++ (l.net ++ ws.handed.drop l.ws.handed.length)
  rw [← List.append_assoc, ← show l.ws.handed = l.arrived ++ l.net from h]
  exact (List.prefix_iff_eq_append.mp hgrows).symm

theorem Lane.Carried.take (h : l.Carried) (packets : List Bytes) : (l.take packets).Carried := by
  show l.ws.handed = (l.arrived ++ l.net.take 1) ++ l.net.tail
  rw [show l.ws.handed = l.arrived ++ l.net from h, List.append_assoc]
  cases l.net <;> rfl

theorem Lane.Carried.give (h : l.Carried) (packet data : Bytes) : (l.give k packet data).Carried := by
  unfold Lane.give Transport.Transport.send
  split
  · exact h
  · exact h

/-! ## What a step does to the downward lane -/

/-- **A step of the tunnel moves the downward lane** by a step of the session's transport, a packet from
    `route_to_client`, or a read of the client. -/
inductive DownStep (k : Kind) (l : Lane) : Lane → Prop where
  | stay : DownStep k l l
  | drive (ev : Transport.Event) (l' : Lane) (h : l.drive k ev = some l') : DownStep k l l'
  | give (packet data : Bytes) : DownStep k l (l.give k packet data)
  | take (packets : List Bytes) : DownStep k l (l.take packets)

/-- What it does to the client: nothing, a callback for the oldest message, or `fail`. -/
inductive ClientStep (deps : Deps) (t : Tunnel) : Client → Prop where
  | stay : ClientStep deps t t.client
  | read (env : Env) (message : Bytes) (h : message ∈ t.down.net) :
      ClientStep deps t (t.dispatched deps env message)
  | failed : ClientStep deps t t.failed

theorem step_parts (hstep : step deps k t e = some t') :
    DownStep k t.down t'.down ∧ ClientStep deps t t'.client := by
  cases step_moves hstep with
  | packetSent _ _ | packetDropped _ | clientSend _ _ _ | client _ _ => exact ⟨.stay, .stay⟩
  | clientReadError _ | clientWriteError _ => exact ⟨.stay, .failed⟩
  | clientRead hnet _ => exact ⟨.take _, .read _ _ (by rw [hnet]; exact List.mem_cons_self)⟩
  | routed _ _ => exact ⟨.give _ _, .stay⟩
  | server _ hdrive => exact ⟨.drive _ _ hdrive, .stay⟩
  | serverRead _ _ hdrive => exact ⟨.drive _ _ hdrive, .stay⟩

theorem DownStep.carried (h : DownStep k l l') (hl : l.Carried) : l'.Carried := by
  cases h with
  | stay => exact hl
  | drive ev l' hdrive => exact hl.drive hdrive
  | give packet data => exact hl.give packet data
  | take packets => exact hl.take packets

/-- On a sealed lane nothing sets out any more. -/
theorem DownStep.sealed (h : DownStep k l l') (hs : l.ws.sealed k) :
    l'.ws.sealed k ∧ l'.ws.handed = l.ws.handed ∧ ∀ message ∈ l'.net, message ∈ l.net := by
  cases h with
  | stay => exact ⟨hs, rfl, fun _ hm => hm⟩
  | drive ev l' hdrive =>
      obtain ⟨ws, hws, rfl⟩ := Option.map_eq_some_iff.mp hdrive
      obtain ⟨hs', hhanded⟩ := Transport.sealed_step hs hws
      refine ⟨hs', hhanded, ?_⟩
      intro message hm
      change message ∈ l.net ++ ws.handed.drop l.ws.handed.length at hm
      rw [hhanded, List.drop_length, List.append_nil] at hm
      exact hm
  | give packet data =>
      have hgive : (l.give k packet data).ws = l.ws.send k data := rfl
      obtain ⟨hs', hhanded⟩ := Transport.sealed_step (e := .send data) hs rfl
      exact ⟨hs', hhanded, fun _ hm => hm⟩
  | take packets => exact ⟨hs, rfl, fun _ hm => List.mem_of_mem_tail hm⟩

/-! ## The client -/

/-- Only an `AuthResponse` stops the client. -/
theorem running_dispatched {message : Bytes} (hr : t.client.running = true)
    (hquiet : ∀ hdr payload, dispatchPacket message (some Prod.mk) = some (hdr, payload) →
      MsgType.ofByte hdr.type ≠ some .authResponse) : (t.dispatched deps env message).running = true := by
  unfold Tunnel.dispatched
  rw [dispatchPacket_map]
  cases hdispatch : dispatchPacket message (some Prod.mk) with
  | none => exact hr
  | some p =>
      obtain ⟨hdr, payload⟩ := p
      have hkeeps : Keeps Client.Client.running (Client.onPacket deps env hdr payload) :=
        Client.keeps_onPacket (hquiet hdr payload hdispatch) (fun _ _ => rfl) fun _ _ => rfl
      exact (hkeeps.run_eq _).trans hr

theorem running_failed (hr : t.client.running = true) : t.failed.running = true := by
  unfold Tunnel.failed
  split
  · exact hr
  · cases hc : t.client.connected with
    | false =>
        rw [Client.onError_run_of_not_connected hc]
        exact hr
    | true =>
        rw [Client.onError_run hc]
        split <;> exact hr

/-- A client that is sent no `AuthResponse` keeps running. -/
theorem ClientStep.running {c : Client} (h : ClientStep deps t c) (hr : t.client.running = true)
    (hquiet : t.down.Unanswered) : c.running = true := by
  cases h with
  | stay => exact hr
  | read env message hm => exact running_dispatched hr (hquiet message hm)
  | failed => exact running_failed hr

/-! ## After a refusal -/

/-- The handler that refuses sends the response and closes. -/
theorem serverRead_of_refuses (h : Refuses deps now t) (hread : step deps k t (.serverRead now) = some t') :
    ∃ pkt, authResponse deps { t.session with authenticated := false } false = .ok pkt ∧
      t.down.drive k (.read [.send pkt, .close]) = some t'.down ∧ t'.client = t.client := by
  obtain ⟨message, hdr, payload, hhead, hdispatch, hty, hrefused⟩ := h
  cases step_moves hread with
  | @serverRead _ m rest down hnet hexit hdrive =>
      rw [hnet] at hhead
      obtain rfl : m = message := Option.some.inj hhead
      have houtcome : t.outcome deps now m = handleAuthRequest deps now t.session payload := by
        unfold Tunnel.outcome
        rw [dispatchPacket_map, hdispatch]
        exact Server.handlePacket_authRequest hty
      rw [houtcome] at hexit hdrive
      -- the response is built, or the exception ends the server
      unfold handleAuthRequest at hexit hdrive
      rw [hrefused] at hexit hdrive
      cases hresp : authResponse deps { t.session with authenticated := false } false with
      | error err =>
          simp only [hresp] at hexit
          exact absurd hexit (by simp)
      | ok pkt =>
          simp only [hresp] at hdrive
          exact ⟨pkt, rfl, hdrive, rfl⟩

/-- What holds from the refusal on. -/
structure Tunnel.Dismissed (k : Kind) (handed : List Bytes) (t : Tunnel) : Prop where
  silent  : t.down.ws.sealed k
  handed  : t.down.ws.handed = handed
  carried : t.down.Carried

theorem Tunnel.Dismissed.step {handed : List Bytes} (h : t.Dismissed k handed) (hstep : step deps k t e = some t') :
    t'.Dismissed k handed := by
  obtain ⟨hdown, -⟩ := step_parts hstep
  obtain ⟨hs, hh, -⟩ := hdown.sealed h.silent
  exact ⟨hs, hh.trans h.handed, hdown.carried h.carried⟩

/-- The client goes on, as long as it runs and no `AuthResponse` was under way. -/
theorem running_step {handed : List Bytes} (h : t.Dismissed k handed)
    (hr : t.client.running = true ∧ t.down.Unanswered) (hstep : Tunnel.step deps k t e = some t') :
    t'.client.running = true ∧ t'.down.Unanswered := by
  obtain ⟨hdown, hclient⟩ := step_parts hstep
  obtain ⟨-, -, hnet⟩ := hdown.sealed h.silent
  exact ⟨hclient.running hr.1 hr.2, fun message hm => hr.2 message (hnet message hm)⟩

theorem carried_run {client : Client} {session : ClientSession} {hello : Bytes} {es : List Event}
    (hrun : run (step deps k) (Tunnel.start client session hello) es = some t) : t.down.Carried :=
  run_invariant' (I := fun t => t.down.Carried) (fun _ _ _ h hstep => (step_parts hstep).1.carried h) rfl hrun

/-- **A refused login is never answered.** On a session's transport, whatever its queue holds and whatever is
    being written, nothing is handed to `async_write` any more once the handler has started that sends the
    response and closes, and when the handler is over the transport is closed. So in every run of a connection
    in which the server refuses the client's login the client only ever reads what had been handed over before;
    if no `AuthResponse` was among what was still under way, it never stops. -/
theorem refusal_never_answered (deps : Deps) (k : Kind) :
    (∀ (u u₁ u' : Transport.Transport) (pkt : Bytes) (fs : List Transport.Event),
      Transport.step k u (.read [.send pkt, .close]) = some u₁ → run (Transport.step k) u₁ fs = some u' →
        u'.handed = u.handed ∧ (u'.handler = none → u'.gate k = false)) ∧
    (∀ (client : Client) (session : ClientSession) (hello : Bytes) (es fs : List Event) (now : UInt64)
      (t t₁ t' : Tunnel),
      run (step deps k) (Tunnel.start client session hello) es = some t → Refuses deps now t →
        step deps k t (.serverRead now) = some t₁ → run (step deps k) t₁ fs = some t' →
          (∃ pkt, authResponse deps { t.session with authenticated := false } false = .ok pkt ∧
            t.down.drive k (.read [.send pkt, .close]) = some t₁.down) ∧
          t'.down.ws.handed = t.down.ws.handed ∧ t'.down.arrived ++ t'.down.net = t.down.ws.handed ∧
          (t.client.running = true → t.down.Unanswered → t'.client.running = true)) := by
  refine ⟨?_, ?_⟩
  · intro u u₁ u' pkt fs hread hrest
    obtain ⟨hsealed, hhanded⟩ := Transport.sealed_of_closing (by simp) hread hrest
    exact ⟨hhanded, Transport.closed_of_sealed hsealed⟩
  · intro client session hello es fs now t t₁ t' hrun hrefused hread hrest
    obtain ⟨pkt, hresp, hdrive, hclient⟩ := serverRead_of_refuses hrefused hread
    obtain ⟨ws, hws, hdown⟩ := Option.map_eq_some_iff.mp hdrive
    obtain ⟨hsealed, hhanded⟩ := Transport.sealed_of_read (by simp) hws
    have hdismissed : t₁.Dismissed k t.down.ws.handed := by
      refine ⟨?_, ?_, (carried_run hrun).drive hdrive⟩
      · rw [← hdown]
        exact hsealed
      · rw [← hdown]
        exact hhanded
    have hend : t'.Dismissed k t.down.ws.handed :=
      run_invariant' (I := Tunnel.Dismissed k t.down.ws.handed) (fun _ _ _ h hstep => h.step hstep) hdismissed hrest
    refine ⟨⟨pkt, hresp, hdrive⟩, hend.handed, hend.carried.symm.trans hend.handed, ?_⟩
    -- without an answer under way, the client has no reason to stop
    intro hr hquiet
    have hnet : t₁.down.net = t.down.net := by
      rw [← hdown]
      show t.down.net ++ ws.handed.drop t.down.ws.handed.length = t.down.net
      rw [hhanded, List.drop_length, List.append_nil]
    have hstart : t₁.client.running = true ∧ t₁.down.Unanswered := by
      refine ⟨by rw [hclient]; exact hr, ?_⟩
      unfold Lane.Unanswered
      rw [hnet]
      exact hquiet
    have hinv := run_invariant' (I := fun u => u.Dismissed k t.down.ws.handed ∧ u.client.running = true ∧ u.down.Unanswered)
      (fun _ _ _ h hstep => ⟨h.1.step hstep, running_step h.1 h.2 hstep⟩) ⟨hdismissed, hstart⟩ hrest
    exact hinv.2.1

/-! ## A refused login

The client has the secret `secret`, the server `another`. -/

/-- In place of HMAC-SHA256, a function that depends on the key. -/
def keyedHmac (key data : Bytes) : Vector UInt8 32 := Vector.ofFn fun i => (key ++ data).getD i 0

def strangerJson : Json :=
  .object [(ascii "user", .string (ascii "kirdi")),
    (ascii "token",
      .string (buildAuthToken ⟨keyedHmac, fun _ => none, dumpFlat⟩ (ascii "kirdi") (ascii "secret") 1000)),
    (ascii "timestamp", .numberInteger 1000)]

def strangerText : Bytes := (dumpFlat strangerJson).getD []

def keyedDeps : Deps := ⟨keyedHmac, fun text => [(strangerText, strangerJson)].lookup text, dumpFlat⟩

/-- The `AuthRequest` of the sample client. -/
def strangerHello : Bytes := frame MsgType.authRequest.toByte strangerText

def strictSession : ClientSession := { Server.sampleSession with authSecret := ascii "another" }

def refusalFrame : Bytes := frame MsgType.authResponse.toByte ((dumpFlat Server.refusal).getD [])

/-- A token starts with the key. -/
theorem head_buildAuthToken (user rest : Bytes) (b : UInt8) (t : UInt64) :
    (buildAuthToken keyedDeps user (b :: rest) t).head? = some (hexDigit (b.toNat / 16)) := by
  unfold buildAuthToken hexEncode
  show (List.flatMap _ (Vector.ofFn _).toList).head? = _
  rw [Vector.toList_ofFn, List.ofFn_succ, List.flatMap_cons]
  rfl

theorem stranger_refused : authOk keyedDeps 1000 strictSession.authSecret strangerText = some false := by
  let token := buildAuthToken keyedDeps (ascii "kirdi") (ascii "secret") 1000
  have hdecode : Server.AuthRequest.decode keyedDeps strangerText = some ⟨ascii "kirdi", token, 1000⟩ := by
    decide +kernel
  have hsecret : strictSession.authSecret = 97 :: [110, 111, 116, 104, 101, 114] := by decide +kernel
  -- whatever the time, a token of the server starts with another digit
  have hunbuilt : ∀ t, token ≠ buildAuthToken keyedDeps (ascii "kirdi") strictSession.authSecret t := by
    intro t h
    have hhead := congrArg List.head? h
    rw [hsecret, head_buildAuthToken] at hhead
    exact absurd hhead (by decide +kernel)
  have hends : Server.LoginLoopsEnd keyedDeps strictSession.authSecret 1000 strangerText := by
    intro r hr _ _
    obtain rfl := Option.some.inj (hdecode.symm.trans hr)
    exact ⟨Or.inl (by decide), fun _ => Or.inl (by decide)⟩
  obtain ⟨b, hb⟩ := Server.authOkWithin_ends_iff.mpr hends
  have hok : authOk keyedDeps 1000 strictSession.authSecret strangerText = some b := Server.authOk_of_within hb
  cases b with
  | false => exact hok
  | true =>
      obtain ⟨r, hr, hverified⟩ := (Server.authOk_true_iff (by rw [hsecret]; simp)).mp hok
      obtain rfl := Option.some.inj (hdecode.symm.trans hr)
      rcases hverified with hverified | ⟨-, hverified⟩
      · obtain ⟨t, ht⟩ := built_of_verified hverified
        exact absurd ht (hunbuilt t)
      · obtain ⟨t, ht⟩ := built_of_verified hverified
        exact absurd ht (hunbuilt t)

/-- The client sends its `AuthRequest`. -/
def helloRun : List Event :=
  [.client .advance, .client .advance, .client .advance, .client .doWrite, .client .lock, .client .startWrite,
    .client (.writeDone true), .client .lock, .server .advance]

/-- The session sends the refusal and closes; the posted `do_write` runs; the client's read fails. -/
def farewellRun : List Event :=
  [.server .advance, .server .advance, .server .advance, .server .advance, .server .advance, .server .doWrite,
    .clientReadError]

/-- The states before and after the refusal, and at the end. -/
theorem refused_run : ∃ t t₁ t',
    run (step keyedDeps .wsPlainServerSession) (Tunnel.start onlineClient strictSession strangerHello) helloRun =
      some t ∧
    Refuses keyedDeps 1000 t ∧ step keyedDeps .wsPlainServerSession t (.serverRead 1000) = some t₁ ∧
    run (step keyedDeps .wsPlainServerSession) t₁ farewellRun = some t' ∧
    (t.client.running = true ∧ t.down.net = []) ∧
    (t'.down.ws.pushed = [refusalFrame] ∧ t'.down.ws.handed = [] ∧ t'.down.ws.connected = false ∧
      t'.down.ws.handler = none) ∧
    (t'.down.arrived = [] ∧ t'.down.net = [] ∧ t'.client.running = true ∧ t'.client.timers = [1]) := by
  have hrun : (run (step keyedDeps .wsPlainServerSession)
      (Tunnel.start onlineClient strictSession strangerHello) helloRun).any (fun t =>
        t.up.net = [strangerHello] && t.session = strictSession && t.client.running && t.down.net = [] &&
        (t.handled .wsPlainServerSession
            ⟨{ strictSession with authenticated := false }, [.send refusalFrame, .close], .returned⟩).any fun t₁ =>
          (run (step keyedDeps .wsPlainServerSession) t₁ farewellRun).any fun t' =>
            t'.down.ws.pushed = [refusalFrame] && t'.down.ws.handed = [] && !t'.down.ws.connected &&
              t'.down.ws.handler = none && t'.down.arrived = [] && t'.down.net = [] && t'.client.running &&
              t'.client.timers = [1]) = true := by decide +kernel
  obtain ⟨t, ht, hbody⟩ := Option.any_eq_true _ _ |>.mp hrun
  simp only [Bool.and_eq_true, decide_eq_true_eq] at hbody
  obtain ⟨⟨⟨⟨hnet, hsession⟩, hrunning⟩, hdown⟩, hhandled⟩ := hbody
  obtain ⟨t₁, ht₁, hend⟩ := Option.any_eq_true _ _ |>.mp hhandled
  obtain ⟨t', ht', hfacts⟩ := Option.any_eq_true _ _ |>.mp hend
  simp only [Bool.and_eq_true, decide_eq_true_eq, Bool.not_eq_true'] at hfacts
  obtain ⟨⟨⟨⟨⟨⟨⟨hpushed, hhanded⟩, hclosed⟩, hdone⟩, harrived⟩, hempty⟩, hstill⟩, htimers⟩ := hfacts
  have hdispatch : dispatchPacket strangerHello (some Prod.mk) =
      some (⟨MsgType.authRequest.toByte, UInt32.ofNat strangerText.length⟩, strangerText) := by
    have hlen : strangerText.length ≤ maxPayload := by decide +kernel
    have hframe := dispatchPacket_frame MsgType.authRequest.toByte [] Prod.mk hlen
    rwa [List.append_nil] at hframe
  have hrefuses : Refuses keyedDeps 1000 t := by
    refine ⟨strangerHello, _, strangerText, by rw [hnet]; rfl, hdispatch, rfl, ?_⟩
    rw [hsession]
    exact stranger_refused
  have houtcome : t.outcome keyedDeps 1000 strangerHello =
      ⟨{ strictSession with authenticated := false }, [.send refusalFrame, .close], .returned⟩ := by
    have hresp : authResponse keyedDeps { strictSession with authenticated := false } false = .ok refusalFrame :=
      buildPacket_ok _ (by decide +kernel)
    unfold Tunnel.outcome
    -- rewritten, not unfolded: nothing here has to run the token computations again
    rw [dispatchPacket_map, hdispatch, hsession, Option.map_some, Option.getD_some,
      Server.handlePacket_authRequest rfl, Server.handleAuthRequest_answered stranger_refused hresp]
    rfl
  have hstep : step keyedDeps .wsPlainServerSession t (.serverRead 1000) = some t₁ := by
    rw [serverRead_eq 1000 hnet, houtcome, if_pos rfl]
    exact ht₁
  exact ⟨t, t₁, t', ht, hrefuses, hstep, ht', ⟨hrunning, hdown⟩, ⟨hpushed, hhanded, hclosed, hdone⟩,
    harrived, hempty, hstill, htimers⟩

theorem refusal_never_answered_stranger : ∃ t t₁ t',
    run (step keyedDeps .wsPlainServerSession) (Tunnel.start onlineClient strictSession strangerHello) helloRun =
      some t ∧
    step keyedDeps .wsPlainServerSession t (.serverRead 1000) = some t₁ ∧
    run (step keyedDeps .wsPlainServerSession) t₁ farewellRun = some t' ∧
    t'.down.ws.handed = t.down.ws.handed ∧ t'.client.running = true := by
  obtain ⟨t, t₁, t', hrun, hrefuses, hstep, hrest, ⟨hrunning, hnet⟩, -, -⟩ := refused_run
  obtain ⟨-, hhanded, -, hgoes⟩ := (refusal_never_answered keyedDeps .wsPlainServerSession).2 _ _ _ _ _ _ t t₁ t'
    hrun hrefuses hstep hrest
  have hquiet : t.down.Unanswered := by
    unfold Lane.Unanswered
    rw [hnet]
    exact fun message hm => absurd hm List.not_mem_nil
  exact ⟨t, t₁, t', hrun, hstep, hrest, hhanded, hgoes hrunning hquiet⟩

/-- **A client that never learns.** The refusal is queued and stays there, the session is closed; the client
    has read nothing, runs on, and has armed its reconnect timer. -/
theorem refusal_unseen : ∃ t t₁ t',
    run (step keyedDeps .wsPlainServerSession) (Tunnel.start onlineClient strictSession strangerHello) helloRun =
      some t ∧
    Refuses keyedDeps 1000 t ∧ step keyedDeps .wsPlainServerSession t (.serverRead 1000) = some t₁ ∧
    run (step keyedDeps .wsPlainServerSession) t₁ farewellRun = some t' ∧
    (t'.down.ws.pushed = [refusalFrame] ∧ t'.down.ws.handed = [] ∧ t'.down.ws.connected = false) ∧
    (t'.down.arrived = [] ∧ t'.client.running = true ∧ t'.client.timers = [1]) := by
  obtain ⟨t, t₁, t', hrun, hrefuses, hstep, hrest, -, ⟨hpushed, hhanded, hclosed, -⟩, harrived, -, hrunning,
    htimers⟩ := refused_run
  exact ⟨t, t₁, t', hrun, hrefuses, hstep, hrest, ⟨hpushed, hhanded, hclosed⟩, harrived, hrunning, htimers⟩

end Tunnel
end Kirdi
