import Kirdi.Tunnel.Fidelity

/-!
# `Tunnel.Order` — nothing is invented, repeated or overtaken

Before the login, after a refused one and while a TUN device is closed, packets that arrive are dropped. What
comes out of a tunnel is then no prefix of what went in, but it is still a subsequence of it, in every run of a
connection and in both directions (`tunnel_order`): the handlers let out the packet of the message that they are
given, or nothing.
-/

set_option linter.dupNamespace false

namespace Kirdi
namespace Tunnel

open Protocol Crypto EventMachine Proc
open Transport (Kind Op)
open Client (Client Env)
open Server (ClientSession handlePacket)

structure Tunnel.Ordered (k : Kind) (t : Tunnel) : Prop where
  up        : t.up.Inv .wsClientTransport
  down      : t.down.Inv k
  upTaken   : t.up.taken.Sublist (t.up.arrived.filterMap ipPayload)
  downTaken : t.down.taken.Sublist (t.down.arrived.filterMap ipPayload)

variable {deps : Deps} {k : Kind} {t t' : Tunnel} {e : Event} {message : Bytes}

/-! ## The two callbacks -/

/-- **The callback of the session**, in any state of it: it lets out the packet of the message or nothing, and
    sends none. -/
theorem outcome_packets (deps : Deps) (now : UInt64) (t : Tunnel) (message : Bytes) :
    ((t.outcome deps now message).calls.filterMap callPacket).Sublist (ipPayload message).toList ∧
      ∀ data ∈ ((t.outcome deps now message).calls.filterMap callOp).filterMap sentFrame, ipPayload data = none := by
  by_cases hready : t.session.onIpPacketSet = true ∧ t.session.authenticated = true
  · obtain ⟨hpackets, hquiet, -⟩ := outcome_spec (t := t) deps now hready.1 fun _ : (ipPayload message).isSome = true => hready.2
    exact ⟨hpackets ▸ List.Sublist.refl _, hquiet⟩
  · unfold Tunnel.outcome
    rw [dispatchPacket_map]
    cases hdispatch : dispatchPacket message (some Prod.mk) with
    | none => exact ⟨List.nil_sublist _, fun _ h => absurd h List.not_mem_nil⟩
    | some p =>
        obtain ⟨hdr, payload⟩ := p
        refine ⟨?_, fun data hdata => handlePacket_quiet (mem_sentFrame hdata)⟩
        have hnone : ((handlePacket deps now t.session hdr payload).calls.filterMap callPacket) = [] := by
          rw [List.filterMap_eq_nil_iff]
          intro call hcall
          cases call with
          | send | close => rfl
          | onIpPacket id packet =>
              -- the callback is called when it is set, by an authenticated session
              obtain ⟨hauth, hty, -⟩ := Server.authenticated_of_onIpPacket hcall
              unfold handlePacket at hcall
              simp only [hty, hauth, Bool.not_true, Bool.false_eq_true, if_false] at hcall
              split at hcall
              · rename_i hset
                exact absurd ⟨hset, hauth⟩ hready
              · exact absurd hcall List.not_mem_nil
        show ((handlePacket deps now t.session hdr payload).calls.filterMap callPacket).Sublist _
        rw [hnone]
        exact List.nil_sublist _

/-- **The callback of the client**, whether its TUN device is open or not. -/
theorem dispatched_packets (deps : Deps) (env : Env) (t : Tunnel) (message : Bytes) :
    (∃ packets, (t.dispatched deps env message).delivered = t.client.delivered ++ packets ∧
        packets.Sublist (ipPayload message).toList) ∧
      ∀ data ∈ (asked (t.dispatched deps env message) t.up.ws).filterMap sentFrame, ipPayload data = none := by
  by_cases hready : (ipPayload message).isSome = true → t.client.tunOpen = true
  · obtain ⟨hdelivered, hquiet⟩ := dispatched_spec deps env hready
    exact ⟨⟨_, hdelivered, List.Sublist.refl _⟩, hquiet⟩
  · -- an IP packet for a device that is not open
    obtain ⟨hip, hclosed⟩ := Classical.not_imp.mp hready
    have hsame : t.dispatched deps env message = attach t.client t.up.ws := by
      unfold Tunnel.dispatched
      rw [dispatchPacket_map]
      unfold ipPayload at hip
      cases hdispatch : dispatchPacket message (some Prod.mk) with
      | none => rfl
      | some p =>
          obtain ⟨hdr, payload⟩ := p
          rw [hdispatch] at hip
          simp only [Option.isSome_ite] at hip
          show (Client.onPacket deps env hdr payload).run _ = _
          unfold Client.onPacket
          rw [hip]
          show (branch Client.Client.tunOpen _ done).run _ = _
          rw [run_branch]
          exact if_neg hclosed
    rw [hsame]
    exact ⟨⟨[], (List.append_nil _).symm, List.nil_sublist _⟩, asked_quiet (quiet_attach t.client t.up.ws)⟩

/-! ## Runs -/

theorem ordered_start (client : Client) {session : ClientSession} {hello : Bytes} (hhello : ipPayload hello = none) :
    (Tunnel.start client session hello).Ordered k := by
  have h := @inv_start k client { session with onIpPacketSet := true } hello rfl hhello
  exact ⟨h.up, h.down, List.Sublist.refl _, List.Sublist.refl _⟩

/-- A read: what comes out is the packet of the message, or nothing. -/
theorem taken_sublist {l : Lane} {message : Bytes} {rest packets : List Bytes} (hnet : l.net = message :: rest)
    (hpackets : packets.Sublist (ipPayload message).toList) (h : l.taken.Sublist (l.arrived.filterMap ipPayload)) :
    (l.take packets).taken.Sublist ((l.take packets).arrived.filterMap ipPayload) := by
  show (l.taken ++ packets).Sublist ((l.arrived ++ l.net.take 1).filterMap ipPayload)
  rw [hnet, List.filterMap_append]
  refine h.append (hpackets.trans ?_)
  cases hp : ipPayload message with
  | none => exact List.nil_sublist _
  | some packet => simp [hp]

/-- **Every step keeps the order.** -/
theorem Tunnel.Ordered.step (h : t.Ordered k) (hstep : step deps k t e = some t') : t'.Ordered k := by
  have hup : ∀ {ev : Transport.Event} {up : Lane} (client : Client),
      t.up.drive .wsClientTransport ev = some up → quiet ev →
        ({ t with up := up, client := client } : Tunnel).Ordered k := by
    intro ev up client hdrive hq
    obtain ⟨htaken, harrived⟩ := taken_drive hdrive
    exact ⟨h.up.drive hq hdrive, h.down, by rw [htaken, harrived]; exact h.upTaken, h.downTaken⟩
  have hdown : ∀ {ev : Transport.Event} {down : Lane}, t.down.drive k ev = some down → quiet ev →
      ({ t with down := down } : Tunnel).Ordered k := by
    intro ev down hdrive hq
    obtain ⟨htaken, harrived⟩ := taken_drive hdrive
    exact ⟨h.up, h.down.drive hq hdrive, h.upTaken, by rw [htaken, harrived]; exact h.downTaken⟩
  cases step_moves hstep with
  | packetSent hfree hbuilt =>
      exact ⟨h.up.give hfree (ipPayload_buildIpPacket hbuilt), h.down, h.upTaken, h.downTaken⟩
  | packetDropped _ => exact h
  | clientSend hty hbuilt hdrive => exact hup t.client hdrive (ipPayload_other hty hbuilt)
  | @client ev _ hev hdrive =>
      have hq : quiet ev := by
        cases ev with
        | send data | read calls => exact absurd hev (by simp [clientStep])
        | _ => trivial
      exact hup t.client hdrive hq
  | clientReadError hdrive | clientWriteError hdrive => exact hup t.failed hdrive trivial
  | @clientRead env message rest up hnet hdrive =>
      obtain ⟨⟨packets, hdelivered, hpackets⟩, hquiet⟩ := dispatched_packets deps env t message
      have hread := hup (t.dispatched deps env message) hdrive hquiet
      rw [hdelivered, List.drop_left]
      exact ⟨hread.up, h.down.take _, hread.upTaken, taken_sublist hnet hpackets h.downTaken⟩
  | routed hfree hbuilt =>
      exact ⟨h.up, h.down.give hfree (ipPayload_buildIpPacket hbuilt), h.upTaken, h.downTaken⟩
  | @server ev _ hev hdrive =>
      have hq : quiet ev := by
        cases ev with
        | send data | read calls => exact absurd hev (by simp [serverStep])
        | _ => trivial
      exact hdown hdrive hq
  | @serverRead now message rest down hnet hexit hdrive =>
      obtain ⟨hpackets, hquiet⟩ := outcome_packets deps now t message
      have hread := hdown hdrive hquiet
      exact ⟨h.up.take _, hread.down, taken_sublist hnet hpackets h.upTaken, hread.downTaken⟩

theorem ordered_of_run {client : Client} {session : ClientSession} {hello : Bytes} {now : Int64} {es : List Event}
    (hhello : Client.authRequest deps client.config now = .ok hello)
    (hrun : run (step deps k) (Tunnel.start client session hello) es = some t) : t.Ordered k := by
  have hquiet : ipPayload hello = none := by
    obtain ⟨authStr, hbuilt⟩ := Client.authRequest_built hhello
    exact ipPayload_other (by decide) hbuilt
  exact run_invariant' (I := Tunnel.Ordered k) (fun _ _ _ h hstep => h.step hstep) (ordered_start client hquiet) hrun

theorem ordered_sublists (h : t.Ordered k) : t.up.taken.Sublist t.up.given ∧ t.down.taken.Sublist t.down.given :=
  ⟨h.upTaken.trans h.up.channel.ordered.sublist, h.downTaken.trans h.down.channel.ordered.sublist⟩

/-- **Nothing is invented, repeated or overtaken**: in every run of a connection, whatever happens to the login
    and to the TUN device, the packets that come out in each direction are a subsequence of those passed to `send`. -/
theorem tunnel_order {client : Client} {session : ClientSession} {hello : Bytes} {now : Int64} {es : List Event}
    (hhello : Client.authRequest deps client.config now = .ok hello)
    (hrun : run (step deps k) (Tunnel.start client session hello) es = some t) :
    t.up.taken.Sublist t.up.given ∧ t.down.taken.Sublist t.down.given :=
  ordered_sublists (ordered_of_run hhello hrun)

/-- `samplePacket` with one more byte. -/
def longerPacket : Bytes := samplePacket ++ [1]

/-- `route_to_client` finds the session authenticated while its handler is about to send the `AuthResponse`:
    the first packet overtakes the response, and the client, whose device is not open yet, drops it. -/
def packetBeforeResponse : List Event :=
  [.client .advance, .client .advance, .client .advance, .client .doWrite, .client .lock, .client .startWrite,
    .server .advance, .serverRead 1000, .routed samplePacket, .server (.sendPush 0), .server .advance, .server .advance,
    .server .advance, .server .doWrite, .server .lock, .server .startWrite, .server (.writeDone true), .server .lock,
    .server .startWrite, .clientRead Client.sampleEnv, .client .advance, .clientRead Client.sampleEnv, .client .advance,
    .routed longerPacket, .server (.sendPush 0), .server (.writeDone true), .server .lock, .server .startWrite,
    .clientRead Client.sampleEnv, .client .advance]

theorem tunnel_order_race :
    ∃ t, run (step openDeps .wsPlainServerSession) (Tunnel.start onlineClient openSession sampleHello)
        packetBeforeResponse = some t ∧
      t.down.given = [samplePacket, longerPacket] ∧ t.down.taken = [longerPacket] ∧
      (t.up.taken.Sublist t.up.given ∧ t.down.taken.Sublist t.down.given) := by
  have hrun : (run (step openDeps .wsPlainServerSession) (Tunnel.start onlineClient openSession sampleHello)
      packetBeforeResponse).any (fun t => t.down.given = [samplePacket, longerPacket] &&
        t.down.taken = [longerPacket]) = true := by decide +kernel
  have hhello : Client.authRequest openDeps onlineClient.config 1000 = .ok sampleHello := by decide +kernel
  obtain ⟨t, ht, hbody⟩ := Option.any_eq_true _ _ |>.mp hrun
  simp only [Bool.and_eq_true, decide_eq_true_eq] at hbody
  exact ⟨t, ht, hbody.1, hbody.2, tunnel_order hhello ht⟩

end Tunnel
end Kirdi
