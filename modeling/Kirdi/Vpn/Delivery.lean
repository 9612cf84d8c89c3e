import Kirdi.Tunnel.Settings
import Kirdi.Vpn.Vpn

/-!
# `Vpn.Delivery` — whose packets go where

In the network of `Vpn.Vpn` the tunnels share the server: its tables, its one TUN device and the thread that reads
it. `vpn_refines` takes them apart again. The server of the network runs as the server alone does, and each tunnel
as a tunnel alone does, so what was proved of either holds here.

What connects them (`Linked`) says where packets go, whatever foreign peers send. `vpn_delivery`: what was written
to the server's device under the id of a session ends with what came out of its own tunnel; what was passed down a
tunnel was read from the server's device, in that order, and has the address of the session where an IPv4 packet has
its destination. No packet is passed to two clients.
-/

set_option linter.dupNamespace false

namespace Kirdi
namespace Vpn

open Protocol Inet EventMachine
open Transport (Kind)
open Client (Client)
open Server (ServerConfig ClientSession Call handlePacket)
open Tunnel (Tunnel)

/-- Every client is in a state that meets `P` when it connects. -/
def Connects (P : Client → Prop) : Event → Prop
  | .connect _ _ client _ => P client
  | _ => True

instance {P : Client → Prop} [DecidablePred P] : DecidablePred (Connects P) := fun e =>
  match e with
  | .connect _ _ client _ => inferInstanceAs (Decidable (P client))
  | .peer _ | .link _ _ | .tunPacket _ => inferInstanceAs (Decidable True)

/-- What connects a tunnel with the server. -/
structure Linked (deps : Deps) (k : Kind) (P : Client → Prop) (config : ServerConfig) (v : Vpn) (sid : UInt32)
    (t : Tunnel) : Prop where
  agrees  : v.server.ended = false → v.server.sessions sid = some t.session
  own     : t.session.id = sid
  address : t.session.virtualIp = inetNtop (Server.vipOf config sid)
  origin  : ∃ client session hello now evs, P client ∧ session.onIpPacketSet = true ∧
    session.authenticated = false ∧ Client.authRequest deps client.config now = .ok hello ∧
    run (Tunnel.step deps k) (Tunnel.Tunnel.start client session hello) evs = some t
  written : t.up.taken <:+ v.writtenBy sid
  given   : ∀ packet ∈ t.down.given, ip4Dst packet = Server.vipOf config sid
  order   : t.down.given.Sublist v.fromTun

structure Vpn.Inv (deps : Deps) (k : Kind) (P : Client → Prop) (config : ServerConfig) (v : Vpn) : Prop where
  server  : ∃ fs, run (Server.step deps) (Server.Server.init config) fs = some v.server
  tunnels : ∀ sid t, v.tunnels sid = some t → Linked deps k P config v sid t

variable {deps : Deps} {k : Kind} {P : Client → Prop} {config : ServerConfig} {v v' : Vpn} {e : Event} {sid : UInt32} {t t' : Tunnel}
  {s s' : Server.Server} {now : UInt64} {session : ClientSession} {hdr : PacketHeader} {payload message : Bytes}

/-! ## The handler of a session -/

/-- A session passes packets on under its own id. -/
theorem onIpPacket_id {id : UInt32} {packet : Bytes}
    (h : Call.onIpPacket id packet ∈ (handlePacket deps now session hdr payload).calls) : id = session.id := by
  obtain ⟨hauth, hty, -⟩ := Server.authenticated_of_onIpPacket h
  unfold handlePacket at h
  simp only [hty, hauth, Bool.not_true, Bool.false_eq_true, if_false] at h
  split at h
  · exact (Call.onIpPacket.inj (List.mem_singleton.mp h)).1
  · exact absurd h List.not_mem_nil

/-- A handler that does not return has called nothing; one that never ends has changed nothing. -/
theorem handlePacket_lost (h : (handlePacket deps now session hdr payload).exit ≠ .returned) :
    (handlePacket deps now session hdr payload).calls = [] ∧
      ((handlePacket deps now session hdr payload).exit = .diverged →
        (handlePacket deps now session hdr payload).session = session) := by
  have hbuilt : ∀ r : Except String Bytes, (Server.sendBuilt session r).exit ≠ .returned →
      (Server.sendBuilt session r).calls = [] ∧
        ((Server.sendBuilt session r).exit = .diverged → (Server.sendBuilt session r).session = session) := by
    intro r hr
    cases r with
    | ok pkt => exact absurd rfl hr
    | error err => exact ⟨rfl, fun _ => rfl⟩
  unfold handlePacket at h ⊢
  split
  · rename_i hty
    simp only [hty] at h
    cases hok : Server.authOk deps now session.authSecret payload with
    | none =>
        rw [Server.handleAuthRequest_diverged hok]
        exact ⟨rfl, fun _ => rfl⟩
    | some ok =>
        have hends := (Server.handleAuthRequest_authenticated hok).2
        refine ⟨?_, fun hdiverged => absurd hdiverged hends⟩
        rcases Server.handleAuthRequest_calls deps now session payload with hnone | ⟨ok', pkt, hok', hresp, -⟩
        · exact hnone
        · rw [Server.handleAuthRequest_answered hok' hresp] at h
          exact absurd rfl h
  · rename_i hty
    simp only [hty] at h
    split at h <;> exact absurd rfl h
  · rename_i hty
    simp only [hty] at h
    exact hbuilt _ h
  · rename_i hty
    simp only [hty] at h
    exact hbuilt _ h
  · rename_i hty
    simp only [hty] at h
    exact absurd rfl h
  · rename_i h₁ h₂ h₃ h₄ h₅
    split at h
    · exact absurd ‹_› h₁
    · exact absurd ‹_› h₂
    · exact absurd ‹_› h₃
    · exact absurd ‹_› h₄
    · exact absurd ‹_› h₅
    · exact absurd rfl h

/-- The packets that a handler of session `sid` writes, as those of `sid` and of another session. -/
theorem written_calls (hid : session.id = sid) (sid' : UInt32) :
    ((handlePacket deps now session hdr payload).calls.filterMap callWrite).filterMap
        (fun w => if w.1 = sid' then some w.2 else none) =
      if sid' = sid then (handlePacket deps now session hdr payload).calls.filterMap Tunnel.callPacket else [] := by
  rw [List.filterMap_filterMap]
  split
  · rename_i heq
    refine List.filterMap_congr ?_
    intro call hcall
    cases call with
    | send | close => rfl
    | onIpPacket id packet => simp [callWrite, Tunnel.callPacket, onIpPacket_id hcall, hid, heq]
  · rename_i hne
    rw [List.filterMap_eq_nil_iff]
    intro call hcall
    cases call with
    | send | close => rfl
    | onIpPacket id packet =>
        have hother : ¬ sid = sid' := fun h => hne h.symm
        simp [callWrite, onIpPacket_id hcall, hid, hother]

/-! ## The server under a tunnel -/

theorem server_running {e : Server.Event} (h : Server.step deps s e = some s') : s.ended = false := by
  unfold Server.step at h
  exact Bool.eq_false_of_not_eq_true (Option.ite_none_left_eq_some.mp h).1

/-- A step that neither registers the session nor is a frame of it leaves it alone. -/
theorem sessions_other {e : Server.Event} (hserver : Server.step deps v.server e = some s)
    (hregisters : v.registers e ≠ some sid) (hframe : ∀ now hdr payload, e ≠ .frame sid now hdr payload) :
    s.sessions sid = v.server.sessions sid := by
  rcases Server.step_tables hserver with ⟨-, hsessions, -⟩ | ⟨i, uninit, sid₀, clientIp, rfl, hi, rfl⟩ |
    ⟨sid₀, now, hdr, payload, session, rfl, -, hsessions, -⟩
  · rw [hsessions]
  · have hne : sid ≠ sid₀ := by
      rintro rfl
      refine hregisters ?_
      unfold Vpn.registers
      simp only [hi, Option.map_some]
    exact Function.update_of_ne hne _ _
  · have hne : sid ≠ sid₀ := by
      rintro rfl
      exact hframe now hdr payload rfl
    rw [hsessions]
    exact Function.update_of_ne hne _ _

theorem writtenBy_append {ws : List (UInt32 × Bytes)} (hwritten : v'.written = v.written ++ ws) :
    v'.writtenBy sid = v.writtenBy sid ++ ws.filterMap fun w => if w.1 = sid then some w.2 else none := by
  unfold Vpn.writtenBy
  rw [hwritten, List.filterMap_append]

theorem calls_frame (hsession : v.server.sessions sid = some session) :
    v.server.calls deps (.frame sid now hdr payload) = (handlePacket deps now session hdr payload).calls := by
  unfold Server.Server.calls
  simp only [hsession]

/-- What a step of the server writes comes from the session whose frame it handles. -/
theorem calls_other {e : Server.Event} (hf : Server.Furnished config v.server)
    (hframe : ∀ now hdr payload, e ≠ .frame sid now hdr payload) :
    ((v.server.calls deps e).filterMap callWrite).filterMap (fun w => if w.1 = sid then some w.2 else none) = [] := by
  cases e with
  | frame sid₀ now hdr payload =>
      have hne : sid ≠ sid₀ := by
        rintro rfl
        exact hframe now hdr payload rfl
      cases hsession : v.server.sessions sid₀ with
      | none =>
          have hnone : v.server.calls deps (.frame sid₀ now hdr payload) = [] := by
            unfold Server.Server.calls
            simp only [hsession]
          rw [hnone]
          rfl
      | some session =>
          rw [calls_frame hsession, written_calls (hf.sessions sid₀ session hsession).1, if_neg hne]
  | _ => rfl

/-- **What does not concern a tunnel leaves it linked.** -/
theorem Linked.other (h : Linked deps k P config v sid t)
    (hsession : v'.server.ended = false → v.server.ended = false ∧ v'.server.sessions sid = v.server.sessions sid)
    (hwritten : v'.writtenBy sid = v.writtenBy sid) (hfrom : v.fromTun.Sublist v'.fromTun) :
    Linked deps k P config v' sid t where
  agrees := by
    intro hended
    obtain ⟨hbefore, hsame⟩ := hsession hended
    rw [hsame]
    exact h.agrees hbefore
  own := h.own
  address := h.address
  origin := h.origin
  written := by
    rw [hwritten]
    exact h.written
  given := h.given
  order := h.order.trans hfrom

/-! ## The steps of a tunnel -/

/-- A step of the tunnel alone: nothing comes out of the session, and nothing is routed to it. -/
theorem tunnel_proceed {e : Tunnel.Event} (hrouted : ∀ packet, e ≠ .routed packet)
    (hread : ∀ now, e = .serverRead now →
      ∃ message rest, t.up.net = message :: rest ∧ dispatchPacket message (some Prod.mk) = none)
    (hstep : Tunnel.step deps k t e = some t') :
    t'.session = t.session ∧ t'.up.taken = t.up.taken ∧ t'.down.given = t.down.given := by
  cases Tunnel.step_moves hstep with
  | packetSent | packetDropped => exact ⟨rfl, rfl, rfl⟩
  | clientSend _ _ hdrive | client _ hdrive | clientReadError hdrive | clientWriteError hdrive =>
      exact ⟨rfl, (Tunnel.taken_drive hdrive).1, rfl⟩
  | clientRead hnet hdrive => exact ⟨rfl, (Tunnel.taken_drive hdrive).1, rfl⟩
  | routed => exact absurd rfl (hrouted _)
  | server _ hdrive => exact ⟨rfl, rfl, Tunnel.given_drive hdrive⟩
  | @serverRead now message rest down hnet hexit hdrive =>
      obtain ⟨message', rest', hnet', hdispatch⟩ := hread now rfl
      obtain ⟨rfl, -⟩ := List.cons.inj (hnet.symm.trans hnet')
      have houtcome : t.outcome deps now message = ⟨t.session, [], .returned⟩ := by
        unfold Tunnel.Tunnel.outcome
        rw [dispatchPacket_map, hdispatch]
        rfl
      rw [houtcome]
      exact ⟨rfl, List.append_nil _, Tunnel.given_drive hdrive⟩

theorem Linked.extend (h : Linked deps k P config v sid t) {e : Tunnel.Event} (hstep : Tunnel.step deps k t e = some t') :
    ∃ client session hello now evs, P client ∧ session.onIpPacketSet = true ∧ session.authenticated = false ∧
      Client.authRequest deps client.config now = .ok hello ∧
      run (Tunnel.step deps k) (Tunnel.Tunnel.start client session hello) evs = some t' := by
  obtain ⟨client, session, hello, now, evs, hP, hcb, hauth, hhello, hrun⟩ := h.origin
  exact ⟨client, session, hello, now, evs ++ [e], hP, hcb, hauth, hhello, run_snoc.mpr ⟨t, hrun, hstep⟩⟩

theorem Linked.proceed (h : Linked deps k P config v sid t) {e : Tunnel.Event} (hrouted : ∀ packet, e ≠ .routed packet)
    (hread : ∀ now, e = .serverRead now →
      ∃ message rest, t.up.net = message :: rest ∧ dispatchPacket message (some Prod.mk) = none)
    (hstep : Tunnel.step deps k t e = some t') : Linked deps k P config v sid t' := by
  obtain ⟨hsession, htaken, hgiven⟩ := tunnel_proceed hrouted hread hstep
  exact ⟨hsession ▸ h.agrees, hsession ▸ h.own, hsession ▸ h.address, h.extend hstep, htaken ▸ h.written,
    hgiven ▸ h.given, hgiven ▸ h.order⟩

/-- The tunnel reads, when the handler returns; otherwise it stays. -/
theorem tunnel_read (deps : Deps) (k : Kind) (now : UInt64) {rest : List Bytes} (hready : readable t) (hnet : t.up.net = message :: rest)
    (hdispatch : dispatchPacket message (some Prod.mk) = some (hdr, payload)) :
    ((handlePacket deps now t.session hdr payload).exit ≠ .returned ∧
        (Tunnel.step deps k t (.serverRead now)).getD t = t) ∨
      ∃ t', Tunnel.step deps k t (.serverRead now) = some t' ∧
        t'.session = (handlePacket deps now t.session hdr payload).session ∧
        t'.up.taken = t.up.taken ++ (handlePacket deps now t.session hdr payload).calls.filterMap Tunnel.callPacket ∧
        t'.down.given = t.down.given := by
  have houtcome : t.outcome deps now message = handlePacket deps now t.session hdr payload := by
    unfold Tunnel.Tunnel.outcome
    rw [dispatchPacket_map, hdispatch]
    rfl
  by_cases hexit : (handlePacket deps now t.session hdr payload).exit = .returned
  · right
    have hread : ∃ ws, Transport.step k t.down.ws
        (.read ((handlePacket deps now t.session hdr payload).calls.filterMap Tunnel.callOp)) = some ws :=
      ⟨_, if_pos hready⟩
    obtain ⟨ws, hws⟩ := hread
    refine ⟨{ t with
      session := (handlePacket deps now t.session hdr payload).session
      down := { t.down with ws := ws, net := t.down.net ++ ws.handed.drop t.down.ws.handed.length }
      up := t.up.take ((handlePacket deps now t.session hdr payload).calls.filterMap Tunnel.callPacket) },
      ?_, rfl, rfl, rfl⟩
    rw [Tunnel.serverRead_eq now hnet, houtcome, if_pos hexit]
    unfold Tunnel.Tunnel.handled Tunnel.Lane.drive
    rw [hws]
    rfl
  · left
    refine ⟨hexit, ?_⟩
    rw [Tunnel.serverRead_eq now hnet, houtcome, if_neg hexit]
    rfl

/-- **A session reads**: the server writes what comes out of the tunnel. -/
theorem Linked.read (h : Linked deps k P config v sid t) {rest : List Bytes} (hended : v.server.ended = false)
    (hready : readable t) (hnet : t.up.net = message :: rest)
    (hdispatch : dispatchPacket message (some Prod.mk) = some (hdr, payload))
    (hserver : Server.step deps v.server (.frame sid now hdr payload) = some s) (tunnels : UInt32 → Option Tunnel) :
    Linked deps k P config
      { v with
        server := s
        tunnels := tunnels
        written := v.written ++ (v.server.calls deps (.frame sid now hdr payload)).filterMap callWrite }
      sid ((Tunnel.step deps k t (.serverRead now)).getD t) := by
  have hsession := h.agrees hended
  obtain ⟨session, hsession', hs⟩ := Server.onFrame_cases (Server.step_handle hserver)
  obtain rfl : t.session = session := Option.some.inj (hsession.symm.trans hsession')
  have hwritten : ({ v with
      server := s
      tunnels := tunnels
      written := v.written ++ (v.server.calls deps (.frame sid now hdr payload)).filterMap callWrite } : Vpn).writtenBy
        sid = v.writtenBy sid ++
          (handlePacket deps now t.session hdr payload).calls.filterMap Tunnel.callPacket := by
    rw [writtenBy_append (v := v) rfl, calls_frame hsession, written_calls h.own, if_pos rfl]
  have hafter : s.sessions sid = some (handlePacket deps now t.session hdr payload).session := by
    rw [hs]
    exact Function.update_self _ _ _
  obtain ⟨b, hb⟩ := Server.handlePacket_fields deps now t.session hdr payload
  rcases tunnel_read deps k now hready hnet hdispatch with
    ⟨hexit, hstay⟩ | ⟨t', hstep, hsession'', htaken, hgiven⟩
  · obtain ⟨hcalls, hunchanged⟩ := handlePacket_lost hexit
    rw [hcalls, List.filterMap_nil, List.append_nil] at hwritten
    rw [hstay]
    refine ⟨?_, h.own, h.address, h.origin, ?_, h.given, h.order⟩
    · intro hrunning
      -- it has not thrown, so it never ends
      have hthrew : (handlePacket deps now t.session hdr payload).exit ≠ .threw := by
        intro hthrew
        rw [hs] at hrunning
        simp [hthrew] at hrunning
      have hdiverged : (handlePacket deps now t.session hdr payload).exit = .diverged := by
        cases hx : (handlePacket deps now t.session hdr payload).exit with
        | returned => exact absurd hx hexit
        | threw => exact absurd hx hthrew
        | diverged => rfl
      exact hafter.trans (by rw [hunchanged hdiverged])
    · rw [hwritten]
      exact h.written
  · rw [hstep, Option.getD_some]
    refine ⟨fun _ => hsession''.symm ▸ hafter, ?_, ?_, h.extend hstep, ?_, hgiven.symm ▸ h.given, hgiven.symm ▸ h.order⟩
    · rw [hsession'', hb]
      exact h.own
    · rw [hsession'', hb]
      exact h.address
    · rw [hwritten, htaken]
      obtain ⟨before, hbefore⟩ := h.written
      exact ⟨before, by rw [← hbefore, List.append_assoc]⟩

/-- **A packet is routed**: it is for the session. -/
theorem Linked.routed (h : Linked deps k P config v sid t) (haddressed : Server.Addressed config v.server) {data : Bytes}
    (hroute : v.server.routeToClient data = some sid)
    (hstep : Tunnel.step deps k t (.routed data) = some t')
    (hserver : Server.step deps v.server (.tunPacket data) = some s) (routing : Option UInt32)
    (tunnels : UInt32 → Option Tunnel) :
    Linked deps k P config
      { v with server := s, fromTun := v.fromTun ++ [data], routing := routing, tunnels := tunnels } sid t' := by
  have hdst : ip4Dst data = Server.vipOf config sid :=
    (haddressed.addrs _ sid (Server.routeToClient_eq_some_iff.mp hroute).2.1).1
  have hsessions : s.sessions sid = v.server.sessions sid :=
    sessions_other (v := v) hserver (by simp [Vpn.registers]) (by simp)
  have hparts : t'.session = t.session ∧ t'.up = t.up ∧ t'.down.given = t.down.given ++ [data] := by
    cases Tunnel.step_moves hstep with
    | routed => exact ⟨rfl, rfl, rfl⟩
  obtain ⟨hsession, hup, hgiven⟩ := hparts
  refine ⟨?_, hsession ▸ h.own, hsession ▸ h.address, h.extend hstep, hup ▸ h.written, ?_, ?_⟩
  · intro _
    rw [hsession]
    exact hsessions.trans (h.agrees (server_running hserver))
  · intro packet hpacket
    rw [hgiven] at hpacket
    rcases List.mem_append.mp hpacket with hp | hp
    · exact h.given packet hp
    · rw [List.mem_singleton.mp hp]
      exact hdst
  · rw [hgiven]
    exact h.order.append (List.Sublist.refl _)

/-- **A client connects**: its tunnel starts empty, with the session that was registered. -/
theorem linked_connect (haddressed : Server.Addressed config v.server) {i : Nat} {uninit : UInt32} {client : Client}
    {c : Int64} {hello : Bytes} {handshake : Server.Handshake} (hP : P client)
    (hhello : Client.authRequest deps client.config c = .ok hello)
    (hi : v.server.handshakes[i]? = some handshake)
    (hserver : Server.step deps v.server (.wsAccept i true uninit) = some s)
    (hsession : s.sessions handshake.sid = some session) (tunnels : UInt32 → Option Tunnel) :
    Linked deps k P config { v with server := s, tunnels := tunnels } handshake.sid
      (Tunnel.Tunnel.start client session hello) := by
  have hclientIp := haddressed.captured handshake (List.mem_of_getElem? hi)
  cases Server.step_moves hserver with
  | @wsDone _ sid clientIp hi' _ =>
      obtain rfl : ⟨sid, clientIp, .ws⟩ = handshake := Option.some.inj (hi'.symm.trans hi)
      obtain ⟨new, hnew, hid, hauth, -, hvip, -, -, hcb⟩ := Server.registerSession_tables
        { v.server with handshakes := v.server.handshakes.eraseIdx i } sid clientIp uninit
      rw [hnew, Function.update_self] at hsession
      obtain rfl := Option.some.inj hsession
      refine ⟨fun _ => ?_, hid, hvip.trans hclientIp, ⟨client, new, hello, c, [], hP, hcb, hauth, hhello, rfl⟩,
        List.nil_suffix, fun _ hp => absurd hp List.not_mem_nil, List.nil_sublist _⟩
      show (Server.Server.registerSession _ sid clientIp uninit).sessions sid = some new
      rw [hnew, Function.update_self]

/-! ## Runs -/

theorem inv_init : (Vpn.init config).Inv deps k P config :=
  ⟨⟨[], rfl⟩, fun _ _ h => absurd h (by simp [Vpn.init])⟩

theorem forget_eq_some {e : Server.Event} (h : v.forget e sid = some t) :
    v.tunnels sid = some t ∧ v.registers e ≠ some sid := by
  unfold Vpn.forget at h
  cases hreg : v.registers e with
  | none =>
      simp only [hreg] at h
      exact ⟨h, by simp⟩
  | some sid₀ =>
      simp only [hreg] at h
      by_cases hsid : sid = sid₀
      · rw [hsid, Function.update_self] at h
        exact absurd h (by simp)
      · rw [Function.update_of_ne hsid] at h
        exact ⟨h, fun heq => hsid (Option.some.inj heq).symm⟩

/-- What holds of the tunnel that was updated and of every other one holds of all of them. -/
theorem update_tunnels {tunnels : UInt32 → Option Tunnel} {sid₀ : UInt32} {t₀ : Tunnel} {P : UInt32 → Tunnel → Prop}
    (hnew : P sid₀ t₀) (hold : ∀ sid t, sid ≠ sid₀ → tunnels sid = some t → P sid t) (sid : UInt32) (t : Tunnel)
    (h : Function.update tunnels sid₀ (some t₀) sid = some t) : P sid t := by
  by_cases hsid : sid = sid₀
  · subst hsid
    rw [Function.update_self] at h
    exact Option.some.inj h ▸ hnew
  · rw [Function.update_of_ne hsid] at h
    exact hold sid t hsid h

/-- **Every step keeps the tunnels linked.** -/
theorem Vpn.Inv.step (h : v.Inv deps k P config) (hP : Connects P e) (hstep : step deps k v e = some v') :
    v'.Inv deps k P config := by
  obtain ⟨fs, hfs⟩ := h.server
  have haddressed := Server.addressed_of_run hfs
  have hfurnished := Server.furnished_of_run hfs
  have hserved : ∀ {ev : Server.Event} {s : Server.Server}, Server.step deps v.server ev = some s →
      ∃ fs, run (Server.step deps) (Server.Server.init config) fs = some s :=
    fun hs => ⟨fs ++ [_], run_snoc.mpr ⟨v.server, hfs, hs⟩⟩
  cases step_moves hstep with
  | @peer ev s hadmits hserver =>
      refine ⟨hserved hserver, ?_⟩
      intro sid t hforget
      obtain ⟨ht, hregisters⟩ := forget_eq_some hforget
      have hframe : ∀ now hdr payload, ev ≠ .frame sid now hdr payload := by
        rintro now hdr payload rfl
        have hnone : (v.tunnels sid).isNone = true := hadmits
        rw [ht] at hnone
        exact absurd hnone (by simp)
      refine (h.tunnels sid t ht).other ?_ ?_ (List.Sublist.refl _)
      · exact fun _ => ⟨server_running hserver, sessions_other hserver hregisters hframe⟩
      · rw [writtenBy_append (v := v) rfl, calls_other hfurnished hframe, List.append_nil]
  | @connect i uninit client now hello c s session hhello hi hserver hsession =>
      refine ⟨hserved hserver, update_tunnels (linked_connect haddressed hP hhello hi hserver hsession _) ?_⟩
      intro sid t hsid ht
      refine (h.tunnels sid t ht).other ?_ rfl (List.Sublist.refl _)
      have hregisters : v.registers (.wsAccept i true uninit) ≠ some sid := by
        unfold Vpn.registers
        simp only [hi, Option.map_some]
        exact fun heq => hsid (Option.some.inj heq).symm
      exact fun _ => ⟨server_running hserver, sessions_other hserver hregisters (by simp)⟩
  | @proceed sid₀ t₀ t' ev ht₀ hrouted hread htunnel =>
      have hsame : ∀ {sid : UInt32} {t : Tunnel}, Linked deps k P config v sid t →
          Linked deps k P config { v with tunnels := Function.update v.tunnels sid₀ (some t') } sid t :=
        fun hl => hl.other (fun hended => ⟨hended, rfl⟩) rfl (List.Sublist.refl _)
      exact ⟨h.server, update_tunnels (hsame ((h.tunnels sid₀ t₀ ht₀).proceed hrouted hread htunnel))
        fun sid t _ ht => hsame (h.tunnels sid t ht)⟩
  | @read sid₀ t₀ now message rest hdr payload s ht₀ hended hready hnet hdispatch hserver =>
      refine ⟨hserved hserver, update_tunnels ((h.tunnels sid₀ t₀ ht₀).read hended hready hnet hdispatch hserver _) ?_⟩
      intro sid t hsid ht
      have hframe : ∀ now' hdr' payload', (.frame sid₀ now hdr payload : Server.Event) ≠ .frame sid now' hdr' payload' := by
        intro now' hdr' payload' heq
        exact hsid (Server.Event.frame.inj heq).1.symm
      refine (h.tunnels sid t ht).other ?_ ?_ (List.Sublist.refl _)
      · exact fun _ => ⟨server_running hserver, sessions_other hserver (by simp [Vpn.registers]) hframe⟩
      · rw [writtenBy_append (v := v) rfl, calls_other hfurnished hframe, List.append_nil]
  | @unrouted data s hserver =>
      refine ⟨hserved hserver, ?_⟩
      intro sid t ht
      refine (h.tunnels sid t ht).other ?_ rfl (List.sublist_append_left _ _)
      exact fun _ => ⟨server_running hserver, sessions_other hserver (by simp [Vpn.registers]) (by simp)⟩
  | @routed data s sid₀ t₀ t' hserver hroute ht₀ htunnel =>
      refine ⟨hserved hserver,
        update_tunnels ((h.tunnels sid₀ t₀ ht₀).routed haddressed hroute htunnel hserver _ _) ?_⟩
      intro sid t _ ht
      refine (h.tunnels sid t ht).other ?_ rfl (List.sublist_append_left _ _)
      exact fun _ => ⟨server_running hserver, sessions_other hserver (by simp [Vpn.registers]) (by simp)⟩

theorem inv_of_run {es : List Event} (hP : ∀ e ∈ es, Connects P e)
    (hrun : run (step deps k) (Vpn.init config) es = some v) : v.Inv deps k P config := by
  refine run_invariant (C := fun _ e => Connects P e) (I := Vpn.Inv deps k P config)
    (fun _ _ _ hc h hstep => h.step hc hstep) ?_ inv_init hrun
  rintro pre e post s rfl -
  exact hP e (List.mem_append_right _ List.mem_cons_self)

/-- **The network refines its parts**: its server has run as the server alone can, and each tunnel as a tunnel alone
    can, from the login of a client that has connected; as long as the server runs, both have the same session. -/
theorem vpn_refines {es : List Event} (hP : ∀ e ∈ es, Connects P e)
    (hrun : run (step deps k) (Vpn.init config) es = some v) :
    (∃ fs, run (Server.step deps) (Server.Server.init config) fs = some v.server) ∧
      ∀ sid t, v.tunnels sid = some t →
        (v.server.ended = false → v.server.sessions sid = some t.session) ∧
          ∃ client session hello now evs, P client ∧ session.onIpPacketSet = true ∧ session.authenticated = false ∧
            Client.authRequest deps client.config now = .ok hello ∧
            run (Tunnel.step deps k) (Tunnel.Tunnel.start client session hello) evs = some t := by
  have h := inv_of_run hP hrun
  exact ⟨h.server, fun sid t ht => ⟨(h.tunnels sid t ht).agrees, (h.tunnels sid t ht).origin⟩⟩

theorem connects_true (es : List Event) : ∀ e ∈ es, Connects (fun _ => True) e := by
  intro e _
  cases e <;> trivial

/-- What comes out at a client was read from the server's device, in that order, and spells the address of its
    session. -/
theorem Linked.down (h : Linked deps k P config v sid t) :
    t.down.taken.Sublist v.fromTun ∧ ∀ packet ∈ t.down.taken, inetNtop (ip4Dst packet) = t.session.virtualIp := by
  obtain ⟨client, session, hello, now, evs, -, -, -, hhello, hevs⟩ := h.origin
  have hdown := (Tunnel.ordered_sublists (Tunnel.ordered_of_run hhello hevs)).2
  refine ⟨hdown.trans h.order, ?_⟩
  intro packet hpacket
  rw [h.given packet (hdown.subset hpacket), h.address]

/-- **Whose packets go where.** In every run of the network, with any number of clients and whatever other peers
    send: what a session has written to the server's device ends with exactly what came out of its own tunnel, a
    subsequence of what its client read from its device; what came out at a client is a subsequence of what the server
    read from its device, and all of it spells the virtual IP of its session; and what is passed to one client is
    passed to no other. -/
theorem vpn_delivery {es : List Event} (hrun : run (step deps k) (Vpn.init config) es = some v)
    (ht : v.tunnels sid = some t) :
    (t.up.taken <:+ v.writtenBy sid ∧ t.up.taken.Sublist t.up.given) ∧
      (t.down.taken.Sublist v.fromTun ∧ ∀ packet ∈ t.down.taken, inetNtop (ip4Dst packet) = t.session.virtualIp) ∧
      ∀ sid' t', v.tunnels sid' = some t' → sid' ≠ sid → ∀ packet ∈ t.down.given, packet ∉ t'.down.given := by
  have h := inv_of_run (connects_true es) hrun
  have hl := h.tunnels sid t ht
  obtain ⟨client, session, hello, now, evs, -, -, -, hhello, hevs⟩ := hl.origin
  refine ⟨⟨hl.written, (Tunnel.ordered_sublists (Tunnel.ordered_of_run hhello hevs)).1⟩, hl.down, ?_⟩
  intro sid' t' ht' hne packet hmine hother
  have hsame := (hl.given packet hmine).symm.trans ((h.tunnels sid' t' ht').given packet hother)
  exact hne (Server.vipOf_injective hsame).symm

/-- **A client's device gets packets that spell its own address only.** As long as a client whose device was not open
    when it connected has its device open, every packet that has come out of its tunnel has, in bytes 16 to 19, the
    address that the device was opened with. In an IPv4 packet this is the destination; in any other it may be
    anything. -/
theorem vpn_addressed {es : List Event} {d : Client.Tun} (hrefusal : Tunnel.RoundTrips deps Server.refusal)
    (hacceptance : Tunnel.RoundTrips deps (Server.acceptance t.session))
    (hclosed : ∀ e ∈ es, Connects (fun client => client.tunOpen = false) e)
    (hrun : run (step deps k) (Vpn.init config) es = some v) (ht : v.tunnels sid = some t)
    (htun : t.client.tun = some d) (hopen : d.isOpen = true) :
    ∀ packet ∈ t.down.taken, inetNtop (ip4Dst packet) = d.config.address := by
  have hl := (inv_of_run hclosed hrun).tunnels sid t ht
  obtain ⟨client, session, hello, now, evs, hclient, -, -, hhello, hevs⟩ := hl.origin
  have hsession : Tunnel.settings t.session = Tunnel.settings session := Tunnel.settings_of_run hevs
  have hdevice := Tunnel.device_of_run hrefusal (Tunnel.acceptance_of_settings hsession ▸ hacceptance) hclient hhello
    hevs htun hopen
  intro packet hpacket
  rw [hl.down.2 packet hpacket, hdevice, ← hsession]
  rfl

/-! ## Two clients -/

/-- A server behind nginx that accepts anyone. -/
def openConfig : ServerConfig := { Server.plainConfig with authSecret := [] }

/-- The sessions of the first two clients. -/
def firstSession : ClientSession := { Tunnel.openSession with virtualIp := ascii "10.8.0.2" }

def secondSession : ClientSession := { Tunnel.openSession with virtualIp := ascii "10.8.0.3" }

def vpnDeps : Deps :=
  Deps.table [(Tunnel.helloText, Tunnel.helloJson),
    ((dumpFlat (Server.acceptance firstSession)).getD [], Server.acceptance firstSession),
    ((dumpFlat (Server.acceptance secondSession)).getD [], Server.acceptance secondSession),
    (Tunnel.refusalJsonText, Server.refusal)]

/-- An IPv4 packet for 10.8.0.3. -/
def secondPacket : Bytes := [0x45, 0, 0, 20, 0, 0, 0, 0, 64, 17, 0, 0, 10, 8, 0, 1, 10, 8, 0, 3]

/-- Two clients connect and log in; another peer pretends to have sent a packet; a packet comes for each client, and
    the second one sends one. -/
def twoClients : List Event :=
  [.peer (.accept .alive), .connect 0 0 Tunnel.onlineClient 1000, .peer (.accept .alive),
      .connect 0 0 Tunnel.onlineClient 1000, .peer (.accept .alive), .peer (.wsAccept 0 true 0),
      .peer (.frame 3 1000 ⟨MsgType.ipPacket.toByte, 20⟩ Tunnel.samplePacket)] ++
    (Tunnel.packetEachWay.take 16).map (.link 1) ++ (Tunnel.packetEachWay.take 16).map (.link 2) ++
    [.tunPacket Tunnel.samplePacket, .link 1 (.server (.sendPush 0)), .tunPacket secondPacket,
      .link 2 (.server (.sendPush 0))] ++
    [Tunnel.Event.server (.writeDone true), .server .lock, .server .startWrite, .clientRead Client.sampleEnv,
      .client .advance].map (.link 1) ++
    [Tunnel.Event.server (.writeDone true), .server .lock, .server .startWrite, .clientRead Client.sampleEnv,
      .client .advance, .tunPacket Tunnel.samplePacket, .client (.sendPush 0), .client (.writeDone true), .client .lock,
      .client .startWrite, .serverRead 1001].map (.link 2)

theorem twoClients_run :
    ∃ v t t', run (step vpnDeps .wsPlainServerSession) (Vpn.init openConfig) twoClients = some v ∧
      v.tunnels 1 = some t ∧ v.tunnels 2 = some t' ∧ t.down.taken = [Tunnel.samplePacket] ∧
      t'.down.taken = [secondPacket] ∧ t'.up.taken = [Tunnel.samplePacket] ∧ v.server.ended = false := by
  have hrun : (run (step vpnDeps .wsPlainServerSession) (Vpn.init openConfig) twoClients).any (fun v =>
      (v.tunnels 1).any (fun t => t.down.taken = [Tunnel.samplePacket]) &&
        (v.tunnels 2).any (fun t => t.down.taken = [secondPacket] && t.up.taken = [Tunnel.samplePacket]) &&
        !v.server.ended) = true := by decide +kernel
  obtain ⟨v, hv, hbody⟩ := Option.any_eq_true _ _ |>.mp hrun
  simp only [Bool.and_eq_true, Bool.not_eq_true'] at hbody
  obtain ⟨⟨hone, htwo⟩, hended⟩ := hbody
  obtain ⟨t, ht, hdown⟩ := Option.any_eq_true _ _ |>.mp hone
  obtain ⟨t', ht', hboth⟩ := Option.any_eq_true _ _ |>.mp htwo
  simp only [Bool.and_eq_true, decide_eq_true_eq] at hdown hboth
  exact ⟨v, t, t', hv, ht, ht', hdown, hboth.1, hboth.2, hended⟩

theorem vpn_refines_two :
    ∃ v t, run (step vpnDeps .wsPlainServerSession) (Vpn.init openConfig) twoClients = some v ∧
      v.tunnels 2 = some t ∧ v.server.sessions 2 = some t.session ∧
      (∃ fs, run (Server.step vpnDeps) (Server.Server.init openConfig) fs = some v.server) := by
  obtain ⟨v, t, t', hv, ht, ht', -, -, -, hended⟩ := twoClients_run
  obtain ⟨hserver, htunnels⟩ := vpn_refines (connects_true twoClients) hv
  exact ⟨v, t', hv, ht', (htunnels 2 t' ht').1 hended, hserver⟩

theorem vpn_delivery_two :
    ∃ v t, run (step vpnDeps .wsPlainServerSession) (Vpn.init openConfig) twoClients = some v ∧
      v.tunnels 2 = some t ∧ [Tunnel.samplePacket] <:+ v.writtenBy 2 ∧
      inetNtop (ip4Dst secondPacket) = t.session.virtualIp := by
  obtain ⟨v, t, t', hv, ht, ht', -, hdown, hup, -⟩ := twoClients_run
  obtain ⟨⟨hwritten, -⟩, ⟨-, haddressed⟩, -⟩ := vpn_delivery hv ht'
  exact ⟨v, t', hv, ht', hup ▸ hwritten, haddressed secondPacket (by rw [hdown]; exact List.mem_singleton.mpr rfl)⟩

theorem vpn_addressed_two :
    ∃ v t d, run (step vpnDeps .wsPlainServerSession) (Vpn.init openConfig) twoClients = some v ∧
      v.tunnels 2 = some t ∧ t.client.tun = some d ∧ d.isOpen = true ∧ t.down.taken = [secondPacket] ∧
      inetNtop (ip4Dst secondPacket) = d.config.address := by
  have hrun : (run (step vpnDeps .wsPlainServerSession) (Vpn.init openConfig) twoClients).any (fun v =>
      (v.tunnels 2).any fun t => t.down.taken = [secondPacket] && t.client.tun.any Client.Tun.isOpen &&
        decide (t.session.virtualIp = secondSession.virtualIp ∧ t.session.tunInfo = secondSession.tunInfo)) = true := by
    decide +kernel
  obtain ⟨v, hv, hbody⟩ := Option.any_eq_true _ _ |>.mp hrun
  obtain ⟨t, ht, hfacts⟩ := Option.any_eq_true _ _ |>.mp hbody
  simp only [Bool.and_eq_true, decide_eq_true_eq] at hfacts
  obtain ⟨⟨hdown, htun⟩, hip, hinfo⟩ := hfacts
  obtain ⟨d, hd, hopen⟩ := Option.any_eq_true _ _ |>.mp htun
  have hsettings : Tunnel.settings t.session = Tunnel.settings secondSession := by
    unfold Tunnel.settings
    rw [hip, hinfo]
  have hacceptance : Tunnel.RoundTrips vpnDeps (Server.acceptance t.session) := by
    rw [Tunnel.acceptance_of_settings hsettings]
    exact Tunnel.roundTrips_of_parse ((dumpFlat (Server.acceptance secondSession)).getD []) rfl rfl
  have hrefusal : Tunnel.RoundTrips vpnDeps Server.refusal := Tunnel.roundTrips_of_parse Tunnel.refusalJsonText rfl rfl
  have hclosed : ∀ e ∈ twoClients, Connects (fun client => client.tunOpen = false) e := by decide
  exact ⟨v, t, d, hv, ht, hd, hopen, hdown,
    vpn_addressed hrefusal hacceptance hclosed hv ht hd hopen secondPacket (by rw [hdown]; exact List.mem_singleton.mpr rfl)⟩

end Vpn
end Kirdi
