import Kirdi.Lib.Subnet
import Kirdi.Server.Routing

/-!
# `Server.Allocation` — which addresses the clients get

`allocate_client_ip` adds a counter to `tun_subnet`. It starts at 2, past the network address and past the
address that the server has by default, and nothing stops it: the mask, `tun_server_ip` and `max_clients` are
not looked at, and no address is given out twice before the counter comes round, so the connections that
fail and the sessions that end use addresses up as well.

The connections are numbered in the order in which they were accepted, from 1. A `Watched` server keeps these
numbers as ghosts, with the ends of the sessions, of which the server takes no notice. The addresses of its
sessions are usable exactly as long as the number of every registered connection stands for a host other
than the server (`allUsable_iff`).
-/

set_option linter.dupNamespace false

namespace Kirdi
namespace Server

open Protocol Inet EventMachine

/-! ## The subnet of a configuration -/

/-- The number of an address in host order, if the text is one. -/
def hostNumber (text : Bytes) : Option ℕ := (inetPton (cStr text)).map fun a => (ntohl a).toNat

/-- The configuration is that of the subnet, and `tun_server_ip` is one of its hosts. -/
structure Describes (config : ServerConfig) (n : Subnet 32) (server : ℕ) : Prop where
  subnet   : hostNumber config.tunSubnet = some n.network
  mask     : hostNumber config.tunMask = some n.mask
  serverIp : hostNumber config.tunServerIp = some server
  host     : n.IsHost server

/-- A client can have the address. -/
structure Usable (n : Subnet 32) (server a : ℕ) : Prop where
  host : n.IsHost a
  free : a ≠ server

/-- The virtual IP of every registered session is usable. -/
def AllUsable (n : Subnet 32) (server : ℕ) (s : Server) : Prop :=
  ∀ sid session, s.sessions sid = some session →
    ∃ a, hostNumber session.virtualIp = some a ∧ Usable n server a

/-- The hosts without the server. -/
def freeHosts (n : Subnet 32) : ℕ := 2 ^ n.hostBits - 3

/-- Connection number `k` stands for a host other than the server: its offset from the network address is
    `k + 1`, modulo `2 ^ 32`. -/
def StandsForHost (n : Subnet 32) (server k : ℕ) : Prop :=
  0 < (k + 1) % 2 ^ 32 ∧ (k + 1) % 2 ^ 32 + 1 < 2 ^ n.hostBits ∧ n.network + (k + 1) % 2 ^ 32 ≠ server

instance {n : Subnet 32} {server k : ℕ} : Decidable (StandsForHost n server k) :=
  inferInstanceAs (Decidable (_ ∧ _ ∧ _))

/-! ## The numbers of the connections -/

/-- A server, with the numbers of its connections. -/
structure Watched where
  server     : Server
  accepted   : ℕ
  pending    : List ℕ      -- in their handshakes
  registered : List ℕ      -- registered, ended or not
  live       : List ℕ      -- registered and not ended

def Watched.init (config : ServerConfig) : Watched := ⟨Server.init config, 0, [], [], []⟩

/-- The connections that are open. -/
def Watched.openConnections (w : Watched) : ℕ := w.pending.length + w.live.length

/-- The numbers after an event. -/
def Watched.follow (w : Watched) (s : Server) : Event → Watched
  | .accept .alive =>
      { w with server := s, accepted := w.accepted + 1, pending := w.pending ++ [w.accepted + 1] }
  | .accept .remoteEndpointThrows => { w with server := s, accepted := w.accepted + 1 }
  | .sslHandshake i false | .wsAccept i false _ => { w with server := s, pending := w.pending.eraseIdx i }
  | .wsAccept i true _ =>
      { w with
        server := s
        pending := w.pending.eraseIdx i
        registered := w.registered ++ w.pending[i]?.toList
        live := w.live ++ w.pending[i]?.toList }
  | _ => { w with server := s }

inductive Happening where
  | event (e : Event)
  | ends (k : ℕ)           -- the session of connection `k` loses its connection

def watch (deps : Deps) (w : Watched) : Happening → Option Watched
  | .event e => (step deps w.server e).map fun s => w.follow s e
  | .ends k => if k ∈ w.live then some { w with live := w.live.erase k } else none

/-- Session ids are the numbers of the connections, modulo `2 ^ 32`. -/
structure Numbered (w : Watched) : Prop where
  next     : w.server.nextSessionId = UInt32.ofNat (w.accepted + 1)
  pending  : w.server.handshakes.map Handshake.sid = w.pending.map UInt32.ofNat
  sessions : ∀ sid, (w.server.sessions sid).isSome = true ↔ ∃ k ∈ w.registered, sid = UInt32.ofNat k

variable {deps : Deps} {config : ServerConfig} {n : Subnet 32} {server : ℕ} {s : Server} {w w' : Watched}
  {e : Event} {hs : List Happening}

theorem numbered_init : Numbered (Watched.init config) where
  next := rfl
  pending := rfl
  sessions := by simp [Watched.init, Server.init]

/-- The connection at position `i` of the handshakes. -/
theorem Numbered.pending_at (h : Numbered w) {i : ℕ} {c : Handshake} (hi : w.server.handshakes[i]? = some c) :
    ∃ k, w.pending[i]? = some k ∧ c.sid = UInt32.ofNat k := by
  have hsid : (w.pending.map UInt32.ofNat)[i]? = some c.sid := by
    rw [← h.pending, List.getElem?_map, hi, Option.map_some]
  rw [List.getElem?_map, Option.map_eq_some_iff] at hsid
  obtain ⟨k, hk, hsid⟩ := hsid
  exact ⟨k, hk, hsid.symm⟩

theorem Numbered.erase (h : Numbered w) (i : ℕ) :
    (w.server.handshakes.eraseIdx i).map Handshake.sid = (w.pending.eraseIdx i).map UInt32.ofNat := by
  rw [← List.eraseIdx_map, ← List.eraseIdx_map, h.pending]

/-- **Every event keeps the numbers.** -/
theorem numbered_step (h : Numbered w) (hstep : step deps w.server e = some s) : Numbered (w.follow s e) := by
  have hnext : w.server.nextSessionId + 1 = UInt32.ofNat (w.accepted + 1 + 1) := by
    rw [h.next, UInt32.ofNat_add (w.accepted + 1) 1]
    rfl
  cases step_moves hstep with
  | acceptError | sslDone _ | tunPacket _ _ | stop => exact ⟨h.next, h.pending, h.sessions⟩
  | accept peer =>
      cases peer with
      | setOptionThrows => exact ⟨h.next, h.pending, h.sessions⟩
      | remoteEndpointThrows => exact ⟨hnext, h.pending, h.sessions⟩
      | alive =>
          refine ⟨hnext, ?_, h.sessions⟩
          -- the new connection has the next id and the next number
          show (w.server.handshakes ++ [_]).map Handshake.sid = (w.pending ++ [w.accepted + 1]).map UInt32.ofNat
          rw [List.map_append, List.map_append, h.pending, List.map_singleton, List.map_singleton, ← h.next]
  | sslFailed _ | wsFailed _ _ => exact ⟨h.next, h.erase _, h.sessions⟩
  | @wsDone i sid clientIp hi uninit =>
      obtain ⟨k, hk, hsid⟩ := h.pending_at hi
      refine ⟨h.next, h.erase i, fun sid' => ?_⟩
      show (Function.update w.server.sessions sid _ sid').isSome = true ↔
        ∃ k ∈ w.registered ++ w.pending[i]?.toList, sid' = UInt32.ofNat k
      rw [hk, Option.toList_some]
      by_cases hsid' : sid' = sid
      · rw [hsid', Function.update_self]
        exact iff_of_true rfl ⟨k, by simp, hsid⟩
      · rw [Function.update_of_ne hsid', h.sessions sid']
        refine exists_congr fun k' => and_congr_left fun hk' => ?_
        have hne : k' ≠ k := fun heq => hsid' (by rw [hk', heq, ← hsid])
        simp [hne]
  | @frame sid session hsession now hdr payload stuck ended =>
      refine ⟨h.next, h.pending, fun sid' => ?_⟩
      show (Function.update w.server.sessions sid _ sid').isSome = true ↔ ∃ k ∈ w.registered, sid' = UInt32.ofNat k
      rw [← h.sessions sid']
      by_cases hsid : sid' = sid
      · rw [hsid, Function.update_self, hsession]
        rfl
      · rw [Function.update_of_ne hsid]

theorem follow_server (w : Watched) (s : Server) (e : Event) : (w.follow s e).server = s := by
  cases e with
  | accept peer => cases peer <;> rfl
  | sslHandshake i ok => cases ok <;> rfl
  | wsAccept i ok uninit => cases ok <;> rfl
  | _ => rfl

/-! ## Runs -/

/-- What a run of the watched server keeps. -/
structure Tracked (config : ServerConfig) (w : Watched) : Prop where
  numbered  : Numbered w
  addressed : Addressed config w.server

theorem tracked_watch {happening : Happening} (h : Tracked config w)
    (hwatch : watch deps w happening = some w') : Tracked config w' := by
  cases happening with
  | event e =>
      obtain ⟨s, hs, rfl⟩ := Option.map_eq_some_iff.mp hwatch
      refine ⟨numbered_step h.numbered hs, ?_⟩
      rw [follow_server]
      exact addressed_step h.addressed hs
  | ends k =>
      -- the server takes no notice
      obtain ⟨-, hwatch⟩ := Option.ite_none_right_eq_some.mp hwatch
      cases hwatch
      exact ⟨⟨h.numbered.next, h.numbered.pending, h.numbered.sessions⟩, h.addressed⟩

theorem tracked_of_run (hrun : run (watch deps) (Watched.init config) hs = some w) : Tracked config w :=
  run_invariant' (I := Tracked config) (fun _ _ _ => tracked_watch) ⟨numbered_init, addressed_init⟩ hrun

/-! ## The address of a connection -/

/-- The address that a number comes with. -/
theorem hostNumber_vip (hconfig : Describes config n server) (k : ℕ) :
    hostNumber (inetNtop (vipOf config (UInt32.ofNat k))) = some ((n.network + (k + 1) % 2 ^ 32) % 2 ^ 32) := by
  obtain ⟨a, ha, hnetwork⟩ := Option.map_eq_some_iff.mp hconfig.subnet
  have hbase : config.base = a := by
    unfold ServerConfig.base
    rw [ha, Option.getD_some]
  have hoffset : (UInt32.ofNat k + 1).toNat = (k + 1) % 2 ^ 32 := by
    rw [UInt32.toNat_add, UInt32.toNat_ofNat', UInt32.toNat_one, Nat.mod_add_mod]
  unfold hostNumber vipOf
  rw [cStr_inetNtop, inetPton_inetNtop, Option.map_some]
  show some (htonl (htonl _)).toNat = _
  rw [htonl_htonl, hbase, UInt32.toNat_add, hnetwork, hoffset]

/-- **The offsets of the usable addresses.** -/
theorem usable_add_iff {o : ℕ} (ho : o < 2 ^ 32) :
    Usable n server ((n.network + o) % 2 ^ 32) ↔
      0 < o ∧ o + 1 < 2 ^ n.hostBits ∧ n.network + o ≠ server := by
  have hend := n.end_le
  constructor
  · rintro ⟨hhost, hfree⟩
    obtain ⟨hlow, hhigh⟩ := (n.isHost_add_iff ho).mp hhost
    rw [Nat.mod_eq_of_lt (by omega)] at hfree
    exact ⟨hlow, hhigh, hfree⟩
  · rintro ⟨hlow, hhigh, hfree⟩
    refine ⟨(n.isHost_add_iff ho).mpr ⟨hlow, hhigh⟩, ?_⟩
    rw [Nat.mod_eq_of_lt (by omega)]
    exact hfree

/-- The address of a session is usable if the number of its connection stands for a host. -/
theorem Tracked.usable_iff (h : Tracked config w) (hconfig : Describes config n server) {k : ℕ}
    {session : ClientSession} (hsession : w.server.sessions (UInt32.ofNat k) = some session) :
    (∃ a, hostNumber session.virtualIp = some a ∧ Usable n server a) ↔ StandsForHost n server k := by
  rw [(h.addressed.sessions _ session hsession).1, hostNumber_vip hconfig]
  unfold StandsForHost
  rw [← usable_add_iff (Nat.mod_lt _ (by decide))]
  constructor
  · rintro ⟨a, ha, husable⟩
    rwa [Option.some.inj ha]
  · intro husable
    exact ⟨_, rfl, husable⟩

/-- **The addresses of a reachable server are usable exactly as long as the number of every registered
    connection stands for a host other than the server.** -/
theorem allUsable_iff (hconfig : Describes config n server)
    (hrun : run (watch deps) (Watched.init config) hs = some w) :
    AllUsable n server w.server ↔ ∀ k ∈ w.registered, StandsForHost n server k := by
  have h := tracked_of_run hrun
  constructor
  · intro hall k hk
    obtain ⟨session, hsession⟩ := Option.isSome_iff_exists.mp ((h.numbered.sessions _).mpr ⟨k, hk, rfl⟩)
    exact (h.usable_iff hconfig hsession).mp (hall _ session hsession)
  · intro hall sid session hsession
    obtain ⟨k, hk, rfl⟩ := (h.numbered.sessions sid).mp (by rw [hsession]; rfl)
    exact (h.usable_iff hconfig hsession).mpr (hall k hk)

/-- A connection that is set up. -/
def connection : List Happening := [.event (.accept .alive), .event (.wsAccept 0 true 0)]

/-- 10.8.0.0/24. -/
def subnet24 : Subnet 32 where
  hostBits := 8
  network := 0x0A080000
  hostBits_le := by decide
  network_lt := by decide
  aligned := by decide

/-- 10.8.0.0/30, with one host besides the server. -/
def subnet30 : Subnet 32 where
  hostBits := 2
  network := 0x0A080000
  hostBits_le := by decide
  network_lt := by decide
  aligned := by decide

def config30 : ServerConfig := { plainConfig with tunMask := ascii "255.255.255.252" }

theorem plainConfig_describes : Describes plainConfig subnet24 0x0A080001 :=
  ⟨by decide, by decide, by decide, by decide⟩

theorem config30_describes : Describes config30 subnet30 0x0A080001 :=
  ⟨by decide, by decide, by decide, by decide⟩

/-- The first two connections of a server on 10.8.0.0/24. -/
theorem allUsable_two :
    ∃ w, run (watch sampleDeps) (Watched.init plainConfig) (connection ++ connection) = some w ∧
      w.registered = [1, 2] ∧ AllUsable subnet24 0x0A080001 w.server := by
  have hrun : (run (watch sampleDeps) (Watched.init plainConfig) (connection ++ connection)).any (fun w =>
      w.registered = [1, 2]) = true := by decide +kernel
  obtain ⟨w, hw, hregistered⟩ := Option.any_eq_true _ _ |>.mp hrun
  have hregistered := of_decide_eq_true hregistered
  refine ⟨w, hw, hregistered, (allUsable_iff plainConfig_describes hw).mpr ?_⟩
  rw [hregistered]
  decide

/-- On 10.8.0.0/30 a connection is set up, ends and is followed by a second one, so that never more
    connections are open than there are free hosts. The second one gets the broadcast address. -/
theorem second_gets_broadcast :
    Describes config30 subnet30 0x0A080001 ∧
    Along (watch sampleDeps) (fun w _ => w.openConnections ≤ freeHosts subnet30) (Watched.init config30)
      (connection ++ .ends 1 :: connection) ∧
    ∃ w, run (watch sampleDeps) (Watched.init config30) (connection ++ .ends 1 :: connection) = some w ∧
      w.openConnections ≤ freeHosts subnet30 ∧ ¬ AllUsable subnet30 0x0A080001 w.server := by
  refine ⟨config30_describes, by decide +kernel, ?_⟩
  have hrun : (run (watch sampleDeps) (Watched.init config30) (connection ++ .ends 1 :: connection)).any
      (fun w => w.openConnections ≤ freeHosts subnet30 ∧
        (w.server.sessions 2).map ClientSession.virtualIp = some (ascii "10.8.0.3")) = true := by decide +kernel
  obtain ⟨w, hw, hfacts⟩ := Option.any_eq_true _ _ |>.mp hrun
  obtain ⟨hopen, hvip⟩ := of_decide_eq_true hfacts
  refine ⟨w, hw, hopen, fun hall => ?_⟩
  obtain ⟨session, hsession, hvip⟩ := Option.map_eq_some_iff.mp hvip
  obtain ⟨a, ha, husable⟩ := hall 2 session hsession
  rw [hvip, show hostNumber (ascii "10.8.0.3") = some subnet30.broadcast from by decide] at ha
  exact husable.host.broadcast (Option.some.inj ha).symm

end Server
end Kirdi
