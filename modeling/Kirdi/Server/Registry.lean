import Kirdi.Lib.Directory
import Kirdi.Server.Server

/-!
# `Server.Registry` — the routing tables stay mutually inverse

The abstract registry is a directory of session ids and addresses. The tables of a server represent it
(`Represents`), and every step of the server either keeps the directory or enters one free pair
(`step_refines`), as long as at most `2 ^ 32` connections were accepted: so many ids and addresses are
drawn before the 32-bit counters come round.

The invariant `Drawn k s e` says where the ids and addresses are: the first `k` have been drawn, each by
one connection that is registered, is still in its handshakes, or failed.
-/

set_option linter.dupNamespace false

namespace Kirdi
namespace Server

open Protocol Inet EventMachine Directory

/-- The session id of the `i`-th accepted connection, counted from zero. -/
def sidOf (i : Nat) : UInt32 := 1 + UInt32.ofNat i

/-- Its address, in network byte order. -/
def addrOf (config : ServerConfig) (i : Nat) : UInt32 :=
  htonl (ntohl config.base + (2 + UInt32.ofNat i))

/-- The two maps of a server are the two directions of one directory. -/
structure Represents (s : Server) (e : UInt32 ≃. UInt32) : Prop where
  sessions : ∀ sid, (s.sessions sid).map ClientSession.virtualIpN = e sid
  addrs    : ∀ addr, s.ipToSession addr = e.symm addr

/-- Each session is found under its own address, and each address leads to the session that has it. -/
structure MutuallyInverse (s : Server) : Prop where
  found      : ∀ sid session, s.sessions sid = some session →
    s.ipToSession session.virtualIpN = some sid
  registered : ∀ addr sid, s.ipToSession addr = some sid →
    ∃ session, s.sessions sid = some session ∧ session.virtualIpN = addr

/-- The first `k` ids and addresses have been drawn; those of the connections in their handshakes are
    still free. -/
structure Drawn (config : ServerConfig) (k : Nat) (s : Server) (e : UInt32 ≃. UInt32) : Prop where
  config_eq  : s.config = config
  nextSid    : s.nextSessionId = sidOf k
  nextOffset : s.nextClientIpOffset = 2 + UInt32.ofNat k
  represents : Represents s e
  issued     : Issued sidOf (addrOf config) k e
  captured   : ∀ c ∈ s.handshakes, ∃ i < k, c.sid = sidOf i ∧ c.clientIp = inetNtop (addrOf config i)
  free       : ∀ c ∈ s.handshakes, e c.sid = none
  distinct   : (s.handshakes.map Handshake.sid).Nodup

variable {deps : Deps} {config : ServerConfig} {s s' : Server} {e e' : UInt32 ≃. UInt32} {k : Nat}

/-! ## The two labellings -/

theorem ofNat_injOn : Set.InjOn UInt32.ofNat (Set.Iio (2 ^ 32)) := by
  intro i hi j hj h
  have hnat := congrArg UInt32.toNat h
  rw [UInt32.toNat_ofNat', UInt32.toNat_ofNat', Nat.mod_eq_of_lt hi, Nat.mod_eq_of_lt hj] at hnat
  exact hnat

/-- **Session ids do not repeat** within `2 ^ 32` connections. -/
theorem sidOf_injOn : Set.InjOn sidOf (Set.Iio (2 ^ 32)) := by
  intro i hi j hj h
  exact ofNat_injOn hi hj (UInt32.add_right_inj 1 |>.mp h)

/-- **Addresses do not repeat** within `2 ^ 32` connections, whatever the subnet is: the byte swaps are
    injective and the sum wraps around once. -/
theorem addrOf_injOn : Set.InjOn (addrOf config) (Set.Iio (2 ^ 32)) := by
  intro i hi j hj h
  have hsum := htonl_injective h
  have hoffset := UInt32.add_right_inj (ntohl config.base) |>.mp hsum
  exact ofNat_injOn hi hj (UInt32.add_right_inj 2 |>.mp hoffset)

theorem sidOf_succ : sidOf k + 1 = sidOf (k + 1) := by
  unfold sidOf
  rw [UInt32.ofNat_add, ← UInt32.add_assoc]
  rfl

theorem offset_succ : 2 + UInt32.ofNat k + 1 = 2 + UInt32.ofNat (k + 1) := by
  rw [UInt32.ofNat_add, ← UInt32.add_assoc]
  rfl

/-! ## Steps that do not register -/

theorem drawn_init : Drawn config 0 (Server.init config) ⊥ where
  config_eq := rfl
  nextSid := rfl
  nextOffset := rfl
  represents := ⟨fun _ => rfl, fun _ => rfl⟩
  issued := issued_empty
  captured := by
    intro c hc
    exact absurd hc List.not_mem_nil
  free := by
    intro c hc
    exact absurd hc List.not_mem_nil
  distinct := List.nodup_nil

/-- Connections may leave the handshakes. -/
theorem Drawn.eraseIdx (h : Drawn config k s e) (i : Nat) :
    Drawn config k { s with handshakes := s.handshakes.eraseIdx i } e where
  config_eq := h.config_eq
  nextSid := h.nextSid
  nextOffset := h.nextOffset
  represents := ⟨h.represents.sessions, h.represents.addrs⟩
  issued := h.issued
  captured := fun c hc => h.captured c (List.mem_of_mem_eraseIdx hc)
  free := fun c hc => h.free c (List.mem_of_mem_eraseIdx hc)
  distinct := h.distinct.sublist ((List.eraseIdx_sublist _ i).map Handshake.sid)

/-- `accepting` and `ended` play no part. -/
theorem Drawn.of_flow (h : Drawn config k s e) (n : Nat) (b : Bool) :
    Drawn config k { s with accepting := n, ended := b } e where
  config_eq := h.config_eq
  nextSid := h.nextSid
  nextOffset := h.nextOffset
  represents := ⟨h.represents.sessions, h.represents.addrs⟩
  issued := h.issued
  captured := h.captured
  free := h.free
  distinct := h.distinct

/-! ## Accepting a connection -/

/-- Drawing an id and an address that the connection then loses. -/
theorem Drawn.draw (h : Drawn config k s e) :
    Drawn config (k + 1)
      { s with nextSessionId := s.nextSessionId + 1, nextClientIpOffset := s.nextClientIpOffset + 1 }
      e where
  config_eq := h.config_eq
  nextSid := by
    show s.nextSessionId + 1 = _
    rw [h.nextSid, sidOf_succ]
  nextOffset := by
    show s.nextClientIpOffset + 1 = _
    rw [h.nextOffset, offset_succ]
  represents := ⟨h.represents.sessions, h.represents.addrs⟩
  issued := h.issued.mono (Nat.le_succ k)
  captured := by
    intro c hc
    obtain ⟨i, hi, hc'⟩ := h.captured c hc
    exact ⟨i, Nat.lt_succ_of_lt hi, hc'⟩
  free := h.free
  distinct := h.distinct

/-- The connection starts its handshakes with the next id and address: nobody else has them. -/
theorem Drawn.enter (h : Drawn config k s e) (hk : k + 1 ≤ 2 ^ 32) (st : Stage) :
    Drawn config (k + 1)
      { s with
        nextSessionId := s.nextSessionId + 1
        nextClientIpOffset := s.nextClientIpOffset + 1
        handshakes := s.handshakes ++ [⟨sidOf k, inetNtop (addrOf config k), st⟩] } e where
  config_eq := h.config_eq
  nextSid := h.draw.nextSid
  nextOffset := h.draw.nextOffset
  represents := ⟨h.represents.sessions, h.represents.addrs⟩
  issued := h.draw.issued
  captured := by
    intro c hc
    rcases List.mem_append.mp hc with hc | hc
    · exact h.draw.captured c hc
    · rw [List.mem_singleton.mp hc]
      exact ⟨k, Nat.lt_succ_self k, rfl, rfl⟩
  free := by
    intro c hc
    rcases List.mem_append.mp hc with hc | hc
    · exact h.free c hc
    · rw [List.mem_singleton.mp hc]
      exact h.issued.key_free (sidOf_injOn.mono (Set.Iio_subset_Iio hk))
  distinct := by
    rw [List.map_append, List.nodup_append]
    refine ⟨h.distinct, List.nodup_singleton _, ?_⟩
    intro sid hsid sid' hsid' heq
    obtain ⟨c, hc, rfl⟩ := List.mem_map.mp hsid
    obtain ⟨i, hi, hci, -⟩ := h.captured c hc
    have hnew : sid' = sidOf k := List.mem_singleton.mp hsid'
    -- the handshakes before it have numbers below `k`
    have hik : i = k :=
      sidOf_injOn (lt_of_lt_of_le (Nat.lt_succ_of_lt hi) hk) (lt_of_lt_of_le (Nat.lt_succ_self k) hk)
        (hci.symm.trans (heq.trans hnew))
    exact absurd hik (Nat.ne_of_lt hi)

theorem Drawn.onAccept (h : Drawn config k s e) (hk : k + 1 ≤ 2 ^ 32) (peer : Peer) :
    ∃ k' ≤ k + 1, Drawn config k' (s.onAccept peer) e := by
  have hip : htonl (ntohl s.config.base + s.nextClientIpOffset) = addrOf config k := by
    rw [h.config_eq, h.nextOffset]
    rfl
  cases peer with
  | setOptionThrows => exact ⟨k, Nat.le_succ k, h.of_flow s.accepting true⟩
  | remoteEndpointThrows => exact ⟨k + 1, le_refl _, h.draw.of_flow s.accepting true⟩
  | alive =>
      refine ⟨k + 1, le_refl _, ?_⟩
      have hent := (h.enter hk (if s.config.tlsEnabled then .ssl else .ws)).of_flow (s.accepting + 1)
        s.ended
      rw [← h.nextSid, ← hip] at hent
      exact hent

/-! ## Registering a session -/

/-- The other connections in their handshakes have other ids. -/
theorem sid_ne_of_mem_eraseIdx {hs : List Handshake} {i : Nat} {c c' : Handshake}
    (hnodup : (hs.map Handshake.sid).Nodup) (hi : hs[i]? = some c) (hc' : c' ∈ hs.eraseIdx i) :
    c'.sid ≠ c.sid := by
  obtain ⟨hlt, rfl⟩ := List.getElem?_eq_some_iff.mp hi
  have hperm := (List.getElem_cons_eraseIdx_perm hlt).map Handshake.sid
  have hcons : ((hs[i] :: hs.eraseIdx i).map Handshake.sid).Nodup := hperm.nodup_iff.mpr hnodup
  rw [List.map_cons, List.nodup_cons] at hcons
  intro heq
  exact hcons.1 (heq ▸ List.mem_map_of_mem hc')

/-- A connection in its handshakes has an id that no session has. -/
theorem Drawn.unregistered (h : Drawn config k s e) {c : Handshake} (hc : c ∈ s.handshakes) :
    s.sessions c.sid = none := by
  have hfree := h.free c hc
  rw [← h.represents.sessions, Option.map_eq_none_iff] at hfree
  exact hfree

/-- **A registration enters one free pair in the directory.** -/
theorem Drawn.register (h : Drawn config k s e) (hk : k ≤ 2 ^ 32) {i : Nat} {sid : UInt32}
    {clientIp : Bytes} {st : Stage} (hi : s.handshakes[i]? = some ⟨sid, clientIp, st⟩)
    (uninit : UInt32) :
    ∃ e', Directory.Step e e' ∧ Drawn config k
      ({ s with handshakes := s.handshakes.eraseIdx i }.registerSession sid clientIp uninit) e' := by
  have hmem := List.mem_of_getElem? hi
  obtain ⟨j, hj, hsid, hip⟩ := h.captured _ hmem
  obtain rfl : sid = sidOf j := hsid
  have haddr : inetPton (cStr clientIp) = some (addrOf config j) := by
    rw [show clientIp = inetNtop (addrOf config j) from hip, cStr_inetNtop, inetPton_inetNtop]
  have hkey : e (sidOf j) = none := h.free _ hmem
  have hfree : e.symm (addrOf config j) = none :=
    h.issued.addr_free (addrOf_injOn.mono (Set.Iio_subset_Iio hk)) hj hkey
  -- neither the id nor the address is in use, so the tables get one more pair
  refine ⟨Directory.insert e (sidOf j) (addrOf config j) hkey hfree, .enter e _ _ hkey hfree, ?_⟩
  have herase := h.eraseIdx i
  refine ⟨h.config_eq, h.nextSid, h.nextOffset, ⟨?_, ?_⟩, h.issued.insert hj hkey hfree,
    herase.captured, ?_, herase.distinct⟩
  · intro sid'
    show (Function.update s.sessions (sidOf j) _ sid').map ClientSession.virtualIpN = _
    rw [insert_apply]
    by_cases hs' : sid' = sidOf j
    · rw [hs', Function.update_self, Function.update_self]
      show some ((inetPton (cStr clientIp)).getD uninit) = _
      rw [haddr]
      rfl
    · rw [Function.update_of_ne hs', Function.update_of_ne hs']
      exact h.represents.sessions sid'
  · intro addr
    show Function.update s.ipToSession ((inetPton (cStr clientIp)).getD 0) (some (sidOf j)) addr = _
    rw [insert_symm_apply, haddr, Option.getD_some]
    by_cases ha : addr = addrOf config j
    · rw [ha, Function.update_self, Function.update_self]
    · rw [Function.update_of_ne ha, Function.update_of_ne ha]
      exact h.represents.addrs addr
  · intro c hc
    have hne : c.sid ≠ sidOf j := sid_ne_of_mem_eraseIdx h.distinct hi hc
    rw [insert_apply, Function.update_of_ne hne]
    exact herase.free c hc

/-! ## Every step -/

/-- Handling a frame keeps the address of the session. -/
theorem Drawn.onFrame {sid : UInt32} {session session' : ClientSession} (h : Drawn config k s e)
    (hsession : s.sessions sid = some session) (hip : session'.virtualIpN = session.virtualIpN)
    (stuck : List UInt32) (ended : Bool) :
    Drawn config k { s with
      sessions := Function.update s.sessions sid (some session'), stuck := stuck, ended := ended } e where
  config_eq := h.config_eq
  nextSid := h.nextSid
  nextOffset := h.nextOffset
  represents := by
    refine ⟨?_, h.represents.addrs⟩
    intro sid'
    show (Function.update s.sessions sid (some session') sid').map ClientSession.virtualIpN = _
    by_cases hs' : sid' = sid
    · rw [hs', Function.update_self, ← h.represents.sessions sid, hsession, Option.map_some,
        Option.map_some, hip]
    · rw [Function.update_of_ne hs']
      exact h.represents.sessions sid'
  issued := h.issued
  captured := h.captured
  free := h.free
  distinct := h.distinct

/-- **Each step of the server is a step of the directory.** -/
theorem step_refines {ev : Event} (h : Drawn config k s e) (hk : k + accepts [ev] ≤ 2 ^ 32)
    (hstep : step deps s ev = some s') :
    ∃ k' ≤ k + accepts [ev], ∃ e', Directory.Step e e' ∧ Drawn config k' s' e' := by
  -- an accepted socket draws a number, a completed WebSocket handshake enters it; nothing else counts
  cases step_moves hstep with
  | acceptError => exact ⟨k, Nat.le_add_right _ _, e, .keep e, h.of_flow _ s.ended⟩
  | accept peer =>
      obtain ⟨k', hk', h'⟩ := (h.of_flow (s.accepting - 1) s.ended).onAccept hk peer
      exact ⟨k', hk', e, .keep e, h'⟩
  | sslFailed _ | wsFailed _ _ => exact ⟨k, Nat.le_add_right _ _, e, .keep e, h.eraseIdx _⟩
  | wsDone hi uninit =>
      obtain ⟨e', he', h'⟩ := h.register (le_trans (Nat.le_add_right _ _) hk) hi uninit
      exact ⟨k, Nat.le_add_right _ _, e', he', h'⟩
  | frame hsession now hdr payload stuck ended =>
      obtain ⟨b, hb⟩ := handlePacket_fields deps now _ hdr payload
      exact ⟨k, Nat.le_add_right _ _, e, .keep e, h.onFrame hsession (by rw [hb]) _ _⟩
  | tunPacket data ended => exact ⟨k, Nat.le_add_right _ _, e, .keep e, h.of_flow s.accepting ended⟩
  | sslDone _ | stop => exact ⟨k, Nat.le_add_right _ _, e, .keep e, h.of_flow s.accepting true⟩

theorem drawn_of_run {es : List Event} (hrun : run (step deps) (Server.init config) es = some s)
    (haccepts : accepts es ≤ 2 ^ 32) : ∃ k ≤ accepts es, ∃ e, Drawn config k s e := by
  have hhistory : accepts es ≤ 2 ^ 32 → ∃ k ≤ accepts es, ∃ e, Drawn config k s e := by
    apply run_history' (J := fun es s => accepts es ≤ 2 ^ 32 →
      ∃ k ≤ accepts es, ∃ e, Drawn config k s e) _ _ hrun
    · intro es s ev s' ih hstep hle
      rw [accepts_append] at hle ⊢
      obtain ⟨k, hk, e, h⟩ := ih (le_trans (Nat.le_add_right _ _) hle)
      obtain ⟨k', hk', e', -, h'⟩ :=
        step_refines h (le_trans (Nat.add_le_add_right hk _) hle) hstep
      exact ⟨k', le_trans hk' (Nat.add_le_add_right hk _), e', h'⟩
    · intro _
      exact ⟨0, Nat.zero_le _, ⊥, drawn_init⟩
  exact hhistory haccepts

theorem Represents.mutuallyInverse (h : Represents s e) : MutuallyInverse s where
  found := by
    intro sid session hsession
    have he : e sid = some session.virtualIpN := by
      rw [← h.sessions sid, hsession, Option.map_some]
    rw [h.addrs]
    exact PEquiv.eq_some_iff e |>.mpr he
  registered := by
    intro addr sid hsid
    rw [h.addrs] at hsid
    have he : e sid = some addr := PEquiv.eq_some_iff e |>.mp hsid
    rw [← h.sessions sid] at he
    exact Option.map_eq_some_iff.mp he

/-- **The routing tables stay mutually inverse** over every run with at most `2 ^ 32` accepted
    connections, and no registration overwrites an entry of either map. -/
theorem tables_mutually_inverse {es : List Event}
    (hrun : run (step deps) (Server.init config) es = some s) (haccepts : accepts es ≤ 2 ^ 32) :
    MutuallyInverse s ∧
      ∀ i uninit s', step deps s (.wsAccept i true uninit) = some s' →
        (∀ sid session, s.sessions sid = some session → s'.sessions sid = some session) ∧
          ∀ addr sid, s.ipToSession addr = some sid → s'.ipToSession addr = some sid := by
  obtain ⟨k, hk, e, h⟩ := drawn_of_run hrun haccepts
  refine ⟨h.represents.mutuallyInverse, ?_⟩
  intro i uninit s' hstep
  obtain ⟨sid₀, clientIp, hi, rfl⟩ := onWsAccept_cases (step_handle hstep)
  obtain ⟨e', hstep', h'⟩ := h.register (le_trans hk haccepts) hi uninit
  constructor
  · intro sid session hsession
    have hne : sid ≠ sid₀ := by
      rintro rfl
      rw [h.unregistered (List.mem_of_getElem? hi)] at hsession
      exact absurd hsession (by simp)
    show Function.update s.sessions sid₀ _ sid = _
    rw [Function.update_of_ne hne]
    exact hsession
  · intro addr sid hsid
    rw [h.represents.addrs] at hsid
    rw [if_pos rfl, h'.represents.addrs]
    exact PEquiv.eq_some_iff e' |>.mpr (hstep'.le sid addr (PEquiv.eq_some_iff e |>.mp hsid))

/-- Two connections; the second one completes its handshake first. -/
def twoConnections : List Event :=
  [.accept .alive, .accept .alive, .wsAccept 1 true 0, .wsAccept 0 true 0]

theorem tables_mutually_inverse_two :
    ∃ s, run (step (Deps.table [])) (Server.init plainConfig) twoConnections = some s ∧
      (s.sessions 1).isSome = true ∧ (s.sessions 2).isSome = true ∧ MutuallyInverse s := by
  have hrun : (run (step (Deps.table [])) (Server.init plainConfig) twoConnections).any
      (fun s => (s.sessions 1).isSome && (s.sessions 2).isSome) = true := by decide +kernel
  obtain ⟨s, hs, hboth⟩ := Option.any_eq_true _ _ |>.mp hrun
  rw [Bool.and_eq_true] at hboth
  exact ⟨s, hs, hboth.1, hboth.2, (tables_mutually_inverse hs (by decide)).1⟩

end Server
end Kirdi
