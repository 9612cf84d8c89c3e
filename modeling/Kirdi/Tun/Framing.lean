import Kirdi.Tun.Descriptors

/-!
# `Tun.Framing` — packets through the devices

What the program gets out of a device are the packets that came in, in their order and each cut to the buffer;
what the kernel has taken are the packets that `write_packet` has put into a frame for it. This holds of both devices, with the
address family in front of every packet or without (`packets_through`).

A packet that fits is not cut. The Linux device adds the room for oversized packets in 32 bits, so that for the
largest MTUs its buffer would be smaller than a packet; the macOS device adds it in 64.
-/

set_option linter.dupNamespace false

namespace Kirdi
namespace Tun

open EventMachine
open Client (Platform)

/-- How much of a packet `read_packet` returns. -/
def readable (platform : Platform) (mtu : UInt32) : ℕ :=
  match platform with
  | .linux => (mtu + 64).toNat
  | .macos => mtu.toNat + 64

variable {platform : Platform} {mtu : UInt32} {packet data frame : Bytes} {k : Kernel} {n : ℕ} {d : Device}
  {file : TunFile} {p p' : Process} {e : Event} {es : List Event} {i : ℕ}

/-! ## Frames -/

theorem familyHeader_length {header : Bytes} (h : familyHeader packet = some header) : header.length = 4 := by
  unfold familyHeader at h
  split at h
  · rw [← Option.some.inj h]
    rfl
  · split at h
    · rw [← Option.some.inj h]
      rfl
    · exact absurd h (by simp)

/-- An empty packet has no family. -/
theorem ne_nil_of_familyHeader {header : Bytes} (h : familyHeader packet = some header) : packet ≠ [] := by
  have hnone : familyHeader [] = none := by decide
  rintro rfl
  rw [hnone] at h
  exact absurd h (by simp)

/-- **Reading undoes framing**, as far as the buffer goes. -/
theorem unframe_take (h : frameOf platform packet = some frame) :
    unframe platform (frame.take (bufferSize platform mtu)) = packet.take (readable platform mtu) := by
  cases platform with
  | linux =>
      obtain rfl := Option.some.inj h
      rfl
  | macos =>
      obtain ⟨header, hheader, rfl⟩ := Option.map_eq_some_iff.mp h
      have hlen := familyHeader_length hheader
      have hpos : 0 < packet.length := List.length_pos_iff.mpr (ne_nil_of_familyHeader hheader)
      have htake : (header ++ packet).take (mtu.toNat + 4 + 64) = header ++ packet.take (mtu.toNat + 64) := by
        rw [List.take_append, List.take_of_length_le (by omega), hlen]
        rfl
      show (if ((header ++ packet).take (mtu.toNat + 4 + 64)).length ≤ 4 then []
        else ((header ++ packet).take (mtu.toNat + 4 + 64)).drop 4) = packet.take (mtu.toNat + 64)
      rw [htake, if_neg, List.drop_left' hlen]
      rw [List.length_append, List.length_take, hlen]
      omega

/-- What is written is framed as what comes in is. -/
theorem frameOf_of_write (h : frameToWrite platform data = .ok frame) : frameOf platform data = some frame := by
  cases platform with
  | linux => exact congrArg some (Except.ok.inj h)
  | macos =>
      unfold frameToWrite at h
      dsimp only at h
      by_cases hempty : data.length = 0
      · rw [if_pos hempty] at h
        exact absurd h (by simp)
      · rw [if_neg hempty] at h
        cases hheader : familyHeader data with
        | none =>
            rw [hheader] at h
            exact absurd h (by simp)
        | some header =>
            rw [hheader] at h
            unfold frameOf
            rw [hheader, ← Except.ok.inj h]
            rfl

/-! ## The packets of a descriptor -/

/-- The packets that came in were read in order, each cut to the buffer, or wait; those that were written went out
    framed. -/
def Through (d : Device) (file : TunFile) : Prop :=
  (∃ taken rest, file.delivered = taken ++ rest ∧
    file.received = taken.map (fun packet => packet.take (readable d.platform d.mtu)) ∧
    rest.map (frameOf d.platform) = file.queue.map some) ∧
  file.sent.map (frameOf d.platform) = file.handed.map some

theorem through_fresh (d : Device) (iface : Iface) (config : TunConfig) :
    Through d { TunFile.fresh with iface := some iface, opened := some config } :=
  ⟨⟨[], [], rfl, rfl, rfl⟩, rfl⟩

theorem Through.arrive (h : Through d file) (hframe : frameOf d.platform packet = some frame) :
    Through d { file with queue := file.queue ++ [frame], delivered := file.delivered ++ [packet] } := by
  obtain ⟨⟨taken, rest, hdelivered, hreceived, hqueue⟩, hsent⟩ := h
  refine ⟨⟨taken, rest ++ [packet], ?_, hreceived, ?_⟩, hsent⟩
  · show file.delivered ++ [packet] = _
    rw [hdelivered, List.append_assoc]
  · rw [List.map_append, List.map_append, hqueue, List.map_singleton, List.map_singleton, hframe]

theorem Through.read (h : Through d file) {rest : List Bytes} (hqueue : file.queue = frame :: rest) :
    Through d { file with
      queue := rest
      received := file.received ++ [unframe d.platform (frame.take (bufferSize d.platform d.mtu))] } := by
  obtain ⟨⟨taken, waiting, hdelivered, hreceived, hframes⟩, hsent⟩ := h
  rw [hqueue] at hframes
  cases waiting with
  | nil => exact absurd hframes (by simp)
  | cons packet waiting =>
      obtain ⟨hframe, hframes⟩ := List.cons_eq_cons.mp hframes
      refine ⟨⟨taken ++ [packet], waiting, ?_, ?_, hframes⟩, hsent⟩
      · show file.delivered = _
        rw [hdelivered, List.append_assoc]
        rfl
      · show file.received ++ _ = _
        rw [hreceived, List.map_append, List.map_singleton, unframe_take hframe]

theorem Through.write (h : Through d file) (hframe : frameToWrite d.platform data = .ok frame) :
    Through d { file with handed := file.handed ++ [frame], sent := file.sent ++ [data] } := by
  obtain ⟨hread, hsent⟩ := h
  refine ⟨hread, ?_⟩
  show (file.sent ++ [data]).map _ = (file.handed ++ [frame]).map some
  rw [List.map_append, List.map_append, hsent, List.map_singleton, List.map_singleton, frameOf_of_write hframe]

/-! ## Runs -/

/-- Every open device has its packets in order. -/
def AllThrough (k : Kernel) (dev : ℕ → Option Device) : Prop :=
  ∀ i d n file, dev i = some d → d.fd = some n → k.files n = some (.tun file) → Through d file

variable {dev : ℕ → Option Device} {leaked : List ℕ} {d' : Device} {k' : Kernel} {r : Except TunError Unit}

/-- A device that has no descriptor changes nothing. -/
theorem AllThrough.update (h : AllThrough k dev) {x : Option Device} (hx : ∀ d, x = some d → d.fd = none) :
    AllThrough k (Function.update dev i x) := by
  intro j d n file hj hn hfile
  rcases update_cases hj with ⟨-, hself⟩ | ⟨-, hj⟩
  · rw [hx d hself] at hn
    exact absurd hn (by simp)
  · exact h j d n file hj hn hfile

/-- Descriptors that are taken away matter to nobody. -/
theorem AllThrough.of_files (h : AllThrough k dev)
    (hfiles : ∀ n file, k'.files n = some (.tun file) → k.files n = some (.tun file)) : AllThrough k' dev :=
  fun i d n file hi hn hfile => h i d n file hi hn (hfiles n file hfile)

/-- A call on device `i` changes its packets. -/
theorem AllThrough.modify (h : AllThrough k dev) (haccounted : Accounted k dev leaked) (hi : dev i = some d)
    (hn : d.fd = some n) {change : TunFile → TunFile}
    (hchange : ∀ file, k.files n = some (.tun file) → Through d file → Through d (change file)) :
    AllThrough (k.modifyTun n change) dev := by
  obtain ⟨file, -, -, hfile, -⟩ := haccounted.attached i d n hi hn
  have heq : k.modifyTun n change = k.put n (.tun (change file)) := by
    unfold Kernel.modifyTun
    rw [hfile]
  rw [heq]
  intro j d' m file' hj hm hfile'
  by_cases hmn : m = n
  · subst hmn
    -- no other device has the descriptor
    obtain rfl := haccounted.distinct i j d d' m hi hj hn hm
    cases hi.symm.trans hj
    rw [files_put_self] at hfile'
    cases hfile'
    exact hchange file hfile (h i d m file hi hn hfile)
  · rw [files_put_of_ne hmn] at hfile'
    exact h j d' m file' hj hm hfile'

theorem AllThrough.opened (h : AllThrough k dev) (haccounted : Accounted k dev leaked) {config : TunConfig}
    (hopened : Opened k d config k' d' r) : AllThrough k' (Function.update dev i (some d')) := by
  cases hopened with
  | failed hfd _ =>
      refine h.update fun d hd => ?_
      cases hd
      exact hfd
  | @opened _ n iface hfree hfd =>
      intro j d₁ m file hj hm hfile
      rcases update_cases hj with ⟨-, hself⟩ | ⟨-, hj⟩
      · cases hself
        cases hfd.symm.trans hm
        rw [files_put_self] at hfile
        cases hfile
        exact through_fresh d' iface config
      · have hmn : m ≠ n := by
          rintro rfl
          obtain ⟨file', -, -, hfile', -⟩ := haccounted.attached j d₁ m hj hm
          rw [hfree] at hfile'
          exact absurd hfile' (by simp)
        rw [files_put_of_ne hmn] at hfile
        exact h j d₁ m file hj hm hfile

theorem AllThrough.closed (h : AllThrough k dev) {x : Option Device} (hx : ∀ d, x = some d → d.fd = none) :
    AllThrough (d.close k).1 (Function.update dev i x) := by
  refine (h.update hx).of_files fun m file hfile => ?_
  unfold Device.close at hfile
  cases hfd : d.fd with
  | none =>
      rw [hfd] at hfile
      exact hfile
  | some n =>
      rw [hfd] at hfile
      have hupdate : Function.update k.files n none m = some (.tun file) := hfile
      by_cases hmn : m = n
      · subst hmn
        rw [Function.update_self] at hupdate
        exact absurd hupdate (by simp)
      · rwa [Function.update_of_ne hmn] at hupdate

/-- **Every event keeps the packets in order.** -/
theorem allThrough_step (h : AllThrough p.kernel p.device) (haccounted : Accounted p.kernel p.device p.leaked)
    (hstep : step p e = some p') : AllThrough p'.kernel p'.device := by
  cases e with
  | create platform =>
      obtain rfl := Option.some.inj hstep
      rw [device_push]
      refine h.update fun d hd => ?_
      cases hd
      rfl
  | openLinux i config env =>
      obtain ⟨d, hd, hstep⟩ := Option.bind_eq_some_iff.mp hstep
      obtain ⟨-, hstep⟩ := Option.ite_none_right_eq_some.mp hstep
      obtain ⟨⟨k, d', result⟩, hopen, rfl⟩ := Option.map_eq_some_iff.mp hstep
      have hopened := h.opened (i := i) haccounted (linuxOpen_opened hopen)
      rwa [← device_setDevice hd k] at hopened
  | openMac i config env =>
      obtain ⟨d, hd, hstep⟩ := Option.bind_eq_some_iff.mp hstep
      obtain ⟨hmacos, hstep⟩ := Option.ite_none_right_eq_some.mp hstep
      obtain ⟨⟨k, d', result⟩, hopen, rfl⟩ := Option.map_eq_some_iff.mp hstep
      have hopened := h.opened (i := i) haccounted (macOpen_opened hmacos hopen)
      rwa [← device_setDevice hd k] at hopened
  | close i =>
      obtain ⟨d, hd, rfl⟩ := Option.map_eq_some_iff.mp hstep
      have hclosed := h.closed (d := d) (i := i) (x := some (d.close p.kernel).2) fun d' hd' => by
        cases hd'
        exact close_fd p.kernel d
      rw [← device_setDevice hd (d.close p.kernel).1] at hclosed
      exact hclosed
  | destroy i =>
      obtain ⟨d, hd, rfl⟩ := Option.map_eq_some_iff.mp hstep
      have hclosed := h.closed (d := d) (i := i) (x := none) fun d' hd' => by cases hd'
      rw [← device_setDevice hd (d.close p.kernel).1] at hclosed
      exact hclosed
  | read i fails =>
      obtain ⟨d, hd, rfl⟩ := Option.map_eq_some_iff.mp hstep
      show AllThrough (d.readPacket p.kernel fails).1 p.device
      unfold Device.readPacket
      cases hfd : d.fd with
      | none => exact h
      | some n =>
          dsimp only
          split
          · rename_i file hfile
            split
            · exact h
            · split
              · exact h
              · rename_i frame rest hqueue
                refine h.modify haccounted hd hfd fun file' hfile' hthrough => ?_
                cases hfile.symm.trans hfile'
                exact hthrough.read hqueue
          · exact h
  | write i data outcome =>
      obtain ⟨d, hd, rfl⟩ := Option.map_eq_some_iff.mp hstep
      show AllThrough (d.writePacket p.kernel data outcome).1 p.device
      unfold Device.writePacket
      split
      · exact h
      · rename_i frame hframe
        split
        · exact h
        · rename_i n hfd
          split
          · exact h
          · exact h
          · exact h.modify haccounted hd hfd fun file _ hthrough => hthrough.write hframe
  | arrive i packet =>
      obtain ⟨d, hd, hstep⟩ := Option.bind_eq_some_iff.mp hstep
      obtain ⟨n, hfd, hstep⟩ := Option.bind_eq_some_iff.mp hstep
      obtain ⟨frame, hframe, rfl⟩ := Option.map_eq_some_iff.mp hstep
      exact h.modify haccounted hd hfd fun file _ hthrough => hthrough.arrive hframe
  | openOther n =>
      obtain ⟨k, halloc, rfl⟩ := Option.map_eq_some_iff.mp hstep
      obtain ⟨hfree, rfl⟩ := alloc_eq_some.mp halloc
      refine h.of_files fun m file hfile => ?_
      by_cases hmn : m = n
      · subst hmn
        rw [files_put_self] at hfile
        exact absurd hfile (by simp)
      · rwa [files_put_of_ne hmn] at hfile
  | closeOther n =>
      obtain ⟨-, hstep⟩ := Option.ite_none_right_eq_some.mp hstep
      obtain rfl := Option.some.inj hstep
      refine h.of_files fun m file hfile => ?_
      have hupdate : Function.update p.kernel.files n none m = some (.tun file) := hfile
      by_cases hmn : m = n
      · subst hmn
        rw [Function.update_self] at hupdate
        exact absurd hupdate (by simp)
      · rwa [Function.update_of_ne hmn] at hupdate

theorem allThrough_of_run (hrun : run step Process.start es = some p) : AllThrough p.kernel p.device := by
  have hboth : Accounted p.kernel p.device p.leaked ∧ AllThrough p.kernel p.device := by
    refine run_invariant' (I := fun p => Accounted p.kernel p.device p.leaked ∧ AllThrough p.kernel p.device)
      (fun p e p' h hstep => ⟨accounted_step h.1 hstep, allThrough_step h.2 h.1 hstep⟩)
      ⟨accounted_start, fun i d n file hi _ _ => ?_⟩ hrun
    exact absurd hi (by simp [Process.device, Process.start])
  exact hboth.2

/-- **Packets through a device**, on either platform and whatever the system calls return: those that came in were
    read in order, each cut to what the buffer has room for, and the others wait; the frames that the kernel has
    taken are those of the packets that `write_packet` has put into them, in order. Packets that fit were read as they
    came in. -/
theorem packets_through (hrun : run step Process.start es = some p) (hi : p.device i = some d) (hn : d.fd = some n)
    (hfile : p.kernel.files n = some (.tun file)) :
    (∃ taken rest, file.delivered = taken ++ rest ∧
      file.received = taken.map (fun packet => packet.take (readable d.platform d.mtu)) ∧
      rest.map (frameOf d.platform) = file.queue.map some) ∧
    file.sent.map (frameOf d.platform) = file.handed.map some ∧
    ((∀ packet ∈ file.delivered, packet.length ≤ readable d.platform d.mtu) → file.received <+: file.delivered) := by
  obtain ⟨⟨taken, rest, hdelivered, hreceived, hqueue⟩, hsent⟩ := allThrough_of_run hrun i d n file hi hn hfile
  refine ⟨⟨taken, rest, hdelivered, hreceived, hqueue⟩, hsent, fun hfit => ?_⟩
  have hwhole : taken.map (fun packet => packet.take (readable d.platform d.mtu)) = taken := by
    refine (List.map_congr_left fun packet hpacket => ?_).trans (List.map_id taken)
    refine List.take_of_length_le (hfit packet ?_)
    rw [hdelivered]
    exact List.mem_append_left _ hpacket
  rw [hreceived, hwhole, hdelivered]
  exact List.prefix_append _ _

/-- An IPv4 packet comes in through utun and is read, an IPv6 packet is written; a packet of neither kind is not. -/
def eachWay : List Event :=
  [.create .macos, .openMac 0 sampleConfig ⟨some 3, true, true, true, ascii "utun4", fun _ => true, 0, false⟩,
    .arrive 0 [0x45, 1, 2], .read 0 false, .write 0 [0x60, 7] none, .write 0 [0x10, 7] none]

theorem packets_through_eachWay :
    ∃ p file, run step Process.start eachWay = some p ∧ p.kernel.files 3 = some (.tun file) ∧
      file.received = [[0x45, 1, 2]] ∧ file.handed = [[0, 0, 0, 30, 0x60, 7]] ∧
      file.sent.map (frameOf .macos) = file.handed.map some ∧ file.received <+: file.delivered := by
  have hfacts : (run step Process.start eachWay).any (fun p =>
      p.device 0 = some ⟨.macos, some 3, ascii "utun4", 1400⟩ ∧
        p.kernel.files 3 = some (.tun ⟨some ⟨ascii "utun4", 0, 0, 1400, true⟩, [], [[0, 0, 0, 30, 0x60, 7]],
          [[0x45, 1, 2]], [[0x45, 1, 2]], [[0x60, 7]], some sampleConfig⟩)) = true := by decide +kernel
  obtain ⟨p, hrun, hboth⟩ := Option.any_eq_true _ _ |>.mp hfacts
  obtain ⟨hdevice, hfile⟩ := of_decide_eq_true hboth
  obtain ⟨-, hsent, hwhole⟩ := packets_through hrun hdevice rfl hfile
  exact ⟨p, _, hrun, hfile, rfl, rfl, hsent, hwhole (by decide)⟩

end Tun
end Kirdi
