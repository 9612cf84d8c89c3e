import Kirdi.Tun.Descriptors

/-!
# `Tun.Usage` — how the client and the server use their device

Both keep their device in a `unique_ptr`. A device is opened right after it has been created, and the assignment
of a new one destroys the one before it; an error of the transport closes the device and resets the pointer,
`stop` only closes it. So `open` meets closed devices alone, and a process has one TUN interface at most, however
often the client logs in, loses its connection and starts over (`one_interface`).
-/

set_option linter.dupNamespace false

namespace Kirdi
namespace Tun

open EventMachine
open Client (Platform)

/-- `create_tun_device` and `open` of a platform. -/
inductive OpenCall where
  | linux (config : TunConfig) (env : LinuxEnv)
  | macos (config : TunConfig) (env : MacEnv)

def OpenCall.platform : OpenCall → Platform
  | .linux _ _ => .linux
  | .macos _ _ => .macos

def OpenCall.event (i : ℕ) : OpenCall → Event
  | .linux config env => .openLinux i config env
  | .macos config env => .openMac i config env

/-- What is done with `tun_`. -/
inductive Use where
  | renew (call : OpenCall)                          -- `tun_ = create_tun_device(); tun_->open(…)`
  | close                                            -- `if (tun_) tun_->close()`
  | reset                                            -- `tun_.reset()`, or the end of the owner
  | read (fails : Bool)
  | write (data : Bytes) (outcome : Option Errno)
  | arrive (packet : Bytes)
  | openOther (n : ℕ)
  | closeOther (n : ℕ)

/-- `tun_`, and how many devices were created so far. -/
structure Slot where
  tun     : Option ℕ
  created : ℕ

def Slot.empty : Slot := ⟨none, 0⟩

/-- A method of the device, if there is one. -/
def Slot.call (s : Slot) (method : ℕ → Event) : List Event := s.tun.toList.map method

/-- The calls that a use comes to. -/
def Use.events (s : Slot) : Use → List Event
  | .renew call => .create call.platform :: (s.call .destroy ++ [call.event s.created])
  | .close => s.call .close
  | .reset => s.call .destroy
  | .read fails => s.call (.read · fails)
  | .write data outcome => s.call (.write · data outcome)
  | .arrive packet => s.call (.arrive · packet)
  | .openOther n => [.openOther n]
  | .closeOther n => [.closeOther n]

def Use.next (s : Slot) : Use → Slot
  | .renew _ => ⟨some s.created, s.created + 1⟩
  | .reset => { s with tun := none }
  | _ => s

/-- The slot after some uses, and the calls they come to. -/
def slotAfter (s : Slot) (us : List Use) : Slot := us.foldl Use.next s

def callsOf (s : Slot) : List Use → List Event
  | [] => []
  | u :: us => u.events s ++ callsOf (u.next s) us

variable {p p' : Process} {s : Slot} {u : Use} {us : List Use} {i : ℕ} {d : Device} {call : OpenCall}

/-! ## The slot -/

/-- The device of the slot is the only one, and none was lost. -/
structure Owns (s : Slot) (p : Process) : Prop where
  only    : ∀ i d, p.device i = some d → s.tun = some i
  created : p.devices.length = s.created
  kept    : p.leaked = []

theorem owns_start : Owns Slot.empty Process.start :=
  ⟨fun i d h => absurd h (by simp [Process.device, Process.start]), rfl, rfl⟩

/-- A call on the device that leaves it in its place. -/
theorem Owns.of_places (h : Owns s p) (hplaces : ∀ i d, p'.device i = some d → ∃ d', p.device i = some d')
    (hlength : p'.devices.length = p.devices.length) (hleaked : p'.leaked = p.leaked) : Owns s p' := by
  refine ⟨fun i d hi => ?_, hlength.trans h.created, hleaked.trans h.kept⟩
  obtain ⟨d', hi'⟩ := hplaces i d hi
  exact h.only i d' hi'

/-- Every other call leaves the devices in their places. -/
theorem Owns.of_step {e : Event} (h : Owns s p) (hstep : step p e = some p')
    (hcalm : ∀ platform, e ≠ .create platform) (hclosed : OpensClosed p e) : Owns s p' := by
  have hset : ∀ {i d k x}, p.device i = some d → ∀ j d', (p.setDevice i k x).device j = some d' →
      ∃ d'', p.device j = some d'' := by
    intro i d k x hi j d' hj
    rw [device_setDevice hi] at hj
    rcases update_cases hj with ⟨rfl, -⟩ | ⟨-, hj⟩
    · exact ⟨d, hi⟩
    · exact ⟨d', hj⟩
  have hleaked := leaked_step hclosed hstep
  cases e with
  | create platform => exact absurd rfl (hcalm platform)
  | openLinux i config env | openMac i config env =>
      obtain ⟨d, hd, hstep⟩ := Option.bind_eq_some_iff.mp hstep
      obtain ⟨-, hstep⟩ := Option.ite_none_right_eq_some.mp hstep
      obtain ⟨⟨k, d', result⟩, -, rfl⟩ := Option.map_eq_some_iff.mp hstep
      exact h.of_places (hset (k := k) (x := some d') hd) (List.length_set ..) hleaked
  | close i =>
      obtain ⟨d, hd, rfl⟩ := Option.map_eq_some_iff.mp hstep
      exact h.of_places (hset hd) (List.length_set ..) hleaked
  | destroy i =>
      obtain ⟨d, hd, rfl⟩ := Option.map_eq_some_iff.mp hstep
      exact h.of_places (hset hd) (List.length_set ..) hleaked
  | read | write | openOther =>
      obtain ⟨_, -, rfl⟩ := Option.map_eq_some_iff.mp hstep
      exact h.of_places (fun _ d hi => ⟨d, hi⟩) rfl hleaked
  | arrive =>
      obtain ⟨_, -, hstep⟩ := Option.bind_eq_some_iff.mp hstep
      obtain ⟨_, -, hstep⟩ := Option.bind_eq_some_iff.mp hstep
      obtain ⟨_, -, rfl⟩ := Option.map_eq_some_iff.mp hstep
      exact h.of_places (fun _ d hi => ⟨d, hi⟩) rfl hleaked
  | closeOther =>
      obtain ⟨-, hstep⟩ := Option.ite_none_right_eq_some.mp hstep
      obtain rfl := Option.some.inj hstep
      exact h.of_places (fun _ d hi => ⟨d, hi⟩) rfl hleaked

/-! ## Uses -/

/-- The destructor takes the device of the slot away and no other. -/
theorem run_destroy (hrun : run step p (s.call .destroy) = some p') :
    (∀ i d, p'.device i = some d → p.device i = some d ∧ s.tun ≠ some i) ∧
      p'.devices.length = p.devices.length ∧ p'.leaked = p.leaked := by
  unfold Slot.call at hrun
  cases hslot : s.tun with
  | none =>
      rw [hslot] at hrun
      obtain rfl := Option.some.inj hrun
      exact ⟨fun i d hi => ⟨hi, by simp⟩, rfl, rfl⟩
  | some i =>
      rw [hslot] at hrun
      obtain ⟨p₁, hstep, hend⟩ := run_cons.mp hrun
      obtain rfl := Option.some.inj hend
      obtain ⟨d, hd, rfl⟩ := Option.map_eq_some_iff.mp hstep
      refine ⟨fun j d' hj => ?_, List.length_set .., rfl⟩
      rw [device_setDevice hd] at hj
      rcases update_cases hj with ⟨-, hnone⟩ | ⟨hne, hj⟩
      · exact absurd hnone (by simp)
      · exact ⟨hj, fun h => hne (Option.some.inj h).symm⟩

theorem Owns.destroyed (h : Owns s p) (hrun : run step p (s.call .destroy) = some p') :
    Owns { s with tun := none } p' := by
  obtain ⟨hothers, hlength, hleaked⟩ := run_destroy hrun
  refine ⟨fun i d hi => ?_, hlength.trans h.created, hleaked.trans h.kept⟩
  obtain ⟨hi, hother⟩ := hothers i d hi
  exact absurd (h.only i d hi) hother

/-- **A new device takes the place of the old one.** It is created first; the assignment destroys the old one; then
    the new one is opened, closed as it is. -/
theorem Owns.renewed (h : Owns s p) (hrun : run step p ((Use.renew call).events s) = some p') :
    Owns ((Use.renew call).next s) p' := by
  obtain ⟨p₁, hcreate, hrun⟩ := run_cons.mp hrun
  obtain rfl := Option.some.inj hcreate
  obtain ⟨p₂, hdestroy, hrun⟩ := run_append.mp hrun
  obtain ⟨p₃, hopen, hend⟩ := run_cons.mp hrun
  obtain rfl := Option.some.inj hend
  obtain ⟨hothers, hlength, hleaked⟩ := run_destroy hdestroy
  -- once the old one is gone there is only the new one, which is closed
  have hnew : ∀ i d, p₂.device i = some d → i = s.created ∧ d.fd = none := by
    intro i d hi
    obtain ⟨hi, hother⟩ := hothers i d hi
    rw [device_push, h.created] at hi
    rcases update_cases hi with ⟨hplace, hd⟩ | ⟨-, hi⟩
    · cases hd
      exact ⟨hplace, rfl⟩
    · exact absurd (h.only i d hi) hother
  have howns : Owns ((Use.renew call).next s) p₂ := by
    refine ⟨fun i d hi => congrArg some (hnew i d hi).1.symm, hlength.trans ?_, hleaked.trans h.kept⟩
    show (p.devices ++ [some (Device.create call.platform)]).length = s.created + 1
    rw [List.length_append, h.created, List.length_singleton]
  have hclosed : (p₂.device s.created).bind Device.fd = none := by
    cases hdevice : p₂.device s.created with
    | none => rfl
    | some d => exact (hnew _ d hdevice).2
  cases call with
  | linux config env => exact howns.of_step hopen (by simp [OpenCall.event]) hclosed
  | macos config env => exact howns.of_step hopen (by simp [OpenCall.event]) hclosed

/-- A method that is called on the device of the slot. -/
theorem Owns.called (h : Owns s p) {method : ℕ → Event} (hrun : run step p (s.call method) = some p')
    (hcalm : ∀ i platform, method i ≠ .create platform) (hclosed : ∀ i q, OpensClosed q (method i)) :
    Owns s p' := by
  unfold Slot.call at hrun
  cases hslot : s.tun with
  | none =>
      rw [hslot] at hrun
      obtain rfl := Option.some.inj hrun
      exact h
  | some i =>
      rw [hslot] at hrun
      obtain ⟨p₁, hstep, hend⟩ := run_cons.mp hrun
      obtain rfl := Option.some.inj hend
      exact h.of_step hstep (hcalm i) (hclosed i p)

/-- **Every use keeps the slot.** -/
theorem owns_use (h : Owns s p) (hrun : run step p (u.events s) = some p') : Owns (u.next s) p' := by
  cases u with
  | renew call => exact h.renewed hrun
  | reset => exact h.destroyed hrun
  | close => exact h.called hrun (by simp) fun _ _ => trivial
  | read fails => exact h.called hrun (by simp) fun _ _ => trivial
  | write data outcome => exact h.called hrun (by simp) fun _ _ => trivial
  | arrive packet => exact h.called hrun (by simp) fun _ _ => trivial
  | openOther n | closeOther n =>
      obtain ⟨p₁, hstep, hend⟩ := run_cons.mp hrun
      obtain rfl := Option.some.inj hend
      exact h.of_step hstep (by simp) trivial

theorem owns_run (h : Owns s p) (hrun : run step p (callsOf s us) = some p') : Owns (slotAfter s us) p' := by
  induction us generalizing s p with
  | nil =>
      obtain rfl := Option.some.inj hrun
      exact h
  | cons u us ih =>
      obtain ⟨p₁, huse, hrest⟩ := run_append.mp hrun
      exact ih (owns_use h huse) hrest

/-- **One interface at most.** However often the client or the server renews its device, closes it and resets it,
    whatever the system calls return: no descriptor is lost or closed twice, the process has at most one TUN
    descriptor at any time, and none once the pointer is reset. -/
theorem one_interface (hrun : run step Process.start (callsOf Slot.empty us) = some p) :
    p.leaked = [] ∧ p.kernel.foreignCloses = 0 ∧
      (∀ n m file file', p.kernel.files n = some (.tun file) → p.kernel.files m = some (.tun file') → n = m) ∧
      ((slotAfter Slot.empty us).tun = none → ∀ n file, p.kernel.files n ≠ some (.tun file)) := by
  have howns := owns_run owns_start hrun
  have haccounted := accounted_of_run hrun
  have hheld : ∀ n file, p.kernel.files n = some (.tun file) →
      ∃ i d, p.device i = some d ∧ d.fd = some n ∧ (slotAfter Slot.empty us).tun = some i := by
    intro n file hfile
    rcases haccounted.held n file hfile with ⟨i, d, hi, hn⟩ | hlost
    · exact ⟨i, d, hi, hn, howns.only i d hi⟩
    · rw [howns.kept] at hlost
      exact absurd hlost List.not_mem_nil
  refine ⟨howns.kept, haccounted.own, fun n m file file' hn hm => ?_, fun hreset n file hfile => ?_⟩
  · obtain ⟨i, d, hi, hdn, hslot⟩ := hheld n file hn
    obtain ⟨j, d', hj, hdm, hslot'⟩ := hheld m file' hm
    cases hslot.symm.trans hslot'
    cases hi.symm.trans hj
    exact Option.some.inj (hdn.symm.trans hdm)
  · obtain ⟨i, -, -, -, hslot⟩ := hheld n file hfile
    rw [hreset] at hslot
    exact absurd hslot (by simp)

/-- Logged in twice in a row, then an error of the transport. -/
theorem one_interface_twice :
    ∃ p, run step Process.start (callsOf Slot.empty
        [.renew (.linux sampleConfig (workingLinux 3 4)), .renew (.linux sampleConfig (workingLinux 4 5)), .close,
          .reset]) = some p ∧
      ∀ n file, p.kernel.files n ≠ some (.tun file) := by
  have hsome : (run step Process.start (callsOf Slot.empty
      [.renew (.linux sampleConfig (workingLinux 3 4)), .renew (.linux sampleConfig (workingLinux 4 5)), .close,
        .reset])).isSome = true := by decide +kernel
  obtain ⟨p, hrun⟩ := Option.isSome_iff_exists.mp hsome
  exact ⟨p, hrun, (one_interface hrun).2.2.2 rfl⟩

end Tun
end Kirdi
