import Kirdi.Tun.Device

/-!
# `Tun.Descriptors` — what becomes of the descriptors

A process with any number of devices, and other code that opens and closes descriptors of its own. Whatever the
system calls return, an `open` ends in one of two ways: the device holds a new descriptor with its interface
configured (`Iface.Serves`), or everything is as before and the device is closed (`Opened`). Both devices keep to
this; what the shell makes of other than plain settings on macOS may leave the interface down.

So a device never closes what is not its own, borrowed sockets are given back, and the descriptors in use are
those of the open devices. The one way to lose a descriptor is to open a device that is open: `open` writes over
`fd_`. The code never does, as each `open` follows a `create_tun_device`.
-/

set_option linter.dupNamespace false

namespace Kirdi
namespace Tun

open Inet EventMachine
open Client (Platform)

/-! ## The table of descriptors -/

variable {k k' : Kernel} {n sock : ℕ} {f g : File} {file : TunFile} {d d' : Device} {config : TunConfig}
  {r : Except TunError Unit}

theorem alloc_eq_some : k.alloc n f = some k' ↔ k.files n = none ∧ k.put n f = k' := by
  unfold Kernel.alloc
  rw [Option.ite_none_right_eq_some, Option.some.injEq]

@[simp] theorem files_put_self : (k.put n f).files n = some f := Function.update_self _ _ _

theorem files_put_of_ne {m : ℕ} (h : m ≠ n) : (k.put n f).files m = k.files m := Function.update_of_ne h _ _

theorem put_put (h : n ≠ sock) : (k.put n f).put sock g = (k.put sock g).put n f := by
  unfold Kernel.put
  rw [Function.update_comm h]

theorem put_idem : (k.put n f).put n g = k.put n g := by
  ext1
  · exact Function.update_idem _ _ _
  · rfl

/-- **Closing what was just opened** undoes it. -/
theorem close_put (hfree : k.files n = none) (hf : f ≠ .other) : (k.put n f).close n = k := by
  ext1
  · show Function.update (Function.update k.files n (some f)) n none = k.files
    rw [Function.update_idem, ← hfree, Function.update_eq_self]
  · unfold Kernel.close
    rw [files_put_self]
    cases f with
    | tun file => rfl
    | socket => rfl
    | other => exact absurd rfl hf

theorem modifyTun_put (h : TunFile → TunFile) : (k.put n (.tun file)).modifyTun n h = k.put n (.tun (h file)) := by
  unfold Kernel.modifyTun
  rw [files_put_self]
  exact put_idem

/-- The same while a socket is borrowed. -/
theorem modifyTun_under (hne : n ≠ sock) (h : TunFile → TunFile) :
    ((k.put n (.tun file)).put sock g).modifyTun n h = (k.put n (.tun (h file))).put sock g := by
  rw [put_put hne, modifyTun_put, put_put hne]

/-! ## Opening -/

/-- The interface as the Linux device configures it. -/
def Iface.configured (iface : Iface) (config : TunConfig) : Iface :=
  { iface with
    address := (inetPton (cStr config.address)).getD 0
    netmask := (inetPton (cStr config.netmask)).getD ((inetPton (cStr config.address)).getD 0)
    mtu := config.mtu
    up := true }

/-- **`configure_address`** gives its socket back; when it succeeds the interface is configured. -/
theorem configureAddress_spec {env : LinuxEnv} (h : configureAddress config env (k.put n (.tun file)) n = some (k', r)) :
    ∃ iface, k' = k.put n (.tun { file with iface := iface }) ∧
      (r = .ok () → iface = file.iface.map fun iface => iface.configured config) := by
  unfold configureAddress at h
  cases hsock : env.socket with
  | none =>
      simp only [hsock, Option.some.injEq, Prod.mk.injEq] at h
      obtain ⟨rfl, rfl⟩ := h
      exact ⟨file.iface, rfl, fun h => by cases h⟩
  | some sock =>
      simp only [hsock] at h
      obtain ⟨k₁, halloc, h⟩ := Option.map_eq_some_iff.mp h
      obtain ⟨hfree, rfl⟩ := alloc_eq_some.mp halloc
      have hne : n ≠ sock := by
        rintro rfl
        rw [files_put_self] at hfree
        exact absurd hfree (by simp)
      have hback : ∀ file', ((k.put n (.tun file')).put sock .socket).close sock = k.put n (.tun file') := by
        intro file'
        refine close_put ?_ (by simp)
        rwa [files_put_of_ne hne.symm] at hfree ⊢
      unfold Kernel.ioctl at h
      -- one failure after another; each gives the socket back
      split at h
      · obtain ⟨rfl, rfl⟩ := Prod.mk.inj h
        exact ⟨file.iface, hback _, fun h => by cases h⟩
      · rw [modifyTun_under hne] at h
        split at h
        · obtain ⟨rfl, rfl⟩ := Prod.mk.inj h
          exact ⟨_, hback _, fun h => by cases h⟩
        · rw [modifyTun_under hne] at h
          split at h
          · obtain ⟨rfl, rfl⟩ := Prod.mk.inj h
            exact ⟨_, hback _, fun h => by cases h⟩
          · rw [modifyTun_under hne] at h
            split at h
            · obtain ⟨rfl, rfl⟩ := Prod.mk.inj h
              exact ⟨_, hback _, fun h => by cases h⟩
            · split at h
              · obtain ⟨rfl, rfl⟩ := Prod.mk.inj h
                exact ⟨_, hback _, fun h => by cases h⟩
              · rw [modifyTun_under hne] at h
                obtain ⟨rfl, rfl⟩ := Prod.mk.inj h
                refine ⟨_, hback _, fun _ => ?_⟩
                cases file.iface <;> rfl

/-- The interface of a device that was opened with `config`: it has the device's name, and it is up with the MTU of
    the device, on Linux always and on macOS if the settings are plain. -/
structure Iface.Serves (iface : Iface) (d : Device) (config : TunConfig) : Prop where
  name  : iface.name = d.ifName
  mtu   : d.mtu = config.mtu
  linux : d.platform = .linux → iface = Iface.configured ⟨d.ifName, 0, 0, 1500, false⟩ config
  plain : d.platform = .linux ∨ plainSettings d.ifName config = true → iface.mtu = d.mtu ∧ iface.up = true

/-- The two ways in which `open` ends. -/
inductive Opened (k : Kernel) (d : Device) (config : TunConfig) : Kernel → Device → Except TunError Unit → Prop where
  | failed {d' : Device} {error : TunError} (hfd : d'.fd = none) (hplatform : d'.platform = d.platform) :
      Opened k d config k d' (.error error)
  | opened {d' : Device} {n : ℕ} {iface : Iface} (hfree : k.files n = none) (hfd : d'.fd = some n)
      (hplatform : d'.platform = d.platform) (hserves : iface.Serves d' config) :
      Opened k d config (k.put n (.tun { TunFile.fresh with iface := some iface, opened := some config })) d' (.ok ())

/-- **The Linux device opens or leaves no trace.** -/
theorem linuxOpen_opened {env : LinuxEnv} (h : linuxOpen config env k d = some (k', d', r)) :
    Opened k d config k' d' r := by
  unfold linuxOpen at h
  cases hopens : env.opens with
  | error errno =>
      simp only [hopens] at h
      cases h
      exact .failed rfl rfl
  | ok n =>
      simp only [hopens] at h
      obtain ⟨k₁, halloc, h⟩ := Option.bind_eq_some_iff.mp h
      obtain ⟨hfree, rfl⟩ := alloc_eq_some.mp halloc
      split at h
      · cases h
        rw [close_put hfree (by simp)]
        exact .failed rfl rfl
      · rw [modifyTun_put] at h
        obtain ⟨⟨k₂, result⟩, hconfigure, h⟩ := Option.map_eq_some_iff.mp h
        obtain ⟨iface, rfl, hconfigured⟩ := configureAddress_spec hconfigure
        cases result with
        | error error =>
            cases h
            rw [close_put hfree (by simp)]
            exact .failed rfl rfl
        | ok _ =>
            cases h
            rw [hconfigured rfl]
            exact .opened hfree rfl rfl ⟨rfl, rfl, fun _ => rfl, fun _ => ⟨rfl, rfl⟩⟩

theorem macConfigureAddress_spec {env : MacEnv} {ifName : Bytes}
    (h : macConfigureAddress config env (k.put n (.tun file)) n ifName = (k', r)) :
    ∃ iface, k' = k.put n (.tun { file with iface := iface }) ∧
      (r = .ok () → ∃ mtu up, iface = file.iface.map (fun iface => { iface with mtu := mtu, up := up }) ∧
        (plainSettings ifName config = true → mtu = config.mtu ∧ up = true)) := by
  unfold macConfigureAddress Kernel.ioctl at h
  dsimp only at h
  split at h
  · rw [modifyTun_put] at h
    cases h
    refine ⟨_, rfl, fun _ => ⟨_, _, rfl, fun hplain => ?_⟩⟩
    rw [if_pos hplain]
    exact ⟨rfl, rfl⟩
  · cases h
    exact ⟨file.iface, rfl, fun h => by cases h⟩

/-- **The macOS device does so, too.** -/
theorem macOpen_opened {env : MacEnv} (hmacos : d.platform = .macos)
    (h : macOpen config env k d = some (k', d', r)) : Opened k d config k' d' r := by
  unfold macOpen at h
  cases hsocket : env.socket with
  | none =>
      simp only [hsocket] at h
      cases h
      exact .failed rfl rfl
  | some n =>
      simp only [hsocket] at h
      obtain ⟨k₁, halloc, h⟩ := Option.map_eq_some_iff.mp h
      obtain ⟨hfree, rfl⟩ := alloc_eq_some.mp halloc
      rw [modifyTun_put, close_put hfree (by simp)] at h
      split at h
      · cases h
        exact .failed rfl rfl
      · split at h
        · cases h
          exact .failed rfl rfl
        · split at h
          · cases h
            exact .failed rfl rfl
          · -- the rest depends on `ifconfig`
            split at h
            · rename_i hconfigure
              obtain ⟨iface, rfl, -⟩ := macConfigureAddress_spec hconfigure
              cases h
              rw [close_put hfree (by simp)]
              exact .failed rfl rfl
            · rename_i hconfigure
              obtain ⟨iface, rfl, hconfigured⟩ := macConfigureAddress_spec hconfigure
              obtain ⟨mtu, up, rfl, hplain⟩ := hconfigured rfl
              cases h
              have hlinux : d.platform ≠ .linux := by
                rw [hmacos]
                exact Platform.noConfusion
              exact .opened hfree rfl rfl
                ⟨rfl, rfl, fun h => absurd h hlinux, fun h => hplain (h.resolve_left hlinux)⟩

/-! ## A process -/

structure Process where
  kernel  : Kernel
  devices : List (Option Device)     -- what `create_tun_device` returned; `none` after the destructor
  leaked  : List ℕ                   -- the descriptors that an `open` has written over

def Process.start : Process := ⟨⟨fun _ => none, 0⟩, [], []⟩

inductive Event where
  | create (platform : Platform)
  | openLinux (i : ℕ) (config : TunConfig) (env : LinuxEnv)
  | openMac (i : ℕ) (config : TunConfig) (env : MacEnv)
  | close (i : ℕ)
  | destroy (i : ℕ)
  | read (i : ℕ) (fails : Bool)
  | write (i : ℕ) (data : Bytes) (outcome : Option Errno)
  | arrive (i : ℕ) (packet : Bytes)       -- the kernel has a packet for the interface
  | openOther (n : ℕ)
  | closeOther (n : ℕ)

/-- Device `i`, unless it is gone. -/
def Process.device (p : Process) (i : ℕ) : Option Device := (p.devices[i]?).join

/-- The device after a call. -/
def Process.setDevice (p : Process) (i : ℕ) (k : Kernel) (d : Option Device) : Process :=
  { p with kernel := k, devices := p.devices.set i d }

def step (p : Process) : Event → Option Process
  | .create platform => some { p with devices := p.devices ++ [some (Device.create platform)] }
  | .openLinux i config env =>
      (p.device i).bind fun d =>
        if d.platform = .linux then
          (linuxOpen config env p.kernel d).map fun (k, d', _) =>
            { p.setDevice i k (some d') with leaked := p.leaked ++ d.fd.toList }
        else none
  | .openMac i config env =>
      (p.device i).bind fun d =>
        if d.platform = .macos then
          (macOpen config env p.kernel d).map fun (k, d', _) =>
            { p.setDevice i k (some d') with leaked := p.leaked ++ d.fd.toList }
        else none
  | .close i =>
      (p.device i).map fun d =>
        let (k, d') := d.close p.kernel
        p.setDevice i k (some d')
  | .destroy i =>
      (p.device i).map fun d =>
        let (k, _) := d.close p.kernel
        p.setDevice i k none
  | .read i fails => (p.device i).map fun d => { p with kernel := (d.readPacket p.kernel fails).1 }
  | .write i data outcome => (p.device i).map fun d => { p with kernel := (d.writePacket p.kernel data outcome).1 }
  | .arrive i packet =>
      (p.device i).bind fun d =>
        d.fd.bind fun n =>
          (frameOf d.platform packet).map fun frame =>
            { p with
              kernel := p.kernel.modifyTun n fun file =>
                { file with queue := file.queue ++ [frame], delivered := file.delivered ++ [packet] } }
  | .openOther n => (p.kernel.alloc n .other).map fun k => { p with kernel := k }
  | .closeOther n =>
      -- it closes what it has opened
      if p.kernel.files n = some .other then
        some { p with kernel := { p.kernel with files := Function.update p.kernel.files n none } }
      else none

/-! ## The invariant -/

/-- The interface of an open device is as `open` has made it. -/
def Attached (k : Kernel) (d : Device) (n : ℕ) : Prop :=
  ∃ file iface config, k.files n = some (.tun file) ∧ file.iface = some iface ∧ file.opened = some config ∧
    iface.Serves d config

/-- Descriptors, devices and what was lost. -/
structure Accounted (k : Kernel) (dev : ℕ → Option Device) (leaked : List ℕ) : Prop where
  held     : ∀ n file, k.files n = some (.tun file) → (∃ i d, dev i = some d ∧ d.fd = some n) ∨ n ∈ leaked
  attached : ∀ i d n, dev i = some d → d.fd = some n → Attached k d n
  distinct : ∀ i j d d' n, dev i = some d → dev j = some d' → d.fd = some n → d'.fd = some n → i = j
  kept     : ∀ i d n, dev i = some d → d.fd = some n → n ∉ leaked
  lost     : ∀ n ∈ leaked, ∃ file, k.files n = some (.tun file)
  nodup    : leaked.Nodup
  noSocket : ∀ n, k.files n ≠ some .socket
  own      : k.foreignCloses = 0

variable {dev : ℕ → Option Device} {leaked : List ℕ} {i : ℕ} {p p' : Process} {e : Event} {es : List Event}

theorem accounted_start : Accounted Process.start.kernel Process.start.device [] where
  held := fun _ _ h => by cases h
  attached := fun _ _ _ h => by cases h
  distinct := fun _ _ _ _ _ h => by cases h
  kept := fun _ _ _ h => by cases h
  lost := fun _ h => absurd h List.not_mem_nil
  nodup := List.nodup_nil
  noSocket := fun _ h => by cases h
  own := rfl

/-- The device at a changed place. -/
theorem update_cases {x : Option Device} {j : ℕ} (h : Function.update dev i x j = some d) :
    (j = i ∧ x = some d) ∨ (j ≠ i ∧ dev j = some d) := by
  by_cases hj : j = i
  · subst hj
    rw [Function.update_self] at h
    exact Or.inl ⟨rfl, h⟩
  · rw [Function.update_of_ne hj] at h
    exact Or.inr ⟨hj, h⟩

/-- A device without a descriptor comes in. -/
theorem Accounted.blank (h : Accounted k dev leaked) (hi : dev i = none) (hd : d.fd = none) :
    Accounted k (Function.update dev i (some d)) leaked := by
  have hother : ∀ {j d' n}, Function.update dev i (some d) j = some d' → d'.fd = some n → dev j = some d' := by
    intro j d' n hj hn
    rcases update_cases hj with ⟨-, hx⟩ | ⟨-, hj⟩
    · rw [← Option.some.inj hx, hd] at hn
      exact absurd hn (by simp)
    · exact hj
  refine ⟨fun n file hfile => ?_, fun j d' n hj hn => h.attached j d' n (hother hj hn) hn,
    fun j l d' d'' n hj hl hn hn' => h.distinct j l d' d'' n (hother hj hn) (hother hl hn') hn hn',
    fun j d' n hj hn => h.kept j d' n (hother hj hn) hn, h.lost, h.nodup, h.noSocket, h.own⟩
  refine (h.held n file hfile).imp ?_ id
  rintro ⟨j, d', hj, hn⟩
  refine ⟨j, d', ?_, hn⟩
  rw [Function.update_of_ne, hj]
  rintro rfl
  rw [hi] at hj
  exact absurd hj (by simp)

/-- A device goes without closing: its descriptor is lost. -/
theorem Accounted.forget (h : Accounted k dev leaked) (hi : dev i = some d) :
    Accounted k (Function.update dev i none) (leaked ++ d.fd.toList) := by
  have hother : ∀ {j d'}, Function.update dev i none j = some d' → j ≠ i ∧ dev j = some d' := by
    intro j d' hj
    rcases update_cases hj with ⟨-, hx⟩ | hj
    · exact absurd hx (by simp)
    · exact hj
  refine ⟨fun n file hfile => ?_, fun j d' n hj hn => h.attached j d' n (hother hj).2 hn,
    fun j l d' d'' n hj hl hn hn' => h.distinct j l d' d'' n (hother hj).2 (hother hl).2 hn hn',
    fun j d' n hj hn hmem => ?_, fun n hn => ?_, ?_, h.noSocket, h.own⟩
  · rcases h.held n file hfile with ⟨j, d', hj, hn⟩ | hleaked
    · by_cases hji : j = i
      · subst hji
        rw [hi] at hj
        rw [← Option.some.inj hj] at hn
        exact Or.inr (List.mem_append_right _ (Option.mem_toList.mpr hn))
      · refine Or.inl ⟨j, d', ?_, hn⟩
        rw [Function.update_of_ne hji, hj]
    · exact Or.inr (List.mem_append_left _ hleaked)
  · obtain ⟨hji, hj⟩ := hother hj
    rcases List.mem_append.mp hmem with hmem | hmem
    · exact h.kept j d' n hj hn hmem
    · exact hji (h.distinct j i d' d n hj hi hn (Option.mem_toList.mp hmem))
  · rcases List.mem_append.mp hn with hn | hn
    · exact h.lost n hn
    · obtain ⟨file, -, -, hfile, -⟩ := h.attached i d n hi (Option.mem_toList.mp hn)
      exact ⟨file, hfile⟩
  · cases hfd : d.fd with
    | none => simpa using h.nodup
    | some n =>
        rw [Option.toList_some, List.nodup_append]
        refine ⟨h.nodup, List.nodup_singleton n, ?_⟩
        rintro m hm m' hm' rfl
        rw [List.mem_singleton.mp hm'] at hm
        exact h.kept i d n hi hfd hm

/-- A device comes in with a new descriptor. -/
theorem Accounted.acquire (h : Accounted k dev leaked) (hi : dev i = none) (hfree : k.files n = none)
    (hd : d.fd = some n) (hattached : Attached (k.put n (.tun file)) d n) :
    Accounted (k.put n (.tun file)) (Function.update dev i (some d)) leaked := by
  have hne : ∀ {j d' m}, dev j = some d' → d'.fd = some m → m ≠ n := by
    rintro j d' m hj hm rfl
    obtain ⟨file', -, -, hfile', -⟩ := h.attached j d' m hj hm
    rw [hfree] at hfile'
    exact absurd hfile' (by simp)
  have hleaked : n ∉ leaked := by
    intro hmem
    obtain ⟨file', hfile'⟩ := h.lost n hmem
    rw [hfree] at hfile'
    exact absurd hfile' (by simp)
  refine ⟨fun m file' hfile' => ?_, fun j d' m hj hm => ?_, fun j l d' d'' m hj hl hm hm' => ?_,
    fun j d' m hj hm => ?_, fun m hm => ?_, h.nodup, fun m => ?_, h.own⟩
  · by_cases hm : m = n
    · subst hm
      exact Or.inl ⟨i, d, Function.update_self _ _ _, hd⟩
    · rw [files_put_of_ne hm] at hfile'
      refine (h.held m file' hfile').imp ?_ id
      rintro ⟨j, d', hj, hm'⟩
      refine ⟨j, d', ?_, hm'⟩
      rw [Function.update_of_ne, hj]
      rintro rfl
      rw [hi] at hj
      exact absurd hj (by simp)
  · rcases update_cases hj with ⟨-, hx⟩ | ⟨-, hj⟩
    · cases hx
      cases hd.symm.trans hm
      exact hattached
    · obtain ⟨file', iface, config, hfile', hrest⟩ := h.attached j d' m hj hm
      refine ⟨file', iface, config, ?_, hrest⟩
      rw [files_put_of_ne (hne hj hm), hfile']
  · rcases update_cases hj with ⟨rfl, hx⟩ | ⟨-, hj⟩
    · rcases update_cases hl with ⟨rfl, -⟩ | ⟨-, hl⟩
      · rfl
      · cases hx
        exact absurd (Option.some.inj (hm.symm.trans hd)) (hne hl hm')
    · rcases update_cases hl with ⟨-, hx⟩ | ⟨-, hl⟩
      · cases hx
        exact absurd (Option.some.inj (hm'.symm.trans hd)) (hne hj hm)
      · exact h.distinct j l d' d'' m hj hl hm hm'
  · rcases update_cases hj with ⟨-, hx⟩ | ⟨-, hj⟩
    · cases hx
      cases hd.symm.trans hm
      exact hleaked
    · exact h.kept j d' m hj hm
  · obtain ⟨file', hfile'⟩ := h.lost m hm
    refine ⟨file', ?_⟩
    rw [files_put_of_ne, hfile']
    rintro rfl
    exact hleaked hm
  · by_cases hm : m = n
    · subst hm
      rw [files_put_self]
      simp
    · rw [files_put_of_ne hm]
      exact h.noSocket m

/-- A device goes after closing. -/
theorem Accounted.shut (h : Accounted k dev leaked) (hi : dev i = some d) :
    Accounted (d.close k).1 (Function.update dev i none) leaked := by
  unfold Device.close
  cases hfd : d.fd with
  | none =>
      have hforget := h.forget hi
      rw [hfd, Option.toList_none, List.append_nil] at hforget
      exact hforget
  | some n =>
      obtain ⟨file, -, -, hfile, -⟩ := h.attached i d n hi hfd
      have hother : ∀ {j d'}, Function.update dev i none j = some d' → j ≠ i ∧ dev j = some d' := by
        intro j d' hj
        rcases update_cases hj with ⟨-, hx⟩ | hj
        · exact absurd hx (by simp)
        · exact hj
      have hne : ∀ {j d' m}, j ≠ i → dev j = some d' → d'.fd = some m → m ≠ n := by
        rintro j d' m hji hj hm rfl
        exact hji (h.distinct j i d' d m hj hi hm hfd)
      have hfiles : ∀ {m}, m ≠ n → (k.close n).files m = k.files m := fun hm => Function.update_of_ne hm _ _
      have hgone : (k.close n).files n = none := Function.update_self _ _ _
      refine ⟨fun m file' hfile' => ?_, fun j d' m hj hm => ?_,
        fun j l d' d'' m hj hl hm hm' => h.distinct j l d' d'' m (hother hj).2 (hother hl).2 hm hm',
        fun j d' m hj hm => h.kept j d' m (hother hj).2 hm, fun m hm => ?_, h.nodup, fun m => ?_, ?_⟩
      · have hm : m ≠ n := by
          rintro rfl
          rw [hgone] at hfile'
          exact absurd hfile' (by simp)
        rw [hfiles hm] at hfile'
        refine (h.held m file' hfile').imp ?_ id
        rintro ⟨j, d', hj, hm'⟩
        refine ⟨j, d', ?_, hm'⟩
        rw [Function.update_of_ne, hj]
        rintro rfl
        rw [hi] at hj
        cases hj
        exact hm (Option.some.inj (hm'.symm.trans hfd))
      · obtain ⟨hji, hj⟩ := hother hj
        obtain ⟨file', iface, config, hfile', hrest⟩ := h.attached j d' m hj hm
        refine ⟨file', iface, config, ?_, hrest⟩
        rw [hfiles (hne hji hj hm), hfile']
      · obtain ⟨file', hfile'⟩ := h.lost m hm
        refine ⟨file', ?_⟩
        rw [hfiles, hfile']
        rintro rfl
        exact h.kept i d m hi hfd hm
      · by_cases hm : m = n
        · subst hm
          rw [hgone]
          simp
        · rw [hfiles hm]
          exact h.noSocket m
      · show (k.close n).foreignCloses = 0
        unfold Kernel.close
        rw [hfile]
        exact h.own

/-- The TUN descriptors are the same ones, with the same interfaces, and no socket is borrowed. -/
theorem Accounted.of_files (h : Accounted k dev leaked)
    (hsame : ∀ n file, k'.files n = some (.tun file) → ∃ file₀, k.files n = some (.tun file₀))
    (hkept : ∀ n file, k.files n = some (.tun file) →
      ∃ file', k'.files n = some (.tun file') ∧ file'.iface = file.iface ∧ file'.opened = file.opened)
    (hsocket : ∀ n, k'.files n = some .socket → k.files n = some .socket)
    (hown : k'.foreignCloses = k.foreignCloses) : Accounted k' dev leaked := by
  refine ⟨fun n file hfile => ?_, fun i d n hi hn => ?_, h.distinct, h.kept, fun n hn => ?_, h.nodup,
    fun n hn => h.noSocket n (hsocket n hn), hown.trans h.own⟩
  · obtain ⟨file₀, hfile₀⟩ := hsame n file hfile
    exact h.held n file₀ hfile₀
  · obtain ⟨file, iface, config, hfile, hiface, hconfig, hserves⟩ := h.attached i d n hi hn
    obtain ⟨file', hfile', hsameIface, hsameConfig⟩ := hkept n file hfile
    exact ⟨file', iface, config, hfile', hsameIface.trans hiface, hsameConfig.trans hconfig, hserves⟩
  · obtain ⟨file, hfile⟩ := h.lost n hn
    obtain ⟨file', hfile', -⟩ := hkept n file hfile
    exact ⟨file', hfile'⟩

/-- A change of what is in a descriptor, not of what it belongs to. -/
def KeepsIface (change : TunFile → TunFile) : Prop :=
  ∀ file, (change file).iface = file.iface ∧ (change file).opened = file.opened

/-- Reading, writing and arriving change what is in a descriptor, not whose it is. -/
theorem Accounted.modify (h : Accounted k dev leaked) (n : ℕ) {change : TunFile → TunFile}
    (hiface : KeepsIface change) : Accounted (k.modifyTun n change) dev leaked := by
  unfold Kernel.modifyTun
  cases hn : k.files n with
  | none => exact h
  | some f =>
      cases f with
      | socket | other => exact h
      | tun file =>
          refine h.of_files (fun m file' hm => ?_) (fun m file' hm => ?_) (fun m hm => ?_) rfl
          · by_cases hmn : m = n
            · exact ⟨file, hmn ▸ hn⟩
            · rw [files_put_of_ne hmn] at hm
              exact ⟨file', hm⟩
          · by_cases hmn : m = n
            · subst hmn
              cases hn.symm.trans hm
              exact ⟨_, files_put_self, hiface file⟩
            · exact ⟨file', (files_put_of_ne hmn).trans hm, rfl, rfl⟩
          · by_cases hmn : m = n
            · subst hmn
              rw [files_put_self] at hm
              exact absurd hm (by simp)
            · rwa [files_put_of_ne hmn] at hm

/-- What other code opens and closes is its own. -/
theorem Accounted.others (h : Accounted k dev leaked) {x : Option File} (hbefore : ∀ f, k.files n = some f → f = .other)
    (hafter : ∀ f, x = some f → f = .other) :
    Accounted { k with files := Function.update k.files n x } dev leaked := by
  have hcases : ∀ {m f}, Function.update k.files n x m = some f → f ≠ .other → m ≠ n ∧ k.files m = some f := by
    intro m f hm hf
    by_cases hmn : m = n
    · subst hmn
      rw [Function.update_self] at hm
      exact absurd (hafter f hm) hf
    · rw [Function.update_of_ne hmn] at hm
      exact ⟨hmn, hm⟩
  refine h.of_files (fun m file hm => ⟨file, (hcases hm (by simp)).2⟩) (fun m file hm => ⟨file, ?_, rfl, rfl⟩)
    (fun m hm => (hcases hm (by simp)).2) rfl
  show Function.update k.files n x m = _
  rw [Function.update_of_ne, hm]
  rintro rfl
  exact absurd (hbefore _ hm) (by simp)

/-! ## Steps -/

theorem device_eq_some (h : p.device i = some d) : i < p.devices.length := by
  unfold Process.device at h
  by_contra hge
  rw [List.getElem?_eq_none (not_lt.mp hge)] at h
  exact absurd h (by simp)

theorem device_setDevice (h : p.device i = some d) (k : Kernel) (x : Option Device) :
    (p.setDevice i k x).device = Function.update p.device i x := by
  have hlt := device_eq_some h
  funext j
  show ((p.devices.set i x)[j]?).join = _
  by_cases hj : j = i
  · subst hj
    rw [Function.update_self, List.getElem?_set_self hlt]
    rfl
  · rw [Function.update_of_ne hj, List.getElem?_set_ne fun h => hj h.symm]
    rfl

theorem device_push (p : Process) (d : Device) :
    ({ p with devices := p.devices ++ [some d] } : Process).device =
      Function.update p.device p.devices.length (some d) := by
  funext j
  show ((p.devices ++ [some d])[j]?).join = _
  by_cases hj : j = p.devices.length
  · subst hj
    rw [Function.update_self, List.getElem?_concat_length]
    rfl
  · rw [Function.update_of_ne hj]
    unfold Process.device
    rcases Nat.lt_or_gt_of_ne hj with hlt | hgt
    · rw [List.getElem?_append_left hlt]
    · rw [List.getElem?_eq_none (by simp; omega), List.getElem?_eq_none (by omega)]

theorem Accounted.opened (h : Accounted k dev leaked) (hi : dev i = some d) (hopened : Opened k d config k' d' r) :
    Accounted k' (Function.update dev i (some d')) (leaked ++ d.fd.toList) := by
  have hforget := h.forget hi
  have hself : Function.update dev i none i = none := Function.update_self _ _ _
  have hidem : Function.update (Function.update dev i none) i (some d') = Function.update dev i (some d') :=
    Function.update_idem _ _ _
  rw [← hidem]
  cases hopened with
  | failed hfd _ => exact hforget.blank hself hfd
  | opened hfree hfd _ hserves =>
      exact hforget.acquire hself hfree hfd ⟨_, _, _, files_put_self, rfl, rfl, hserves⟩

theorem close_fd (k : Kernel) (d : Device) : (d.close k).2.fd = none := by
  unfold Device.close
  cases hfd : d.fd with
  | none => exact hfd
  | some n => rfl

/-- A read takes a frame from the queue of its descriptor, or nothing happens. -/
theorem readPacket_kernel (k : Kernel) (d : Device) (fails : Bool) :
    (d.readPacket k fails).1 = k ∨ ∃ n change, KeepsIface change ∧
      (d.readPacket k fails).1 = k.modifyTun n change := by
  unfold Device.readPacket
  cases hfd : d.fd with
  | none => exact Or.inl rfl
  | some n =>
      dsimp only
      split
      · split
        · exact Or.inl rfl
        · split
          · exact Or.inl rfl
          · refine Or.inr ⟨n, _, ?_, rfl⟩
            exact fun _ => ⟨rfl, rfl⟩
      · exact Or.inl rfl

/-- A write hands a frame to its descriptor, or nothing happens. -/
theorem writePacket_kernel (k : Kernel) (d : Device) (data : Bytes) (outcome : Option Errno) :
    (d.writePacket k data outcome).1 = k ∨ ∃ n change, KeepsIface change ∧
      (d.writePacket k data outcome).1 = k.modifyTun n change := by
  unfold Device.writePacket
  split
  · exact Or.inl rfl
  · split
    · exact Or.inl rfl
    · split
      · exact Or.inl rfl
      · exact Or.inl rfl
      · refine Or.inr ⟨_, _, ?_, rfl⟩
        exact fun _ => ⟨rfl, rfl⟩

/-- **Every event keeps the account.** -/
theorem accounted_step (h : Accounted p.kernel p.device p.leaked) (hstep : step p e = some p') :
    Accounted p'.kernel p'.device p'.leaked := by
  cases e with
  | create platform =>
      obtain rfl := Option.some.inj hstep
      have hend : p.device p.devices.length = none := by
        unfold Process.device
        rw [List.getElem?_eq_none (le_refl _)]
        rfl
      have hblank := h.blank (d := Device.create platform) hend rfl
      rwa [← device_push] at hblank
  | openLinux i config env =>
      obtain ⟨d, hd, hstep⟩ := Option.bind_eq_some_iff.mp hstep
      obtain ⟨-, hstep⟩ := Option.ite_none_right_eq_some.mp hstep
      obtain ⟨⟨k, d', result⟩, hopen, rfl⟩ := Option.map_eq_some_iff.mp hstep
      have hopened := h.opened hd (linuxOpen_opened hopen)
      rwa [← device_setDevice hd k] at hopened
  | openMac i config env =>
      obtain ⟨d, hd, hstep⟩ := Option.bind_eq_some_iff.mp hstep
      obtain ⟨hmacos, hstep⟩ := Option.ite_none_right_eq_some.mp hstep
      obtain ⟨⟨k, d', result⟩, hopen, rfl⟩ := Option.map_eq_some_iff.mp hstep
      have hopened := h.opened hd (macOpen_opened hmacos hopen)
      rwa [← device_setDevice hd k] at hopened
  | close i =>
      obtain ⟨d, hd, rfl⟩ := Option.map_eq_some_iff.mp hstep
      have hblank := (h.shut hd).blank (Function.update_self _ _ _) (close_fd p.kernel d)
      rw [Function.update_idem, ← device_setDevice hd (d.close p.kernel).1] at hblank
      exact hblank
  | destroy i =>
      obtain ⟨d, hd, rfl⟩ := Option.map_eq_some_iff.mp hstep
      have hshut := h.shut hd
      rw [← device_setDevice hd (d.close p.kernel).1] at hshut
      exact hshut
  | read i fails =>
      obtain ⟨d, -, rfl⟩ := Option.map_eq_some_iff.mp hstep
      show Accounted (d.readPacket p.kernel fails).1 p.device p.leaked
      rcases readPacket_kernel p.kernel d fails with hsame | ⟨n, change, hiface, hchange⟩
      · rwa [hsame]
      · rw [hchange]
        exact h.modify n hiface
  | write i data outcome =>
      obtain ⟨d, -, rfl⟩ := Option.map_eq_some_iff.mp hstep
      show Accounted (d.writePacket p.kernel data outcome).1 p.device p.leaked
      rcases writePacket_kernel p.kernel d data outcome with hsame | ⟨n, change, hiface, hchange⟩
      · rwa [hsame]
      · rw [hchange]
        exact h.modify n hiface
  | arrive i packet =>
      obtain ⟨d, -, hstep⟩ := Option.bind_eq_some_iff.mp hstep
      obtain ⟨n, -, hstep⟩ := Option.bind_eq_some_iff.mp hstep
      obtain ⟨frame, -, rfl⟩ := Option.map_eq_some_iff.mp hstep
      exact h.modify n fun _ => ⟨rfl, rfl⟩
  | openOther n =>
      obtain ⟨k, halloc, rfl⟩ := Option.map_eq_some_iff.mp hstep
      obtain ⟨hfree, rfl⟩ := alloc_eq_some.mp halloc
      refine h.others (fun f hf => ?_) fun f hf => (Option.some.inj hf).symm
      rw [hfree] at hf
      exact absurd hf (by simp)
  | closeOther n =>
      obtain ⟨hother, hstep⟩ := Option.ite_none_right_eq_some.mp hstep
      obtain rfl := Option.some.inj hstep
      refine h.others (fun f hf => ?_) fun f hf => by cases hf
      rw [hother] at hf
      exact (Option.some.inj hf).symm

theorem accounted_of_run (hrun : run step Process.start es = some p) : Accounted p.kernel p.device p.leaked :=
  run_invariant' (I := fun p => Accounted p.kernel p.device p.leaked) (fun _ _ _ => accounted_step) accounted_start hrun

/-- `open` is called on a closed device only. -/
def OpensClosed (p : Process) : Event → Prop
  | .openLinux i _ _ | .openMac i _ _ => (p.device i).bind Device.fd = none
  | _ => True

instance (p : Process) : DecidablePred (OpensClosed p) := fun e => by
  cases e <;> unfold OpensClosed <;> infer_instance

/-- A device that is opened when it is closed loses nothing. -/
theorem leaked_step (hclosed : OpensClosed p e) (hstep : step p e = some p') : p'.leaked = p.leaked := by
  cases e with
  | openLinux i config env | openMac i config env =>
      obtain ⟨d, hd, hstep⟩ := Option.bind_eq_some_iff.mp hstep
      obtain ⟨-, hstep⟩ := Option.ite_none_right_eq_some.mp hstep
      obtain ⟨⟨k, d', result⟩, -, rfl⟩ := Option.map_eq_some_iff.mp hstep
      have hfd : d.fd = none := by
        have hbind : (p.device i).bind Device.fd = none := hclosed
        rwa [hd, Option.bind_some] at hbind
      show p.leaked ++ d.fd.toList = p.leaked
      rw [hfd, Option.toList_none, List.append_nil]
  | create =>
      obtain rfl := Option.some.inj hstep
      rfl
  | closeOther =>
      obtain ⟨-, hstep⟩ := Option.ite_none_right_eq_some.mp hstep
      obtain rfl := Option.some.inj hstep
      rfl
  | close | destroy | read | write | openOther =>
      obtain ⟨_, -, rfl⟩ := Option.map_eq_some_iff.mp hstep
      rfl
  | arrive =>
      obtain ⟨_, -, hstep⟩ := Option.bind_eq_some_iff.mp hstep
      obtain ⟨_, -, hstep⟩ := Option.bind_eq_some_iff.mp hstep
      obtain ⟨_, -, rfl⟩ := Option.map_eq_some_iff.mp hstep
      rfl

/-- **The descriptors of a process are those of its open devices**, one each, whatever the system calls return and
    whatever other code opens and closes: no device closes a number that is not its own, no socket stays behind,
    every `open` ends in one of its two ways, the interface of every open device is as its `open` has made it, and no
    descriptor is lost unless a device is opened while it is open. -/
theorem descriptors_accounted (hrun : run step Process.start es = some p) :
    p.kernel.foreignCloses = 0 ∧ (∀ n, p.kernel.files n ≠ some .socket) ∧
      (∀ i d config env k d' r, p.device i = some d → d.platform = .linux →
        linuxOpen config env p.kernel d = some (k, d', r) → Opened p.kernel d config k d' r) ∧
      (∀ i d config env k d' r, p.device i = some d → d.platform = .macos →
        macOpen config env p.kernel d = some (k, d', r) → Opened p.kernel d config k d' r) ∧
      (∀ i d n, p.device i = some d → d.fd = some n → Attached p.kernel d n) ∧
      (∀ i j d d' n, p.device i = some d → p.device j = some d' → d.fd = some n → d'.fd = some n → i = j) ∧
      (∀ n, (∃ file, p.kernel.files n = some (.tun file)) ↔
        (∃ i d, p.device i = some d ∧ d.fd = some n) ∨ n ∈ p.leaked) ∧
      p.leaked.Nodup ∧ (Along step OpensClosed Process.start es → p.leaked = []) := by
  have h := accounted_of_run hrun
  refine ⟨h.own, h.noSocket, fun _ _ _ _ _ _ _ _ _ => linuxOpen_opened,
    fun _ _ _ _ _ _ _ _ hmacos => macOpen_opened hmacos, h.attached, h.distinct, fun n => ⟨?_, ?_⟩, h.nodup, fun halong => ?_⟩
  · rintro ⟨file, hfile⟩
    exact h.held n file hfile
  · rintro (⟨i, d, hi, hn⟩ | hlost)
    · obtain ⟨file, -, -, hfile, -⟩ := h.attached i d n hi hn
      exact ⟨file, hfile⟩
    · exact h.lost n hlost
  · exact run_invariant (I := fun p => p.leaked = [])
      (fun _ _ _ hclosed hnone hstep => (leaked_step hclosed hstep).trans hnone) halong rfl hrun

/-- The address settings of a server. -/
def sampleConfig : TunConfig :=
  ⟨ascii "kirdi0", ascii "10.8.0.1", [], ascii "255.255.255.0", 1400⟩

/-- Every call works, on descriptors `n` and `sock`. -/
def workingLinux (n sock : ℕ) : LinuxEnv := ⟨.ok n, true, [], some sock, true, true, true, true, true⟩

/-- The last call of `configure_address` fails on the first try. -/
def secondTry : List Event :=
  [.create .linux, .openLinux 0 sampleConfig { workingLinux 3 4 with setFlags := false }, .openOther 3,
    .openLinux 0 sampleConfig (workingLinux 4 5), .close 0, .close 0]

theorem descriptors_accounted_secondTry :
    ∃ p, run step Process.start secondTry = some p ∧ p.kernel.foreignCloses = 0 ∧ p.leaked = [] := by
  have halong : Along step OpensClosed Process.start secondTry := by decide +kernel
  have hsome : (run step Process.start secondTry).isSome = true := by decide +kernel
  obtain ⟨p, hrun⟩ := Option.isSome_iff_exists.mp hsome
  obtain ⟨hown, -, -, -, -, -, -, -, hnone⟩ := descriptors_accounted hrun
  exact ⟨p, hrun, hown, hnone halong⟩

end Tun
end Kirdi
