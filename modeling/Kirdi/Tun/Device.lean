import Kirdi.Client.Ifconfig
import Kirdi.Common.Inet
import Kirdi.Lib.EventMachine

/-!
# `Tun.Device` — the two TUN devices and the kernel under them

A `TunDevice` holds one descriptor. `open` takes several system calls, each of which may fail, and has to give
back what it has got by then; the Linux device borrows a socket besides. Descriptors are numbers of the whole
process: a number that was closed twice would by then be somebody else's.

The macOS device is configured by a command for the shell. What that command does is known where its strings are
what they are meant to be (`plainSettings`); where the shell reads something else in them, it is a parameter.

The Linux device reads and writes bare packets, the macOS device packets with the address family in front. The
kernel keeps the packets that come in until they are read, and one `read` takes one packet, cut to the buffer.
-/

set_option linter.dupNamespace false

namespace Kirdi
namespace Tun

open Inet
open Client (Platform)

inductive TunError where
  | permissionDenied
  | deviceNotFound
  | alreadyExists
  | configFailed
  | readFailed
  | writeFailed
  | systemError
  deriving DecidableEq, Repr

structure TunConfig where
  name        : Bytes
  address     : Bytes
  peerAddress : Bytes
  netmask     : Bytes
  mtu         : UInt32
  deriving DecidableEq, Repr

/-- The errors that the code tells apart. -/
inductive Errno where
  | access
  | perm
  | again
  | other
  deriving DecidableEq, Repr

/-! ## The kernel -/

structure Iface where
  name    : Bytes
  address : UInt32
  netmask : UInt32
  mtu     : UInt32
  up      : Bool
  deriving DecidableEq, Repr

/-- An open TUN descriptor. The fields below `handed` are ghosts. -/
structure TunFile where
  iface     : Option Iface         -- once it is attached
  queue     : List Bytes           -- frames that wait for `read`
  handed    : List Bytes           -- frames that `write` has taken
  delivered : List Bytes           -- the packets that came in
  received  : List Bytes           -- what `read_packet` has made of them
  sent      : List Bytes           -- the packets that `write_packet` has put into them
  opened    : Option TunConfig     -- what `open` was given
  deriving DecidableEq, Repr

def TunFile.fresh : TunFile := ⟨none, [], [], [], [], [], none⟩

/-- `open` has attached an interface. -/
def TunFile.attach (file : TunFile) (name : Bytes) (config : TunConfig) : TunFile :=
  { file with iface := some ⟨name, 0, 0, 1500, false⟩, opened := some config }

inductive File where
  | tun (file : TunFile)
  | socket                         -- of `configure_address`
  | other                          -- of somebody else in the process
  deriving DecidableEq, Repr

@[ext]
structure Kernel where
  files         : ℕ → Option File
  foreignCloses : ℕ                -- how often `close` has hit something that is not the device's

def Kernel.put (k : Kernel) (n : ℕ) (file : File) : Kernel :=
  { k with files := Function.update k.files n (some file) }

/-- A call that succeeds returns a number that is free. -/
def Kernel.alloc (k : Kernel) (n : ℕ) (file : File) : Option Kernel :=
  if k.files n = none then some (k.put n file) else none

/-- `::close`, as the device calls it. -/
def Kernel.close (k : Kernel) (n : ℕ) : Kernel where
  files := Function.update k.files n none
  foreignCloses :=
    match k.files n with
    | some (.tun _) | some .socket => k.foreignCloses
    | some .other | none => k.foreignCloses + 1

/-- Change an open TUN descriptor. -/
def Kernel.modifyTun (k : Kernel) (n : ℕ) (f : TunFile → TunFile) : Kernel :=
  match k.files n with
  | some (.tun file) => k.put n (.tun (f file))
  | _ => k

/-- `ioctl` on the interface that is attached to a descriptor. -/
def Kernel.ioctl (k : Kernel) (n : ℕ) (f : Iface → Iface) : Kernel :=
  k.modifyTun n fun file => { file with iface := file.iface.map f }

/-! ## Opening -/

structure Device where
  platform : Platform
  fd       : Option ℕ              -- `fd_`, if it is not negative
  ifName   : Bytes
  mtu      : UInt32
  deriving DecidableEq, Repr

/-- `create_tun_device`. -/
def Device.create (platform : Platform) : Device := ⟨platform, none, [], 1400⟩

/-- The outcomes of the calls of `LinuxTunDevice::open`. -/
structure LinuxEnv where
  opens       : Except Errno ℕ
  tunSetIff   : Bool
  autoName    : Bytes              -- what the kernel calls an interface that has no name yet
  socket      : Option ℕ
  setAddr     : Bool
  setNetmask  : Bool
  setMtu      : Bool
  getFlags    : Bool
  setFlags    : Bool

/-- The outcomes of the calls of `MacOSTunDevice::open`. -/
structure MacEnv where
  socket     : Option ℕ
  ctlInfo    : Bool
  connects   : Bool
  getSockOpt : Bool
  ifName     : Bytes
  system     : Bytes → Bool        -- `std::system` of a command returns 0
  scripted   : UInt32 × Bool       -- the MTU and the flag after a command that does not say what is meant

/-- `std::strncpy(ifr.ifr_name, name.c_str(), IFNAMSIZ - 1)` into zeroes. -/
def ifrName (name : Bytes) : Bytes := (cStr name).take 15

/-- The name of the interface that `TUNSETIFF` makes; `%` asks the kernel for a number. -/
def chosenName (requested autoName : Bytes) : Bytes :=
  if requested.isEmpty || requested.contains 37 then autoName else requested

/-- `LinuxTunDevice::configure_address`, on the interface of descriptor `n`. The request is a union: what was the
    address is the netmask before the netmask is read into it. -/
def configureAddress (config : TunConfig) (env : LinuxEnv) (k : Kernel) (n : ℕ) :
    Option (Kernel × Except TunError Unit) :=
  match env.socket with
  | none => some (k, .error .systemError)
  | some sock =>
      (k.alloc sock .socket).map fun k =>
        let address := (inetPton (cStr config.address)).getD 0
        if !env.setAddr then (k.close sock, .error .configFailed)
        else
          let k := k.ioctl n fun iface => { iface with address := address }
          let netmask := (inetPton (cStr config.netmask)).getD address
          if !env.setNetmask then (k.close sock, .error .configFailed)
          else
            let k := k.ioctl n fun iface => { iface with netmask := netmask }
            if !env.setMtu then (k.close sock, .error .configFailed)
            else
              let k := k.ioctl n fun iface => { iface with mtu := config.mtu }
              if !env.getFlags then (k.close sock, .error .configFailed)
              else if !env.setFlags then (k.close sock, .error .configFailed)
              else
                let k := k.ioctl n fun iface => { iface with up := true }
                (k.close sock, .ok ())

/-- `LinuxTunDevice::open`. -/
def linuxOpen (config : TunConfig) (env : LinuxEnv) (k : Kernel) (d : Device) :
    Option (Kernel × Device × Except TunError Unit) :=
  match env.opens with
  | .error errno =>
      let error := if errno = .access ∨ errno = .perm then TunError.permissionDenied else .deviceNotFound
      some (k, { d with fd := none }, .error error)
  | .ok n =>
      (k.alloc n (.tun .fresh)).bind fun k =>
        if !env.tunSetIff then some (k.close n, { d with fd := none }, .error .configFailed)
        else
          let name := chosenName (ifrName config.name) env.autoName
          let k := k.modifyTun n fun file => file.attach name config
          let d := { d with fd := some n, ifName := name, mtu := config.mtu }
          (configureAddress config env k n).map fun (k, result) =>
            match result with
            | .error error => (k.close n, { d with fd := none }, .error error)
            | .ok () => (k, d, .ok ())

/-- The command of `MacOSTunDevice::configure_address` is one `ifconfig` with the settings in it: a plain name,
    dotted addresses, and an MTU that every interface takes, since `ifconfig` does no more than warn of another. -/
def plainSettings (ifName : Bytes) (config : TunConfig) : Bool :=
  decide (Client.shell.Word ifName) && (inetPton config.address).isSome
    && (config.peerAddress.isEmpty || (inetPton config.peerAddress).isSome) && (inetPton config.netmask).isSome
    && decide (72 ≤ config.mtu) && decide (config.mtu ≤ 65535)

/-- `MacOSTunDevice::configure_address`, on the interface of descriptor `n`. Of what the command sets, the MTU and
    the flag are followed. -/
def macConfigureAddress (config : TunConfig) (env : MacEnv) (k : Kernel) (n : ℕ) (ifName : Bytes) :
    Kernel × Except TunError Unit :=
  let cmd := Client.ifconfigCommand ifName ⟨config.address, config.peerAddress, config.netmask, config.mtu⟩
  let (mtu, up) := if plainSettings ifName config then (config.mtu, true) else env.scripted
  if env.system cmd then (k.ioctl n fun iface => { iface with mtu := mtu, up := up }, .ok ())
  else (k, .error .configFailed)

/-- `MacOSTunDevice::open`. -/
def macOpen (config : TunConfig) (env : MacEnv) (k : Kernel) (d : Device) :
    Option (Kernel × Device × Except TunError Unit) :=
  match env.socket with
  | none => some (k, { d with fd := none }, .error .permissionDenied)
  | some n =>
      (k.alloc n (.tun .fresh)).map fun k =>
        if !env.ctlInfo then (k.close n, { d with fd := none }, .error .deviceNotFound)
        else if !env.connects then (k.close n, { d with fd := none }, .error .configFailed)
        else if !env.getSockOpt then (k.close n, { d with fd := none }, .error .configFailed)
        else
          let k := k.modifyTun n fun file => file.attach env.ifName config
          let d := { d with fd := some n, ifName := env.ifName, mtu := config.mtu }
          match macConfigureAddress config env k n env.ifName with
          | (k, .error error) => (k.close n, { d with fd := none }, .error error)
          | (k, .ok ()) => (k, d, .ok ())

/-- `close`, of either device. -/
def Device.close (k : Kernel) (d : Device) : Kernel × Device :=
  match d.fd with
  | none => (k, d)
  | some n => (k.close n, { d with fd := none })

/-! ## Packets -/

/-- `UTUN_HEADER_SIZE`. -/
def utunHeaderSize : ℕ := 4

/-- The version field of a packet. -/
def ipVersion (packet : Bytes) : ℕ := (packet.headD 0).toNat / 16

/-- `htonl(AF_INET)`, `htonl(AF_INET6)`, as they lie in memory. -/
def familyHeader (packet : Bytes) : Option Bytes :=
  if ipVersion packet = 4 then some [0, 0, 0, 2]
  else if ipVersion packet = 6 then some [0, 0, 0, 30]
  else none

/-- What the kernel queues for a packet that comes in: utun knows nothing but IPv4 and IPv6. -/
def frameOf (platform : Platform) (packet : Bytes) : Option Bytes :=
  match platform with
  | .linux => some packet
  | .macos => (familyHeader packet).map (· ++ packet)

/-- The size of the buffer of `read_packet`: `mtu_ + 64` is computed in 32 bits, `mtu_ + UTUN_HEADER_SIZE + 64` in
    64. -/
def bufferSize (platform : Platform) (mtu : UInt32) : ℕ :=
  match platform with
  | .linux => (mtu + 64).toNat
  | .macos => mtu.toNat + utunHeaderSize + 64

/-- What `read_packet` makes of what `::read` has put into the buffer. -/
def unframe (platform : Platform) (buffer : Bytes) : Bytes :=
  match platform with
  | .linux => buffer
  | .macos => if buffer.length ≤ utunHeaderSize then [] else buffer.drop utunHeaderSize

/-- `read_packet`: `fails` with an error other than an empty queue. -/
def Device.readPacket (k : Kernel) (d : Device) (fails : Bool) : Kernel × Except TunError Bytes :=
  match d.fd with
  | none => (k, .error .readFailed)      -- `::read` of a negative descriptor
  | some n =>
      match k.files n with
      | some (.tun file) =>
          if fails then (k, .error .readFailed)
          else
            match file.queue with
            | [] => (k, .ok [])
            | frame :: rest =>
                let packet := unframe d.platform (frame.take (bufferSize d.platform d.mtu))
                (k.modifyTun n fun file => { file with queue := rest, received := file.received ++ [packet] },
                  .ok packet)
      | _ => (k, .error .readFailed)

/-- What `write_packet` passes to `::write`, or the result without a write. -/
def frameToWrite (platform : Platform) (data : Bytes) : Except (Except TunError ℕ) Bytes :=
  match platform with
  | .linux => .ok data
  | .macos =>
      if data.length = 0 then .error (.ok 0)
      else
        match familyHeader data with
        | some header => .ok (header ++ data)
        | none => .error (.error .writeFailed)

/-- `write_packet`; `outcome` is the errno of `::write`, if it fails. A packet is written as a whole. -/
def Device.writePacket (k : Kernel) (d : Device) (data : Bytes) (outcome : Option Errno) :
    Kernel × Except TunError ℕ :=
  match frameToWrite d.platform data with
  | .error result => (k, result)
  | .ok frame =>
      match d.fd with
      | none => (k, .error .writeFailed)
      | some n =>
          match outcome with
          | some .again => (k, .ok 0)
          | some _ => (k, .error .writeFailed)
          | none =>
              let written := frame.length
              (k.modifyTun n fun file => { file with handed := file.handed ++ [frame], sent := file.sent ++ [data] },
                .ok (match d.platform with
                  | .linux => written
                  | .macos => if utunHeaderSize < written then written - utunHeaderSize else 0))

end Tun
end Kirdi
