import Mathlib

/-!
# `Common.Protocol` — the wire protocol and its frame dispatch

All messages are binary WebSocket frames `[1 byte: msg_type] [4 bytes: payload_length, big-endian]
[payload]`. This module embeds `common/protocol.hpp` (header codec, packet builders, IP header
inspection) and `dispatch_packet` of `transport/ws_transport.cpp`, which takes one received message apart
again.

Byte sequences (`std::vector<uint8_t>`, `std::span`, `std::string`) are lists of bytes; an exception is
the `error` of an `Except` with the source's text.
-/

namespace Kirdi

/-- A byte sequence: `std::vector<uint8_t>`, a span of one, or a `std::string`. -/
abbrev Bytes := List UInt8

/-- The bytes of an ASCII literal of the source. -/
def ascii (s : String) : Bytes := s.toList.map fun c => c.toNat.toUInt8

namespace Protocol

def headerSize : Nat := 5
def maxPayload : Nat := 65535

/-- The enumerators of `enum class MsgType : uint8_t`. A header may carry any byte: `ofByte` is the
    `switch` that tells the enumerators from the rest. -/
inductive MsgType where
  | authRequest
  | authResponse
  | ipPacket
  | keepalive
  | tunConfig
  | disconnect
  | ping
  | pong
  deriving DecidableEq, Repr

def MsgType.toByte : MsgType → UInt8
  | authRequest  => 0x01
  | authResponse => 0x02
  | ipPacket     => 0x03
  | keepalive    => 0x04
  | tunConfig    => 0x05
  | disconnect   => 0x06
  | ping         => 0x07
  | pong         => 0x08

def MsgType.ofByte (b : UInt8) : Option MsgType :=
  [authRequest, authResponse, ipPacket, keepalive, tunConfig, disconnect, ping, pong].find?
    fun t => t.toByte == b

@[simp] theorem MsgType.ofByte_toByte (t : MsgType) : ofByte t.toByte = some t := by
  cases t <;> rfl

structure PacketHeader where
  type   : UInt8
  length : UInt32
  deriving DecidableEq, Repr

/-- The four length bytes of a header, most significant first. -/
def lengthBytes (n : UInt32) : Bytes :=
  [((n >>> 24) &&& 0xFF).toUInt8, ((n >>> 16) &&& 0xFF).toUInt8,
   ((n >>> 8) &&& 0xFF).toUInt8, (n &&& 0xFF).toUInt8]

/-- `serialize_header`: overwrite the first 5 bytes of `buf`. -/
def serializeHeader (buf : Bytes) (hdr : PacketHeader) : Except String Bytes :=
  if buf.length < headerSize then .error "Buffer too small for header"
  else .ok (hdr.type :: lengthBytes hdr.length ++ buf.drop headerSize)

/-- `deserialize_header`: the header in the first 5 bytes, refused when the declared length exceeds
    `MAX_PAYLOAD`. -/
def deserializeHeader : Bytes → Option PacketHeader
  | b0 :: b1 :: b2 :: b3 :: b4 :: _ =>
      let length := b1.toUInt32 <<< 24 ||| b2.toUInt32 <<< 16 ||| b3.toUInt32 <<< 8 ||| b4.toUInt32
      if length.toNat > maxPayload then none else some ⟨b0, length⟩
  | _ => none

/-- `build_packet`: `[header][payload]`. -/
def buildPacket (type : UInt8) (payload : Bytes) : Except String Bytes :=
  if payload.length > maxPayload then .error "Payload exceeds MAX_PAYLOAD"
  else do
    let pkt ← serializeHeader (List.replicate (headerSize + payload.length) 0)
      ⟨type, UInt32.ofNat payload.length⟩
    return pkt.take headerSize ++ payload

def buildKeepalive : Except String Bytes := buildPacket MsgType.keepalive.toByte []

def buildIpPacket (ipData : Bytes) : Except String Bytes := buildPacket MsgType.ipPacket.toByte ipData

/-- `dispatch_packet`: hand the frame at the start of a received message to the callback, if one is set.
    `none` is "not invoked". -/
def dispatchPacket {β : Type} (buf : Bytes) (cb : Option (PacketHeader → Bytes → β)) : Option β := do
  let cb ← cb
  if buf.length ≥ headerSize then
    let hdr ← deserializeHeader buf
    if buf.length ≥ headerSize + hdr.length.toNat then
      some (cb hdr ((buf.drop headerSize).take hdr.length.toNat))
    else none
  else none

/-- `ip_version`. -/
def ipVersion : Bytes → UInt8
  | [] => 0
  | b :: _ => (b >>> 4) &&& 0x0F

/-- `ip4_dst`: bytes 16..19 as they lie in memory, read as a 32-bit number by a little-endian host. -/
def ip4Dst (pkt : Bytes) : UInt32 :=
  if pkt.length < 20 then 0
  else
    let byte (i : Nat) : UInt32 := (pkt.getD i 0).toUInt32
    byte 16 ||| byte 17 <<< 8 ||| byte 18 <<< 16 ||| byte 19 <<< 24

/-! ## The length field -/

/-- Four bytes shifted into place and or-ed are their big-endian sum. -/
theorem or_bytes {b1 b2 b3 b4 : Nat} (h2 : b2 < 256) (h3 : b3 < 256) (h4 : b4 < 256) :
    b1 <<< 24 ||| b2 <<< 16 ||| b3 <<< 8 ||| b4
      = b1 * 2 ^ 24 + b2 * 2 ^ 16 + b3 * 2 ^ 8 + b4 := by
  rw [Nat.or_assoc, Nat.or_assoc, ← Nat.shiftLeft_add_eq_or_of_lt (by omega : b4 < 2 ^ 8),
    ← Nat.shiftLeft_add_eq_or_of_lt (i := 16) (by rw [Nat.shiftLeft_eq]; omega),
    ← Nat.shiftLeft_add_eq_or_of_lt (i := 24) (by simp only [Nat.shiftLeft_eq]; omega)]
  simp only [Nat.shiftLeft_eq]
  omega

theorem and_255 (x : Nat) : x &&& 255 = x % 256 := Nat.and_two_pow_sub_one_eq_mod x 8

/-- **The length field round-trips** for every 32-bit length. -/
theorem decode_lengthBytes (n : UInt32) :
    ((n >>> 24) &&& 0xFF).toUInt8.toUInt32 <<< 24 ||| ((n >>> 16) &&& 0xFF).toUInt8.toUInt32 <<< 16
      ||| ((n >>> 8) &&& 0xFF).toUInt8.toUInt32 <<< 8 ||| (n &&& 0xFF).toUInt8.toUInt32 = n := by
  have hlt := n.toNat_lt
  apply UInt32.toNat_inj.mp
  simp only [UInt32.toNat_or, UInt32.toNat_shiftLeft, UInt8.toNat_toUInt32, UInt32.toNat_toUInt8,
    UInt32.toNat_and, UInt32.toNat_shiftRight, UInt32.reduceToNat, Nat.shiftRight_eq_div_pow, and_255,
    Nat.reduceMod, Nat.reducePow]
  rw [Nat.mod_eq_of_lt (b := 4294967296) (by simp only [Nat.shiftLeft_eq]; omega),
    Nat.mod_eq_of_lt (b := 4294967296) (by simp only [Nat.shiftLeft_eq]; omega),
    Nat.mod_eq_of_lt (b := 4294967296) (by simp only [Nat.shiftLeft_eq]; omega),
    or_bytes (by omega) (by omega) (by omega)]
  omega

/-! ## What the builders produce -/

/-- The bytes of a frame: type, length field, payload. -/
def frame (type : UInt8) (payload : Bytes) : Bytes :=
  type :: lengthBytes (UInt32.ofNat payload.length) ++ payload

theorem buildPacket_ok (type : UInt8) {payload : Bytes} (h : payload.length ≤ maxPayload) :
    buildPacket type payload = .ok (frame type payload) := by
  simp [buildPacket, Nat.not_lt.mpr h, serializeHeader, frame, lengthBytes, headerSize, bind,
    Except.bind, pure, Except.pure]

theorem buildPacket_error (type : UInt8) {payload : Bytes} (h : maxPayload < payload.length) :
    buildPacket type payload = .error "Payload exceeds MAX_PAYLOAD" := by
  simp [buildPacket, h]

/-- A frame that was built is the frame of its type and payload, and the payload fits. -/
theorem eq_frame_of_buildPacket {type : UInt8} {payload pkt : Bytes}
    (h : buildPacket type payload = .ok pkt) :
    payload.length ≤ maxPayload ∧ pkt = frame type payload := by
  by_cases hlen : payload.length ≤ maxPayload
  · rw [buildPacket_ok type hlen] at h
    exact ⟨hlen, (Except.ok.inj h).symm⟩
  · rw [buildPacket_error type (by omega)] at h
    exact absurd h (by simp)

theorem buildKeepalive_eq : buildKeepalive = .ok (frame MsgType.keepalive.toByte []) :=
  buildPacket_ok _ (by decide)

@[simp] theorem length_frame (type : UInt8) (payload : Bytes) :
    (frame type payload).length = headerSize + payload.length := by
  simp [frame, lengthBytes, headerSize]
  omega

theorem deserializeHeader_frame (type : UInt8) {payload : Bytes} (rest : Bytes)
    (h : payload.length ≤ maxPayload) :
    deserializeHeader (frame type payload ++ rest)
      = some ⟨type, UInt32.ofNat payload.length⟩ := by
  have hlen : (UInt32.ofNat payload.length).toNat = payload.length := by
    have : maxPayload < 2 ^ 32 := by decide
    rw [UInt32.toNat_ofNat', Nat.mod_eq_of_lt (by omega)]
  simp only [frame, lengthBytes, List.cons_append, deserializeHeader, decode_lengthBytes, hlen]
  rw [if_neg (by omega)]

/-- **A built frame is dispatched as it was built**, whatever follows it in the message. -/
theorem dispatchPacket_frame {β : Type} (type : UInt8) {payload : Bytes} (rest : Bytes)
    (cb : PacketHeader → Bytes → β) (h : payload.length ≤ maxPayload) :
    dispatchPacket (frame type payload ++ rest) (some cb)
      = some (cb ⟨type, UInt32.ofNat payload.length⟩ payload) := by
  have hlen : (UInt32.ofNat payload.length).toNat = payload.length := by
    have : maxPayload < 2 ^ 32 := by decide
    rw [UInt32.toNat_ofNat', Nat.mod_eq_of_lt (by omega)]
  have hbuf : (frame type payload ++ rest).length ≥ headerSize + payload.length := by simp
  have hdrop : (frame type payload ++ rest).drop headerSize = payload ++ rest := by
    simp [frame, lengthBytes, headerSize]
  simp only [dispatchPacket, Option.bind_eq_bind, Option.bind_some, deserializeHeader_frame type rest h,
    hlen, hdrop, List.take_left']
  rw [if_pos (by omega), if_pos hbuf]

/-- `dispatch_packet` calls the callback with the packet that it finds. -/
theorem dispatchPacket_map {β : Type} (buf : Bytes) (cb : PacketHeader → Bytes → β) :
    dispatchPacket buf (some cb) = (dispatchPacket buf (some Prod.mk)).map fun p => cb p.1 p.2 := by
  unfold dispatchPacket
  simp only [Option.bind_eq_bind, Option.bind_some]
  split
  · cases deserializeHeader buf with
    | none => rfl
    | some hdr =>
        simp only [Option.bind_some]
        split <;> rfl
  · rfl

/-- What `dispatch_packet` returns comes from one call of the callback. -/
theorem dispatchPacket_callback {β : Type} {buf : Bytes} {cb : PacketHeader → Bytes → β} {b : β}
    (h : dispatchPacket buf (some cb) = some b) : ∃ hdr payload, cb hdr payload = b := by
  rw [dispatchPacket_map] at h
  obtain ⟨p, -, hp⟩ := Option.map_eq_some_iff.mp h
  exact ⟨p.1, p.2, hp⟩

end Protocol
end Kirdi
