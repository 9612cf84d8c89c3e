import Kirdi.Common.Protocol

/-!
# `Common.Codec` — frames and messages

`dispatch_packet` inverts `build_packet`: it finds a packet at the start of a message exactly when the
message begins with the frame of that packet, and there is one answer to what that packet is.

`on_read` appends a message to the read buffer, dispatches the buffer and consumes all of it. So each
message is dispatched on its own (`onReads_eq`).
-/

namespace Kirdi
namespace Protocol

/-- The calls of its callback that `dispatch_packet` makes. -/
def packets (buf : Bytes) : List (PacketHeader × Bytes) := (dispatchPacket buf (some Prod.mk)).toList

/-- `on_read` of a message: the read buffer afterwards, and the calls of the callback. -/
def onRead (readBuf message : Bytes) : Bytes × List (PacketHeader × Bytes) :=
  let readBuf := readBuf ++ message
  (readBuf.drop readBuf.length, packets readBuf)

/-- One message after the other. -/
def onReads : Bytes → List Bytes → Bytes × List (PacketHeader × Bytes)
  | readBuf, [] => (readBuf, [])
  | readBuf, message :: messages =>
      let (readBuf, calls) := onRead readBuf message
      let (readBuf, later) := onReads readBuf messages
      (readBuf, calls ++ later)

/-- The payload length that a message declares. -/
def declaredLength : Bytes → Nat
  | _ :: b1 :: b2 :: b3 :: b4 :: _ => b1.toNat * 2 ^ 24 + b2.toNat * 2 ^ 16 + b3.toNat * 2 ^ 8 + b4.toNat
  | _ => 0

variable {buf payload : Bytes} {hdr : PacketHeader}

/-! ## Decoding -/

/-- Four bytes as `deserialize_header` reads them. -/
theorem toNat_decode (b1 b2 b3 b4 : UInt8) :
    (b1.toUInt32 <<< 24 ||| b2.toUInt32 <<< 16 ||| b3.toUInt32 <<< 8 ||| b4.toUInt32).toNat
      = b1.toNat * 2 ^ 24 + b2.toNat * 2 ^ 16 + b3.toNat * 2 ^ 8 + b4.toNat := by
  have h1 := b1.toNat_lt
  have h2 := b2.toNat_lt
  have h3 := b3.toNat_lt
  have h4 := b4.toNat_lt
  simp only [UInt32.toNat_or, UInt32.toNat_shiftLeft, UInt8.toNat_toUInt32, UInt32.reduceToNat, Nat.reduceMod]
  rw [Nat.mod_eq_of_lt (by simp only [Nat.shiftLeft_eq]; omega),
    Nat.mod_eq_of_lt (by simp only [Nat.shiftLeft_eq]; omega),
    Nat.mod_eq_of_lt (by simp only [Nat.shiftLeft_eq]; omega), or_bytes h2 h3 h4]

/-- **The length field round-trips** for every four bytes. -/
theorem lengthBytes_decode (b1 b2 b3 b4 : UInt8) :
    lengthBytes (b1.toUInt32 <<< 24 ||| b2.toUInt32 <<< 16 ||| b3.toUInt32 <<< 8 ||| b4.toUInt32)
      = [b1, b2, b3, b4] := by
  have hn := toNat_decode b1 b2 b3 b4
  generalize b1.toUInt32 <<< 24 ||| b2.toUInt32 <<< 16 ||| b3.toUInt32 <<< 8 ||| b4.toUInt32 = n at hn
  have h1 := b1.toNat_lt
  have h2 := b2.toNat_lt
  have h3 := b3.toNat_lt
  have h4 := b4.toNat_lt
  unfold lengthBytes
  refine congrArg₂ List.cons ?_ (congrArg₂ List.cons ?_ (congrArg₂ List.cons ?_ (congrArg₂ List.cons ?_ rfl))) <;>
    apply UInt8.toNat_inj.mp <;>
    simp only [UInt32.toNat_toUInt8, UInt32.toNat_and, UInt32.toNat_shiftRight, UInt32.reduceToNat,
      Nat.shiftRight_eq_div_pow, and_255, Nat.reduceMod, Nat.reducePow, hn] <;>
    omega

/-- **What `deserialize_header` accepts**: the five bytes of a header whose length is allowed. -/
theorem deserializeHeader_iff :
    deserializeHeader buf = some hdr ↔
      hdr.length.toNat ≤ maxPayload ∧ ∃ rest, buf = hdr.type :: lengthBytes hdr.length ++ rest := by
  constructor
  · intro h
    unfold deserializeHeader at h
    split at h
    · rename_i b0 b1 b2 b3 b4 rest
      obtain ⟨hlen, ⟨⟩⟩ := Option.ite_none_left_eq_some.mp h
      exact ⟨Nat.not_lt.mp hlen, rest, by rw [lengthBytes_decode]; rfl⟩
    · exact absurd h (by simp)
  · rintro ⟨hlen, rest, rfl⟩
    simp only [lengthBytes, List.cons_append, deserializeHeader, decode_lengthBytes]
    rw [if_neg (Nat.not_lt.mpr hlen)]

/-! ## Dispatching a message -/

theorem dispatchPacket_iff :
    dispatchPacket buf (some Prod.mk) = some (hdr, payload) ↔
      deserializeHeader buf = some hdr ∧ headerSize + hdr.length.toNat ≤ buf.length ∧
        (buf.drop headerSize).take hdr.length.toNat = payload := by
  unfold dispatchPacket
  simp only [Option.bind_eq_bind, Option.bind_some, Option.ite_none_right_eq_some, Option.bind_eq_some_iff,
    Option.some.injEq, Prod.mk.injEq]
  constructor
  · rintro ⟨-, hdr', hdec, hlen, rfl, hpayload⟩
    exact ⟨hdec, hlen, hpayload⟩
  · rintro ⟨hdec, hlen, hpayload⟩
    exact ⟨Nat.le_trans (Nat.le_add_right _ _) hlen, hdr, hdec, hlen, rfl, hpayload⟩

/-- A packet is found exactly at the start of a message that begins with its frame. -/
theorem mem_packets :
    (hdr, payload) ∈ packets buf ↔
      payload.length ≤ maxPayload ∧ hdr.length = UInt32.ofNat payload.length ∧
        ∃ rest, buf = frame hdr.type payload ++ rest := by
  rw [packets, Option.mem_toList, dispatchPacket_iff, deserializeHeader_iff]
  constructor
  · rintro ⟨⟨hmax, rest, rfl⟩, hlen, hpayload⟩
    -- the buffer holds all that the length field announces
    have hdrop : (hdr.type :: lengthBytes hdr.length ++ rest).drop headerSize = rest := rfl
    have hrest : hdr.length.toNat ≤ rest.length := by
      simp only [List.cons_append, List.length_cons, List.length_append, lengthBytes, headerSize,
        List.length_nil] at hlen
      omega
    rw [hdrop] at hpayload
    have hsize : payload.length = hdr.length.toNat := by
      rw [← hpayload, List.length_take, Nat.min_eq_left hrest]
    have hfield : hdr.length = UInt32.ofNat payload.length := by
      rw [hsize, UInt32.ofNat_toNat]
    refine ⟨hsize ▸ hmax, hfield, rest.drop hdr.length.toNat, ?_⟩
    rw [frame, ← hfield, ← hpayload, List.append_assoc, List.take_append_drop]
  · rintro ⟨hmax, hfield, rest, rfl⟩
    -- an admitted payload is below `2 ^ 32`, so the field gives its length back
    have hsize : hdr.length.toNat = payload.length := by
      have : maxPayload < 2 ^ 32 := by decide
      rw [hfield, UInt32.toNat_ofNat', Nat.mod_eq_of_lt (by omega)]
    refine ⟨⟨by rw [hsize]; exact hmax, payload ++ rest, ?_⟩, ?_, ?_⟩
    · rw [frame, ← hfield, List.append_assoc]
    · rw [List.length_append, length_frame, hsize]
      omega
    · show ((frame hdr.type payload ++ rest).drop headerSize).take hdr.length.toNat = payload
      have hdrop : (frame hdr.type payload ++ rest).drop headerSize = payload ++ rest := rfl
      rw [hdrop, hsize, List.take_left']
      rfl

/-- A frame declares the length of its payload. -/
theorem declaredLength_frame {type : UInt8} {rest : Bytes} (h : payload.length ≤ maxPayload) :
    declaredLength (frame type payload ++ rest) = payload.length := by
  have : maxPayload < 2 ^ 32 := by decide
  simp only [frame, lengthBytes, List.cons_append, declaredLength]
  rw [← toNat_decode, decode_lengthBytes, UInt32.toNat_ofNat', Nat.mod_eq_of_lt (by omega)]

/-- At most one packet is found. -/
theorem length_packets_le (buf : Bytes) : (packets buf).length ≤ 1 := by
  unfold packets
  cases dispatchPacket buf (some Prod.mk) with
  | none => exact Nat.zero_le _
  | some p => exact Nat.le_refl _

/-- **The messages without a packet**: too short, or the declared length is over the limit or beyond the end. -/
theorem packets_eq_nil_iff :
    packets buf = [] ↔
      buf.length < headerSize ∨ maxPayload < declaredLength buf ∨ buf.length < headerSize + declaredLength buf := by
  constructor
  · intro hnil
    match buf with
    | [] | [_] | [_, _] | [_, _, _] | [_, _, _, _] => exact Or.inl (by simp [headerSize])
    | b0 :: b1 :: b2 :: b3 :: b4 :: rest =>
        by_contra hfits
        simp only [not_or, Nat.not_lt] at hfits
        obtain ⟨-, hmax, hlen⟩ := hfits
        -- the header that the message begins with
        have hdec := toNat_decode b1 b2 b3 b4
        have hheader : deserializeHeader (b0 :: b1 :: b2 :: b3 :: b4 :: rest) = some
            ⟨b0, b1.toUInt32 <<< 24 ||| b2.toUInt32 <<< 16 ||| b3.toUInt32 <<< 8 ||| b4.toUInt32⟩ :=
          if_neg (Nat.not_lt.mpr (hdec ▸ hmax))
        have hfound := dispatchPacket_iff.mpr ⟨hheader, hdec ▸ hlen, rfl⟩
        rw [packets, hfound] at hnil
        exact absurd hnil (by simp)
  · intro hcases
    by_contra hne
    obtain ⟨⟨hdr, payload⟩, hp⟩ := List.exists_mem_of_ne_nil _ hne
    obtain ⟨hmax, -, rest, rfl⟩ := mem_packets.mp hp
    rw [declaredLength_frame hmax, List.length_append, length_frame] at hcases
    omega

/-! ## Reading messages -/

/-- `on_read` leaves the read buffer empty. -/
theorem onRead_nil (readBuf message : Bytes) : (onRead readBuf message).1 = [] := List.drop_length

/-- **Messages are dispatched one by one.** -/
theorem onReads_eq (messages : List Bytes) :
    onReads [] messages = ([], messages.flatMap fun message => (onRead [] message).2) := by
  induction messages with
  | nil => rfl
  | cons message messages ih =>
      have hbuf := onRead_nil [] message
      show ((onReads (onRead [] message).1 messages).1,
        (onRead [] message).2 ++ (onReads (onRead [] message).1 messages).2) = _
      rw [hbuf, ih, List.flatMap_cons]

/-- **The frame codec.** A built frame is dispatched once, as it was built; a packet is dispatched only from its
    frame, at most once, and from no other message; and messages do not affect one another. -/
theorem frame_codec :
    (∀ (type : UInt8) (payload rest : Bytes), payload.length ≤ maxPayload →
      ∃ pkt hdr, buildPacket type payload = .ok pkt ∧ packets (pkt ++ rest) = [(hdr, payload)] ∧
        hdr.type = type ∧ hdr.length.toNat = payload.length) ∧
    (∀ (buf : Bytes) (hdr : PacketHeader) (payload : Bytes), (hdr, payload) ∈ packets buf →
      ∃ pkt rest, buildPacket hdr.type payload = .ok pkt ∧ buf = pkt ++ rest) ∧
    (∀ buf : Bytes, (packets buf).length ≤ 1) ∧
    (∀ buf : Bytes, packets buf = [] ↔
      buf.length < headerSize ∨ maxPayload < declaredLength buf ∨ buf.length < headerSize + declaredLength buf) ∧
    (∀ messages : List Bytes, (onReads [] messages).2 = messages.flatMap packets) := by
  refine ⟨?_, ?_, length_packets_le, fun _ => packets_eq_nil_iff, ?_⟩
  · intro type payload rest hlen
    refine ⟨_, _, buildPacket_ok type hlen, congrArg Option.toList (dispatchPacket_frame type rest Prod.mk hlen), rfl, ?_⟩
    have : maxPayload < 2 ^ 32 := by decide
    rw [UInt32.toNat_ofNat', Nat.mod_eq_of_lt (by omega)]
  · intro buf hdr payload hp
    obtain ⟨hmax, -, rest, rfl⟩ := mem_packets.mp hp
    exact ⟨_, rest, buildPacket_ok hdr.type hmax, rfl⟩
  · intro messages
    rw [onReads_eq]
    rfl

/-- A ping, an over-long message and a truncated one. -/
theorem frame_codec_ping :
    packets (frame MsgType.ping.toByte [1, 2] ++ [9]) = [(⟨0x07, 2⟩, [1, 2])] ∧
      (onReads [] [frame MsgType.ping.toByte [1, 2], [7, 0, 1, 0, 0], [7, 0]]).2 = [(⟨0x07, 2⟩, [1, 2])] := by
  obtain ⟨pkt, hdr, hbuild, hpackets, htype, hlen⟩ := frame_codec.1 MsgType.ping.toByte [1, 2] [9] (by decide)
  have hpkt : pkt = frame MsgType.ping.toByte [1, 2] := (eq_frame_of_buildPacket hbuild).2
  have hlength : hdr.length = 2 := UInt32.toNat_inj.mp hlen
  have hhdr : hdr = ⟨0x07, 2⟩ := by
    cases hdr
    simp only at htype hlength
    rw [htype, hlength]
    rfl
  refine ⟨hpkt ▸ hhdr ▸ hpackets, ?_⟩
  rw [frame_codec.2.2.2.2]
  decide

end Protocol
end Kirdi
