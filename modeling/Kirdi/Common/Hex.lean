import Kirdi.Common.Crypto
import Kirdi.Common.Inet

/-!
# `Common.Hex` — reading hexadecimal text

Embeds `hex_decode` of `common/crypto.cpp` and the `strtoul(s, nullptr, 16)` it reads each pair of
characters with. The grammar of `strtoul` is wider than two digits: blanks, a sign and a `0x` are skipped,
and the number ends at the first character that is no digit, so a pair that is not hexadecimal has a value
as well. The two functions are inverse to each other on the texts that `hex_encode` writes, up to the case
of the letters (`hexEncode_hexDecode`).
-/

namespace Kirdi
namespace Crypto

open Inet

/-! ## `strtoul` in base 16 -/

/-- `isspace` in the C locale. -/
def isSpace (c : UInt8) : Bool := c == 32 || (9 ≤ c && c ≤ 13)

/-- The value of a hexadecimal digit of either case. -/
def digitValue (c : UInt8) : Option Nat :=
  if 48 ≤ c ∧ c ≤ 57 then some (c.toNat - 48)
  else if 65 ≤ c ∧ c ≤ 70 then some (c.toNat - 55)
  else if 97 ≤ c ∧ c ≤ 102 then some (c.toNat - 87)
  else none

/-- `isxdigit`: the characters `0-9`, `a-f` and `A-F`. -/
def isHexDigit (c : UInt8) : Bool := (digitValue c).isSome

/-- The number at the start of a text, `acc` being what its digits so far amount to. -/
def scanDigits : Bytes → Nat → Nat
  | [], acc => acc
  | c :: rest, acc =>
      match digitValue c with
      | some d => scanDigits rest (16 * acc + d)
      | none => acc

/-- Skip a `0x` or `0X`. When no digit follows, the number is the `0`, which has the same value as no digits
    at all. -/
def skipPrefix (s : Bytes) : Bytes :=
  if s.head? = some 48 ∧ (s[1]? = some 120 ∨ s[1]? = some 88) then s.drop 2 else s

/-- `strtoul(s, nullptr, 16)` for a 64-bit `unsigned long`: a number out of range is `ULONG_MAX`, a minus
    sign negates modulo `2 ^ 64`. -/
def strtoul16 (s : Bytes) : UInt64 :=
  let s := s.dropWhile isSpace
  let unsigned := if s.head? = some 45 ∨ s.head? = some 43 then s.tail else s
  let n := scanDigits (skipPrefix unsigned) 0
  if n < 2 ^ 64 then
    if s.head? = some 45 then 0 - UInt64.ofNat n else UInt64.ofNat n
  else 18446744073709551615

/-! ## `hex_decode` -/

/-- `hex_decode`: each pair of characters through `strtoul` and a cast to `uint8_t`. -/
def hexDecode (hex : Bytes) : Except String Bytes :=
  if hex.length % 2 ≠ 0 then .error "Invalid hex string length"
  else .ok ((List.range (hex.length / 2)).map fun i =>
    (strtoul16 (cStr ((hex.drop (i * 2)).take 2))).toUInt8)

/-- Lower case of an ASCII letter. -/
def toLower (c : UInt8) : UInt8 := if 65 ≤ c ∧ c ≤ 90 then c + 32 else c

/-- A text of pairs of hexadecimal digits. -/
def IsHexadecimal (s : Bytes) : Prop := s.length % 2 = 0 ∧ ∀ c ∈ s, isHexDigit c = true

/-- `hex_decode` returns the bytes that a hexadecimal text stands for, and throws on any other text. -/
def DecodesExactly (s : Bytes) : Prop :=
  match hexDecode s with
  | .ok b => IsHexadecimal s ∧ hexEncode b = s.map toLower
  | .error _ => ¬ IsHexadecimal s

/-! ## One digit -/

/-- What a hexadecimal digit is: of a value below 16 that writes its lower case, and nothing that `strtoul`
    skips or stops at. -/
structure Digit (c : UInt8) (v : Nat) : Prop where
  lt : v < 16
  writes : hexDigit v = toLower c
  no_space : isSpace c = false
  no_sign : c ≠ 45 ∧ c ≠ 43
  no_prefix : c ≠ 120 ∧ c ≠ 88
  no_nul : c ≠ 0

theorem digit_iff {c : UInt8} {v : Nat} :
    Digit c v ↔ v < 16 ∧ hexDigit v = toLower c ∧ isSpace c = false ∧ (c ≠ 45 ∧ c ≠ 43) ∧
      (c ≠ 120 ∧ c ≠ 88) ∧ c ≠ 0 :=
  ⟨fun ⟨h1, h2, h3, h4, h5, h6⟩ => ⟨h1, h2, h3, h4, h5, h6⟩,
    fun ⟨h1, h2, h3, h4, h5, h6⟩ => ⟨h1, h2, h3, h4, h5, h6⟩⟩

instance {c : UInt8} {v : Nat} : Decidable (Digit c v) := decidable_of_iff _ digit_iff.symm

theorem digit_of_digitValue {c : UInt8} {v : Nat} (h : digitValue c = some v) : Digit c v := by
  -- 256 characters, at most one value each
  have hcheck : ∀ n < 256, ∀ v ∈ digitValue (UInt8.ofNat n), Digit (UInt8.ofNat n) v := by
    decide +kernel
  have hc := hcheck c.toNat c.toNat_lt v
  rw [UInt8.ofNat_toNat] at hc
  exact hc h

/-- The digits `hex_encode` writes are read back with their value. -/
theorem digitValue_hexDigit {n : Nat} (h : n < 16) : digitValue (hexDigit n) = some n := by
  have hcheck : ∀ n < 16, digitValue (hexDigit n) = some n := by decide
  exact hcheck n h

/-! ## One byte -/

/-- What `hex_decode` makes of one pair of characters. -/
def decodePair (a b : UInt8) : UInt8 := (strtoul16 (cStr [a, b])).toUInt8

/-- **A pair of digits is read as two digits.** -/
theorem strtoul16_pair {a b : UInt8} {v w : Nat} (ha : digitValue a = some v)
    (hb : digitValue b = some w) : strtoul16 (cStr [a, b]) = UInt64.ofNat (16 * v + w) := by
  have hda := digit_of_digitValue ha
  have hdb := digit_of_digitValue hb
  have hcstr : cStr [a, b] = [a, b] := by
    simp [cStr, hda.no_nul, hdb.no_nul]
  have hscan : scanDigits [a, b] 0 = 16 * v + w := by
    simp [scanDigits, ha, hb]
  have hskip : skipPrefix [a, b] = [a, b] := by
    simp [skipPrefix, hdb.no_prefix.1, hdb.no_prefix.2]
  have hlt : 16 * v + w < 2 ^ 64 := by
    have hv := hda.lt
    have hw := hdb.lt
    omega
  rw [hcstr]
  simp [strtoul16, hda.no_space, hda.no_sign.1, hda.no_sign.2, hskip, hscan]
  omega

theorem decodePair_digits {a b : UInt8} {v w : Nat} (ha : digitValue a = some v)
    (hb : digitValue b = some w) : (decodePair a b).toNat = 16 * v + w := by
  have hv := (digit_of_digitValue ha).lt
  have hw := (digit_of_digitValue hb).lt
  unfold decodePair
  rw [strtoul16_pair ha hb, UInt64.toNat_toUInt8, UInt64.toNat_ofNat', Nat.mod_eq_of_lt (by omega)]
  omega

/-- The pair of a byte is read back as that byte. -/
theorem decodePair_hexDigit (b : UInt8) : decodePair (hexDigit (b.toNat / 16)) (hexDigit (b.toNat % 16)) = b := by
  have hb := b.toNat_lt
  apply UInt8.toNat_inj.mp
  rw [decodePair_digits (digitValue_hexDigit (by omega)) (digitValue_hexDigit (by omega))]
  omega

/-- A byte read from two digits is written in lower case. -/
theorem hexEncode_decodePair {a b : UInt8} (ha : isHexDigit a = true) (hb : isHexDigit b = true) :
    hexEncode [decodePair a b] = [toLower a, toLower b] := by
  obtain ⟨v, hv⟩ := Option.isSome_iff_exists.mp ha
  obtain ⟨w, hw⟩ := Option.isSome_iff_exists.mp hb
  have hlt := (digit_of_digitValue hw).lt
  have hhigh : (16 * v + w) / 16 = v := by omega
  have hlow : (16 * v + w) % 16 = w := by omega
  simp only [hexEncode, List.flatMap_cons, List.flatMap_nil, List.append_nil, decodePair_digits hv hw,
    hhigh, hlow, (digit_of_digitValue hv).writes, (digit_of_digitValue hw).writes]

/-! ## Whole texts -/

/-- The pairs of a text, one after the other: what the loop of `hex_decode` runs over. -/
def decodePairs : Bytes → Bytes
  | a :: b :: rest => decodePair a b :: decodePairs rest
  | _ => []

theorem loop_eq_decodePairs : ∀ hex : Bytes, (List.range (hex.length / 2)).map (fun i =>
    (strtoul16 (cStr ((hex.drop (i * 2)).take 2))).toUInt8) = decodePairs hex
  | [] => by simp [decodePairs]
  | [_] => by simp [decodePairs]
  | a :: b :: rest => by
      have hlen : (a :: b :: rest).length / 2 = rest.length / 2 + 1 := by
        simp only [List.length_cons]
        omega
      have hdrop : ∀ i, (a :: b :: rest).drop ((i + 1) * 2) = rest.drop (i * 2) := fun i => by
        rw [show (i + 1) * 2 = i * 2 + 1 + 1 from by omega, List.drop_succ_cons, List.drop_succ_cons]
      rw [hlen, List.range_succ_eq_map, List.map_cons, List.map_map]
      simp only [Function.comp_def, Nat.succ_eq_add_one, hdrop, decodePairs, decodePair,
        loop_eq_decodePairs rest]
      rfl

/-- **`hex_decode` returns on every text of even length**, whatever its characters are. -/
theorem hexDecode_even {s : Bytes} (h : s.length % 2 = 0) : hexDecode s = .ok (decodePairs s) := by
  simp only [hexDecode, h, loop_eq_decodePairs, ne_eq, not_true_eq_false, if_false]

theorem hexDecode_odd {s : Bytes} (h : s.length % 2 = 1) :
    hexDecode s = .error "Invalid hex string length" := by
  simp [hexDecode, h]

/-- **Decoding undoes encoding.** -/
theorem decodePairs_hexEncode (data : Bytes) : decodePairs (hexEncode data) = data := by
  induction data with
  | nil => rfl
  | cons b data ih =>
      have hcons : hexEncode (b :: data)
          = hexDigit (b.toNat / 16) :: hexDigit (b.toNat % 16) :: hexEncode data := rfl
      rw [hcons, decodePairs, decodePair_hexDigit, ih]

theorem hexDecode_hexEncode (data : Bytes) : hexDecode (hexEncode data) = .ok data := by
  have heven : (hexEncode data).length % 2 = 0 := by
    rw [length_hexEncode]
    omega
  rw [hexDecode_even heven, decodePairs_hexEncode]

theorem hexEncode_injective {b b' : Bytes} (h : hexEncode b = hexEncode b') : b = b' := by
  rw [← decodePairs_hexEncode b, h, decodePairs_hexEncode]

/-- **Encoding undoes decoding on hexadecimal texts**, up to case. -/
theorem hexEncode_decodePairs : ∀ {s : Bytes}, IsHexadecimal s → hexEncode (decodePairs s) = s.map toLower
  | [], _ => rfl
  | [_], h => absurd h.1 (by simp)
  | a :: b :: rest, ⟨heven, hdigits⟩ => by
      have hrest : IsHexadecimal rest := by
        refine ⟨?_, fun c hc => hdigits c (by simp [hc])⟩
        simp only [List.length_cons] at heven
        omega
      have hpair := hexEncode_decodePair (hdigits a (by simp)) (hdigits b (by simp))
      rw [decodePairs, ← List.singleton_append, hexEncode, List.flatMap_append, ← hexEncode, ← hexEncode,
        hpair, hexEncode_decodePairs hrest]
      rfl

/-- **`hex_decode` decodes exactly the hexadecimal texts** where the check of the length is all it takes:
    on texts of odd length, which it refuses, and on texts of digits. -/
theorem decodesExactly_iff (s data : Bytes) :
    (DecodesExactly s ↔ s.length % 2 = 1 ∨ ∀ c ∈ s, isHexDigit c = true) ∧
      hexDecode (hexEncode data) = .ok data := by
  refine ⟨?_, hexDecode_hexEncode data⟩
  unfold DecodesExactly
  rcases Nat.mod_two_eq_zero_or_one s.length with heven | hodd
  · rw [hexDecode_even heven]
    constructor
    · rintro ⟨hhex, -⟩
      exact Or.inr hhex.2
    · rintro (hodd | hdigits)
      · omega
      · exact ⟨⟨heven, hdigits⟩, hexEncode_decodePairs ⟨heven, hdigits⟩⟩
  · rw [hexDecode_odd hodd]
    exact iff_of_true (fun hhex => by have := hhex.1; omega) (Or.inl hodd)

/-- **Two letters that are no digits** are decoded, to a zero byte. -/
theorem decodes_zz : hexDecode (ascii "zz") = .ok [0] ∧ ¬ DecodesExactly (ascii "zz") := by
  have hdecode : hexDecode (ascii "zz") = .ok [0] := by decide +kernel
  refine ⟨hdecode, ?_⟩
  unfold DecodesExactly
  rw [hdecode]
  rintro ⟨-, hwrong⟩
  exact absurd hwrong (by decide)

end Crypto
end Kirdi
