import Kirdi.Common.Protocol

/-!
# `Common.Inet` — IPv4 addresses in text, host and network order

The C library functions the code converts addresses with: `inet_pton` (the dotted-quad automaton of
`AF_INET`), `inet_ntop`, and `ntohl`/`htonl` on a little-endian host. An `in_addr_t` is the 32-bit number
whose bytes in memory, lowest first, are the four octets.
-/

namespace Kirdi
namespace Inet

/-- The four bytes of a 32-bit number as they lie in memory. -/
def octets (a : UInt32) : List Nat :=
  [a.toNat % 256, a.toNat / 2 ^ 8 % 256, a.toNat / 2 ^ 16 % 256, a.toNat / 2 ^ 24 % 256]

/-- The 32-bit number with these four bytes in memory. -/
def ofOctets (o0 o1 o2 o3 : Nat) : UInt32 :=
  UInt32.ofNat (o0 + o1 * 2 ^ 8 + o2 * 2 ^ 16 + o3 * 2 ^ 24)

/-- `htonl`: reverse the bytes. -/
def htonl (x : UInt32) : UInt32 :=
  ofOctets (x.toNat / 2 ^ 24 % 256) (x.toNat / 2 ^ 16 % 256) (x.toNat / 2 ^ 8 % 256) (x.toNat % 256)

/-- `ntohl`: the same function. -/
def ntohl (x : UInt32) : UInt32 := htonl x

/-- `s.c_str()` as a C function reads it: up to the first NUL. -/
def cStr (s : Bytes) : Bytes := s.takeWhile (· ≠ 0)

/-- The scan of `inet_pton`: octets finished, the value of the current one, whether it has a digit. -/
def ptonScan : Bytes → List Nat → Nat → Bool → Option (List Nat)
  | [], done, cur, sawDigit =>
      if done.length + (if sawDigit then 1 else 0) < 4 then none else some (done ++ [cur])
  | ch :: rest, done, cur, sawDigit =>
      if 48 ≤ ch ∧ ch ≤ 57 then
        let new := cur * 10 + (ch.toNat - 48)
        if sawDigit ∧ cur = 0 then none  -- no leading zeros
        else if new > 255 then none
        else if ¬ sawDigit ∧ done.length + 1 > 4 then none
        else ptonScan rest done new true
      else if ch = 46 ∧ sawDigit then
        if done.length + 1 = 4 then none else ptonScan rest (done ++ [cur]) 0 false
      else none

/-- `inet_pton(AF_INET, src, &dst)`: the address, or failure (and then `dst` is left alone). -/
def inetPton (src : Bytes) : Option UInt32 :=
  match ptonScan src [] 0 false with
  | some [o0, o1, o2, o3] => some (ofOctets o0 o1 o2 o3)
  | _ => none

/-- `%u` of an octet. -/
def decimalOctet (n : Nat) : Bytes :=
  if n < 10 then [UInt8.ofNat (48 + n)]
  else if n < 100 then [UInt8.ofNat (48 + n / 10), UInt8.ofNat (48 + n % 10)]
  else [UInt8.ofNat (48 + n / 100), UInt8.ofNat (48 + n / 10 % 10), UInt8.ofNat (48 + n % 10)]

/-- `inet_ntop(AF_INET, &a, buf, sizeof(buf))`: `%u.%u.%u.%u`. -/
def inetNtop (a : UInt32) : Bytes := [46].intercalate ((octets a).map decimalOctet)

/-! ## Byte order -/

theorem toNat_ofOctets {o0 o1 o2 o3 : Nat} (h0 : o0 < 256) (h1 : o1 < 256) (h2 : o2 < 256)
    (h3 : o3 < 256) :
    (ofOctets o0 o1 o2 o3).toNat = o0 + o1 * 2 ^ 8 + o2 * 2 ^ 16 + o3 * 2 ^ 24 := by
  unfold ofOctets
  rw [UInt32.toNat_ofNat', Nat.mod_eq_of_lt (by omega)]

/-- The bytes of an address determine it. -/
theorem ofOctets_octets (a : UInt32) :
    ofOctets (a.toNat % 256) (a.toNat / 2 ^ 8 % 256) (a.toNat / 2 ^ 16 % 256) (a.toNat / 2 ^ 24 % 256)
      = a := by
  have ha := a.toNat_lt
  apply UInt32.toNat_inj.mp
  rw [toNat_ofOctets (by omega) (by omega) (by omega) (by omega)]
  omega

theorem htonl_ofOctets {o0 o1 o2 o3 : Nat} (h0 : o0 < 256) (h1 : o1 < 256) (h2 : o2 < 256)
    (h3 : o3 < 256) : htonl (ofOctets o0 o1 o2 o3) = ofOctets o3 o2 o1 o0 := by
  unfold htonl
  rw [toNat_ofOctets h0 h1 h2 h3]
  congr 1 <;> omega

/-- **Reversing the bytes twice is the identity.** -/
theorem htonl_htonl (x : UInt32) : htonl (htonl x) = x := by
  have hb : ∀ n : Nat, n % 256 < 256 := fun n => Nat.mod_lt n (by decide)
  have hx := ofOctets_octets x
  rw [← hx, htonl_ofOctets (hb _) (hb _) (hb _) (hb _), htonl_ofOctets (hb _) (hb _) (hb _) (hb _)]

theorem htonl_injective {x y : UInt32} (h : htonl x = htonl y) : x = y := by
  rw [← htonl_htonl x, h, htonl_htonl]

/-! ## The text form round-trips -/

/-- Scanning one more digit of an octet. -/
theorem ptonScan_digit {d cur : Nat} {done : List Nat} {sawDigit : Bool} (rest : Bytes) (hd : d < 10)
    (hzero : sawDigit = true → cur ≠ 0) (hnew : cur * 10 + d ≤ 255) (hlen : done.length < 4) :
    ptonScan (UInt8.ofNat (48 + d) :: rest) done cur sawDigit
      = ptonScan rest done (cur * 10 + d) true := by
  have hnat : (UInt8.ofNat (48 + d)).toNat = 48 + d := by
    rw [UInt8.toNat_ofNat', Nat.mod_eq_of_lt (by omega)]
  have hrange : (48 : UInt8) ≤ UInt8.ofNat (48 + d) ∧ UInt8.ofNat (48 + d) ≤ 57 := by
    simp only [UInt8.le_iff_toNat_le, hnat]
    rw [show (48 : UInt8).toNat = 48 from rfl, show (57 : UInt8).toNat = 57 from rfl]
    omega
  have hsub : 48 + d - 48 = d := by omega
  simp only [ptonScan, if_pos hrange, hnat, hsub]
  rw [if_neg (fun h => hzero h.1 h.2), if_neg (by omega), if_neg (fun h => by omega)]

/-- **Scanning the digits of an octet** leaves its value as the current one. -/
theorem ptonScan_octet {n : Nat} (hn : n < 256) {done : List Nat} (rest : Bytes)
    (hlen : done.length < 4) :
    ptonScan (decimalOctet n ++ rest) done 0 false = ptonScan rest done n true := by
  unfold decimalOctet
  by_cases h10 : n < 10
  · rw [if_pos h10]
    show ptonScan (UInt8.ofNat (48 + n) :: rest) done 0 false = _
    rw [ptonScan_digit rest h10 (by simp) (by omega) hlen, Nat.zero_mul, Nat.zero_add]
  · rw [if_neg h10]
    by_cases h100 : n < 100
    · rw [if_pos h100]
      show ptonScan (UInt8.ofNat (48 + n / 10) :: UInt8.ofNat (48 + n % 10) :: rest) done 0 false = _
      rw [ptonScan_digit _ (by omega) (by simp) (by omega) hlen,
        ptonScan_digit _ (by omega) (fun _ => by omega) (by omega) hlen]
      congr 1
      omega
    · rw [if_neg h100]
      show ptonScan (UInt8.ofNat (48 + n / 100) :: UInt8.ofNat (48 + n / 10 % 10)
        :: UInt8.ofNat (48 + n % 10) :: rest) done 0 false = _
      rw [ptonScan_digit _ (by omega) (by simp) (by omega) hlen,
        ptonScan_digit _ (by omega) (fun _ => by omega) (by omega) hlen,
        ptonScan_digit _ (by omega) (fun _ => by omega) (by omega) hlen]
      congr 1
      omega

/-- Scanning the dot after an octet. -/
theorem ptonScan_dot {cur : Nat} {done : List Nat} (rest : Bytes) (hlen : done.length + 1 < 4) :
    ptonScan (46 :: rest) done cur true = ptonScan rest (done ++ [cur]) 0 false := by
  have hrange : ¬ ((48 : UInt8) ≤ 46 ∧ (46 : UInt8) ≤ 57) := by decide
  simp only [ptonScan, if_neg hrange]
  rw [if_pos ⟨trivial, trivial⟩, if_neg (by omega)]

/-- **`inet_ntop` followed by `inet_pton` is the identity.** -/
theorem inetPton_inetNtop (a : UInt32) : inetPton (inetNtop a) = some a := by
  have htext : inetNtop a = decimalOctet (a.toNat % 256) ++ 46 ::
      (decimalOctet (a.toNat / 2 ^ 8 % 256) ++ 46 ::
        (decimalOctet (a.toNat / 2 ^ 16 % 256) ++ 46 ::
          (decimalOctet (a.toNat / 2 ^ 24 % 256) ++ []))) := by
    simp [inetNtop, octets, List.intercalate, List.intersperse]
  have hscan : ptonScan (inetNtop a) [] 0 false = some [a.toNat % 256, a.toNat / 2 ^ 8 % 256,
      a.toNat / 2 ^ 16 % 256, a.toNat / 2 ^ 24 % 256] := by
    rw [htext, ptonScan_octet (by omega) _ (by simp), ptonScan_dot _ (by simp),
      ptonScan_octet (by omega) _ (by simp), ptonScan_dot _ (by simp),
      ptonScan_octet (by omega) _ (by simp), ptonScan_dot _ (by simp),
      ptonScan_octet (by omega) _ (by simp)]
    rfl
  unfold inetPton
  rw [hscan]
  exact congrArg some (ofOctets_octets a)

/-- The text of an address contains no NUL. -/
theorem cStr_inetNtop (a : UInt32) : cStr (inetNtop a) = inetNtop a := by
  have hdigit : ∀ k < 10, UInt8.ofNat (48 + k) ≠ 0 := by decide
  have hoctet : ∀ n < 256, ∀ b ∈ decimalOctet n, b ≠ 0 := by
    intro n hn b hb
    unfold decimalOctet at hb
    split at hb
    · rw [List.mem_singleton.mp hb]
      exact hdigit n (by omega)
    · split at hb
      · rcases List.mem_pair.mp hb with rfl | rfl
        · exact hdigit _ (by omega)
        · exact hdigit _ (by omega)
      · rcases List.mem_cons.mp hb with rfl | hb
        · exact hdigit _ (by omega)
        · rcases List.mem_pair.mp hb with rfl | rfl
          · exact hdigit _ (by omega)
          · exact hdigit _ (by omega)
  -- a C string ends at its first zero byte, and there is none in digits and dots
  apply List.takeWhile_eq_self_iff.mpr
  intro b hb
  rw [decide_eq_true_eq]
  simp only [inetNtop, octets, List.map_cons, List.map_nil, List.intercalate, List.intersperse,
    List.flatten_cons, List.flatten_nil, List.mem_append, List.mem_singleton, List.not_mem_nil,
    or_false] at hb
  rcases hb with hb | rfl | hb | rfl | hb | rfl | hb
  · exact hoctet _ (by omega) b hb
  · decide
  · exact hoctet _ (by omega) b hb
  · decide
  · exact hoctet _ (by omega) b hb
  · decide
  · exact hoctet _ (by omega) b hb

end Inet
end Kirdi
