import Kirdi.Common.Hex

/-!
# `Common.Tokens` — what a token is bound to

A token is the HMAC of `"timestamp_hex:user"` in hexadecimal. The timestamp takes exactly sixteen digits, so
the data of a token splits in one way only, whatever the name of the user is; under a secret for which the
HMAC does not collide on the two data strings, equal tokens therefore have the same user and the same time
(`buildAuthToken_inj`), and `verify_auth_token` accepts no token of another user or of a time it does not
come to.
-/

namespace Kirdi
namespace Crypto

open WrapSearch

/-- The data of a token. -/
def tokenData (timestamp : UInt64) (user : Bytes) : Bytes := timestampHex timestamp ++ ascii ":" ++ user

/-- The HMAC does not map two different strings to one value. -/
def NoCollision (deps : Deps) (secret data data' : Bytes) : Prop :=
  deps.hmac secret data = deps.hmac secret data' → data = data'

/-- `verify_auth_token` comes to the time `t`: the loop guard has held up to it, and no time before it had
    the token. -/
def Tries (deps : Deps) (user secret token : Bytes) (timestamp windowSec t : UInt64) : Prop :=
  ∃ i : ℕ, (∀ j ≤ i, timestamp - windowSec + UInt64.ofNat j ≤ timestamp + windowSec) ∧
    (∀ j < i, token ≠ buildAuthToken deps user secret (timestamp - windowSec + UInt64.ofNat j)) ∧
    t = timestamp - windowSec + UInt64.ofNat i

/-! ## The data splits in one way -/

/-- The digits of a number determine it. -/
theorem eq_of_digits {b n a a' : ℕ} (ha : a < b ^ n) (ha' : a' < b ^ n)
    (h : ∀ i < n, a / b ^ i % b = a' / b ^ i % b) : a = a' := by
  induction n generalizing a a' with
  | zero =>
      rw [pow_zero] at ha ha'
      omega
  | succ n ih =>
      -- the lowest digit, and the others as the digits of the quotient
      have hlow : a % b = a' % b := by simpa using h 0 (Nat.succ_pos n)
      rw [pow_succ'] at ha ha'
      have hhigh : a / b = a' / b := by
        refine ih (Nat.div_lt_of_lt_mul ha) (Nat.div_lt_of_lt_mul ha') ?_
        intro i hi
        rw [Nat.div_div_eq_div_mul, Nat.div_div_eq_div_mul, ← pow_succ']
        exact h (i + 1) (by omega)
      rw [← Nat.div_add_mod a b, hhigh, hlow, Nat.div_add_mod]

theorem hexDigit_inj {m n : ℕ} (hm : m < 16) (hn : n < 16) (h : hexDigit m = hexDigit n) : m = n := by
  have hvalue := digitValue_hexDigit hm
  rw [h, digitValue_hexDigit hn, Option.some.injEq] at hvalue
  exact hvalue.symm

@[simp] theorem length_timestampHex (t : UInt64) : (timestampHex t).length = 16 := by
  simp [timestampHex]

/-- **Sixteen digits are enough** for every 64-bit time. -/
theorem timestampHex_injective {t t' : UInt64} (h : timestampHex t = timestampHex t') : t = t' := by
  have hdigits := List.map_inj_left.mp h
  have ht : t.toNat < 16 ^ 16 := t.toNat_lt
  have ht' : t'.toNat < 16 ^ 16 := t'.toNat_lt
  apply UInt64.toNat_inj.mp
  refine eq_of_digits ht ht' ?_
  intro i hi
  -- the digit of weight `16 ^ i` is the one at position `15 - i`
  have hdigit := hdigits (15 - i) (List.mem_range.mpr (by omega))
  rw [show 15 - (15 - i) = i from by omega] at hdigit
  exact hexDigit_inj (Nat.mod_lt _ (by decide)) (Nat.mod_lt _ (by decide)) hdigit

/-- **No user name takes over digits of the time or the separator.** -/
theorem tokenData_injective {t t' : UInt64} {user user' : Bytes}
    (h : tokenData t user = tokenData t' user') : user = user' ∧ t = t' := by
  unfold tokenData at h
  obtain ⟨hstart, huser⟩ := List.append_inj h (by simp)
  exact ⟨huser, timestampHex_injective (List.append_inj_left' hstart rfl)⟩

theorem buildAuthToken_inj {deps : Deps} {secret user user' : Bytes} {t t' : UInt64}
    (hcoll : NoCollision deps secret (tokenData t user) (tokenData t' user'))
    (h : buildAuthToken deps user secret t = buildAuthToken deps user' secret t') :
    user = user' ∧ t = t' := by
  have hmac : deps.hmac secret (tokenData t user) = deps.hmac secret (tokenData t' user') :=
    Vector.toList_inj.mp (hexEncode_injective h)
  exact tokenData_injective (hcoll hmac)

/-! ## The verification -/

/-- An acceptance comes from a time the loop comes to. -/
theorem tries_of_verified {deps : Deps} {user secret token : Bytes} {timestamp windowSec : UInt64}
    (h : verifyAuthToken deps user secret token timestamp windowSec = some true) :
    ∃ t, Tries deps user secret token timestamp windowSec t ∧ token = buildAuthToken deps user secret t := by
  obtain ⟨n, -, hguard, hmatch⟩ := search_eq_true_iff.mp h
  have hex : ∃ i, token = buildAuthToken deps user secret (timestamp - windowSec + UInt64.ofNat i) :=
    ⟨n, tokenMatches_iff.mp hmatch⟩
  have hle : Nat.find hex ≤ n := Nat.find_min' hex (tokenMatches_iff.mp hmatch)
  refine ⟨_, ⟨Nat.find hex, ?_, ?_, rfl⟩, Nat.find_spec hex⟩
  · intro j hj
    exact hguard j (by omega)
  · intro j hj
    exact Nat.find_min hex hj

/-- **Tokens bind user and time**: equal tokens are tokens of one user and one time, and a token that is
    accepted was built for the presented user and for a time the loop has come to. -/
theorem tokens_bind (deps : Deps) (secret : Bytes) :
    (∀ user user' t t', NoCollision deps secret (tokenData t user) (tokenData t' user') →
      buildAuthToken deps user secret t = buildAuthToken deps user' secret t' → user = user' ∧ t = t') ∧
    ∀ user user' t' timestamp windowSec,
      (∀ t, Tries deps user secret (buildAuthToken deps user' secret t') timestamp windowSec t →
        NoCollision deps secret (tokenData t user) (tokenData t' user')) →
      verifyAuthToken deps user secret (buildAuthToken deps user' secret t') timestamp windowSec = some true →
        user' = user ∧ Tries deps user secret (buildAuthToken deps user' secret t') timestamp windowSec t' := by
  constructor
  · intro user user' t t' hcoll htoken
    exact buildAuthToken_inj hcoll htoken
  · intro user user' t' timestamp windowSec hcoll haccepted
    obtain ⟨t, htries, htoken⟩ := tries_of_verified haccepted
    obtain ⟨rfl, rfl⟩ := buildAuthToken_inj (hcoll t htries) htoken.symm
    exact ⟨rfl, htries⟩

/-- The stand-in for the HMAC keeps short strings of one length apart. -/
theorem noCollision_table {secret data data' : Bytes} (hlen : data.length = data'.length)
    (hshort : data.length ≤ 32) : NoCollision (Deps.table []) secret data data' := by
  intro h
  refine List.ext_getElem hlen ?_
  intro i hi hi'
  have hget := congrArg (fun v : Vector UInt8 32 => v[i]?) h
  simp only [Deps.table, recordingHmac, Vector.getElem?_ofFn] at hget
  rw [dif_pos (by omega), dif_pos (by omega), Option.some.injEq] at hget
  simpa [List.getD_eq_getElem?_getD, hi, hi'] using hget

/-- Two users whose names hold digits and separators have different tokens, and a token built ten seconds
    later is one the loop comes to. -/
theorem tokens_bind_table :
    buildAuthToken (Deps.table []) (ascii "0:a") (ascii "secret") 1
        ≠ buildAuthToken (Deps.table []) (ascii ":0a") (ascii "secret") 16 ∧
      Tries (Deps.table []) (ascii "kirdi") (ascii "secret")
        (buildAuthToken (Deps.table []) (ascii "kirdi") (ascii "secret") 1010) 1000 30 1010 := by
  have haccepted : verifyAuthToken (Deps.table []) (ascii "kirdi") (ascii "secret")
      (buildAuthToken (Deps.table []) (ascii "kirdi") (ascii "secret") 1010) 1000 30 = some true :=
    (verifyAuthToken_window (by decide) (by decide)).mpr ⟨1010, by decide, rfl⟩
  have hshort : ∀ t t', NoCollision (Deps.table []) (ascii "secret") (tokenData t (ascii "kirdi"))
      (tokenData t' (ascii "kirdi")) := fun t t' =>
    noCollision_table (by simp [tokenData]) (by simp [tokenData, ascii])
  refine ⟨?_, ((tokens_bind _ _).2 _ _ _ _ _ (fun t _ => hshort t 1010) haccepted).2⟩
  intro h
  have hboth := (tokens_bind _ _).1 _ _ _ _ (noCollision_table (by decide) (by decide)) h
  exact absurd hboth.2 (by decide)

end Crypto
end Kirdi
