import Kirdi.Lib.WrapSearch
import Kirdi.Common.Json

/-!
# `Common.Crypto` — authentication tokens and their time window

Embeds `hex_encode`, `build_auth_token` and `verify_auth_token` of `common/crypto.cpp`. The loop of
`verify_auth_token` counts a `uint64_t` from `timestamp - window_sec` up to `timestamp + window_sec`, both
computed modulo `2 ^ 64`; it is an instance of `WrapSearch.search`, so it may fail to end. The fuel of
`verifyAuthTokenWithin` is the number of token computations; `verifyAuthToken` allows a full cycle of the
counter, after which the loop only repeats itself (`verifyAuthToken_eq_some_iff`).
-/

namespace Kirdi
namespace Crypto

open WrapSearch

/-- A lower-case hexadecimal digit. -/
def hexDigit (n : Nat) : UInt8 := UInt8.ofNat (if n < 10 then 48 + n else 87 + n)

/-- `hex_encode`: `%02x` of every byte. -/
def hexEncode (data : Bytes) : Bytes :=
  data.flatMap fun b => [hexDigit (b.toNat / 16), hexDigit (b.toNat % 16)]

/-- `snprintf(ts_buf, 17, "%016llx", t)`. -/
def timestampHex (t : UInt64) : Bytes :=
  (List.range 16).map fun i => hexDigit (t.toNat / 16 ^ (15 - i) % 16)

/-- `build_auth_token`: the HMAC of `"timestamp_hex:user"` in hexadecimal. -/
def buildAuthToken (deps : Deps) (user secret : Bytes) (timestamp : UInt64) : Bytes :=
  let data := timestampHex timestamp ++ ascii ":" ++ user
  hexEncode (deps.hmac secret data).toList

/-- The comparison inside the loop: equal sizes, then `CRYPTO_memcmp`. -/
def tokenMatches (expected token : Bytes) : Bool :=
  expected.length == token.length && expected == token

/-- `verify_auth_token`, given up (`none`) when it asks for token computation number `fuel + 1`. -/
def verifyAuthTokenWithin (deps : Deps) (fuel : Nat) (user secret token : Bytes)
    (timestamp windowSec : UInt64) : Option Bool :=
  search (fun t => tokenMatches (buildAuthToken deps user secret t) token)
    (timestamp + windowSec) fuel (timestamp - windowSec)

/-- `verify_auth_token`; `none` when its loop does not end. -/
def verifyAuthToken (deps : Deps) (user secret token : Bytes) (timestamp windowSec : UInt64) :
    Option Bool :=
  verifyAuthTokenWithin deps cycle user secret token timestamp windowSec

variable {deps : Deps} {user secret token : Bytes} {timestamp windowSec : UInt64}

/-! ## Tokens -/

@[simp] theorem tokenMatches_iff {expected token : Bytes} :
    tokenMatches expected token = true ↔ token = expected := by
  simp only [tokenMatches, Bool.and_eq_true, beq_iff_eq]
  exact ⟨fun h => h.2.symm, fun h => ⟨by rw [h], h.symm⟩⟩

theorem length_hexEncode (data : Bytes) : (hexEncode data).length = 2 * data.length := by
  induction data with
  | nil => rfl
  | cons b data ih =>
      simp only [hexEncode, List.flatMap_cons, List.length_append, List.length_cons,
        List.length_nil] at ih ⊢
      omega

/-- Every token is 64 characters long. -/
theorem length_buildAuthToken (deps : Deps) (user secret : Bytes) (t : UInt64) :
    (buildAuthToken deps user secret t).length = 64 := by
  simp [buildAuthToken, length_hexEncode]

/-! ## When the loop ends -/

/-- The fuel of `verifyAuthToken` is enough: it returns what the loop returns with any other fuel. -/
theorem verifyAuthToken_eq_some_iff {b : Bool} :
    verifyAuthToken deps user secret token timestamp windowSec = some b ↔
      ∃ n, verifyAuthTokenWithin deps n user secret token timestamp windowSec = some b :=
  ⟨fun h => ⟨_, h⟩, fun ⟨_, h⟩ => search_cycle h⟩

/-- The token was built for one of the times the loop can reach before it wraps, or the bound of the loop
    is not the largest 64-bit value. -/
def LoopEnds (deps : Deps) (user secret token : Bytes) (timestamp windowSec : UInt64) : Prop :=
  timestamp + windowSec ≠ top ∨
    ∃ t, timestamp - windowSec ≤ t ∧ token = buildAuthToken deps user secret t

/-- **The loop of `verify_auth_token` ends within `2 * window_sec + 1` token computations** exactly under
    `LoopEnds`. -/
theorem verifyAuthTokenWithin_ends_iff (hw : windowSec.toNat < 2 ^ 63) :
    (∃ b, verifyAuthTokenWithin deps (2 * windowSec.toNat + 1) user secret token timestamp windowSec
        = some b) ↔ LoopEnds deps user secret token timestamp windowSec := by
  unfold verifyAuthTokenWithin LoopEnds
  rw [window_ends_iff hw]
  simp only [tokenMatches_iff]

/-- Under `LoopEnds` the verification returns. -/
theorem LoopEnds.returns (hw : windowSec.toNat < 2 ^ 63)
    (h : LoopEnds deps user secret token timestamp windowSec) :
    ∃ b, verifyAuthToken deps user secret token timestamp windowSec = some b := by
  obtain ⟨b, hb⟩ := (verifyAuthTokenWithin_ends_iff hw).mpr h
  exact ⟨b, verifyAuthToken_eq_some_iff.mpr ⟨_, hb⟩⟩

/-! ## What an acceptance means -/

/-- An accepted token was built for some time. -/
theorem built_of_verified (h : verifyAuthToken deps user secret token timestamp windowSec = some true) :
    ∃ t, token = buildAuthToken deps user secret t := by
  obtain ⟨i, -, -, hm⟩ := search_eq_true_iff.mp h
  exact ⟨_, tokenMatches_iff.mp hm⟩

/-- **Away from the top of the range an accepted token was built for a time of the window.** -/
theorem verifyAuthToken_true_within (hw : windowSec.toNat < 2 ^ 63) (htop : timestamp + windowSec ≠ top)
    (h : verifyAuthToken deps user secret token timestamp windowSec = some true) :
    ∃ t, Within windowSec.toNat t timestamp ∧ token = buildAuthToken deps user secret t := by
  obtain ⟨t, hwithin, ht⟩ := window_true_within hw htop h
  exact ⟨t, hwithin, tokenMatches_iff.mp ht⟩

/-- At the top of the range the loop runs through all times: it accepts exactly the tokens built for some
    time, and returns nothing else. -/
theorem verifyAuthToken_top_iff (htop : timestamp + windowSec = top) :
    verifyAuthToken deps user secret token timestamp windowSec = some true ↔
      ∃ t, token = buildAuthToken deps user secret t := by
  unfold verifyAuthToken verifyAuthTokenWithin
  rw [htop, search_eq_true_iff]
  simp only [tokenMatches_iff]
  constructor
  · rintro ⟨i, -, -, h⟩
    exact ⟨_, h⟩
  · rintro ⟨t, h⟩
    obtain ⟨i, hi, he⟩ := exists_add_ofNat (timestamp - windowSec) t
    exact ⟨i, hi, fun _ _ => le_top _, by rw [he]; exact h⟩

/-- **The verification never returns** exactly when the bound of the loop is the largest value and the
    token was built for no time. -/
theorem verifyAuthToken_none_iff (hw : windowSec.toNat < 2 ^ 63) :
    verifyAuthToken deps user secret token timestamp windowSec = none ↔
      timestamp + windowSec = top ∧ ∀ t, token ≠ buildAuthToken deps user secret t := by
  by_cases htop : timestamp + windowSec = top
  · constructor
    · intro hnone
      refine ⟨htop, ?_⟩
      intro t ht
      have htrue := (verifyAuthToken_top_iff htop).mpr ⟨t, ht⟩
      rw [hnone] at htrue
      exact absurd htrue (by simp)
    · rintro ⟨-, hunbuilt⟩
      cases hv : verifyAuthToken deps user secret token timestamp windowSec with
      | none => rfl
      | some b =>
          unfold verifyAuthToken verifyAuthTokenWithin at hv
          rw [htop] at hv
          obtain ⟨i, -, hi⟩ := search_top_iff.mp ⟨b, hv⟩
          exact absurd (tokenMatches_iff.mp hi) (hunbuilt _)
  · have hends : LoopEnds deps user secret token timestamp windowSec := Or.inl htop
    obtain ⟨b, hb⟩ := hends.returns hw
    rw [hb]
    exact ⟨fun h => absurd h (by simp), fun h => absurd h.1 htop⟩

/-! ## The window -/

/-- The token was built for a time at most `window_sec` away, as integers. -/
def BuiltWithin (deps : Deps) (user secret token : Bytes) (timestamp windowSec : UInt64) : Prop :=
  ∃ t, Within windowSec.toNat t timestamp ∧ token = buildAuthToken deps user secret t

/-- The loop finds the tokens of the window: it runs through all times and the token is one of them, or it
    runs from one bound to the other, both computed modulo `2 ^ 64`, and comes across the token. -/
def WindowKept (deps : Deps) (user secret token : Bytes) (timestamp windowSec : UInt64) : Prop :=
  if timestamp + windowSec = top then BuiltWithin deps user secret token timestamp windowSec
  else BuiltWithin deps user secret token timestamp windowSec →
    ∃ t, timestamp - windowSec ≤ t ∧ t ≤ timestamp + windowSec ∧ token = buildAuthToken deps user secret t

/-- Below the top the loop accepts the tokens between its bounds. -/
theorem verifyAuthToken_true_iff (htop : timestamp + windowSec ≠ top) :
    verifyAuthToken deps user secret token timestamp windowSec = some true ↔
      ∃ t, timestamp - windowSec ≤ t ∧ t ≤ timestamp + windowSec ∧ token = buildAuthToken deps user secret t := by
  unfold verifyAuthToken verifyAuthTokenWithin
  rw [search_true_iff_mem htop]
  simp only [tokenMatches_iff]

/-- Tokens between the bounds are tokens of the window. -/
theorem builtWithin_of_bounds
    (h : ∃ t, timestamp - windowSec ≤ t ∧ t ≤ timestamp + windowSec ∧ token = buildAuthToken deps user secret t) :
    BuiltWithin deps user secret token timestamp windowSec := by
  obtain ⟨t, hlo, hhi, ht⟩ := h
  exact ⟨t, within_of_mem hlo hhi, ht⟩

/-- **Where the bounds do not wrap, exactly the tokens of the window are accepted.** -/
theorem verifyAuthToken_window (hlow : windowSec.toNat ≤ timestamp.toNat)
    (hhigh : timestamp.toNat + windowSec.toNat < 2 ^ 64 - 1) :
    verifyAuthToken deps user secret token timestamp windowSec = some true ↔
      BuiltWithin deps user secret token timestamp windowSec := by
  have htop : timestamp + windowSec ≠ top := by
    intro heq
    have hnat := congrArg UInt64.toNat heq
    rw [UInt64.toNat_add, toNat_top, Nat.mod_eq_of_lt (by omega)] at hnat
    omega
  rw [verifyAuthToken_true_iff htop]
  refine ⟨builtWithin_of_bounds, ?_⟩
  rintro ⟨t, hwithin, ht⟩
  obtain ⟨hlo, hhi⟩ := mem_of_within hlow (by omega) hwithin
  exact ⟨t, hlo, hhi, ht⟩

/-- **The verification accepts exactly the window** if and only if the loop finds the tokens of the window. -/
theorem verifies_window_iff {b : Bool} (h : verifyAuthToken deps user secret token timestamp windowSec = some b) :
    (b = true ↔ BuiltWithin deps user secret token timestamp windowSec) ↔
      WindowKept deps user secret token timestamp windowSec := by
  unfold WindowKept
  by_cases htop : timestamp + windowSec = top
  · rw [if_pos htop]
    -- a loop through all times ends with the token only
    have hb : b = true := by
      cases b with
      | true => rfl
      | false =>
          have hsearch := h
          unfold verifyAuthToken verifyAuthTokenWithin at hsearch
          rw [htop] at hsearch
          obtain ⟨i, -, hmatch⟩ := search_top_iff.mp ⟨false, hsearch⟩
          have htrue := (verifyAuthToken_top_iff htop).mpr ⟨_, tokenMatches_iff.mp hmatch⟩
          exact absurd (h.symm.trans htrue) (by simp)
    exact ⟨fun hiff => hiff.mp hb, fun hbuilt => iff_of_true hb hbuilt⟩
  · rw [if_neg htop]
    have hbounds : verifyAuthToken deps user secret token timestamp windowSec = some true ↔ _ :=
      verifyAuthToken_true_iff htop
    rw [h, Option.some.injEq] at hbounds
    constructor
    · intro hiff hbuilt
      exact hbounds.mp (hiff.mpr hbuilt)
    · intro hfound
      exact ⟨fun hb => builtWithin_of_bounds (hbounds.mp hb), fun hbuilt => hbounds.mpr (hfound hbuilt)⟩

/-- A token built ten seconds later. -/
theorem verifies_window_at_1000 :
    ∃ b, verifyAuthToken (Deps.table []) (ascii "kirdi") (ascii "secret")
        (buildAuthToken (Deps.table []) (ascii "kirdi") (ascii "secret") 1010) 1000 30 = some b ∧
      ((b = true ↔ BuiltWithin (Deps.table []) (ascii "kirdi") (ascii "secret")
          (buildAuthToken (Deps.table []) (ascii "kirdi") (ascii "secret") 1010) 1000 30) ↔
        WindowKept (Deps.table []) (ascii "kirdi") (ascii "secret")
          (buildAuthToken (Deps.table []) (ascii "kirdi") (ascii "secret") 1010) 1000 30) := by
  have hverified : verifyAuthToken (Deps.table []) (ascii "kirdi") (ascii "secret")
      (buildAuthToken (Deps.table []) (ascii "kirdi") (ascii "secret") 1010) 1000 30 = some true :=
    (verifyAuthToken_window (by decide) (by decide)).mpr ⟨1010, by decide, rfl⟩
  exact ⟨true, hverified, verifies_window_iff hverified⟩

/-- **A token that is refused at its own time**: the lower bound of the loop has wrapped above the upper one. -/
theorem window_wraps :
    verifyAuthToken (Deps.table []) (ascii "kirdi") (ascii "secret")
        (buildAuthToken (Deps.table []) (ascii "kirdi") (ascii "secret") 10) 10 30 = some false ∧
      BuiltWithin (Deps.table []) (ascii "kirdi") (ascii "secret")
        (buildAuthToken (Deps.table []) (ascii "kirdi") (ascii "secret") 10) 10 30 :=
  ⟨search_done (by decide), 10, by decide, rfl⟩

end Crypto
end Kirdi
