import Kirdi.Common.Protocol

/-!
# `Common.Json` — the third-party functions and the JSON values they exchange

`nlohmann::json` and OpenSSL are not part of the repository. `Deps` carries the three functions the code
takes from them; `Json` is the parsed value, and `Json.value` with the `get` conversions is how the code
reads a field (`j.value(key, default)`).
-/

namespace Kirdi

/-- A parsed `nlohmann::json` value. A floating-point number is kept as its truncation toward zero, which
    is all that the conversions below read of it. -/
inductive Json where
  | null
  | boolean (b : Bool)
  | numberInteger (i : Int64)
  | numberUnsigned (n : UInt64)
  | numberFloat (trunc : Int)
  | string (s : Bytes)
  | array (elems : List Json)
  | object (members : List (Bytes × Json))

/-- The exceptions of reading a field, by their identifiers. -/
inductive JsonError where
  | typeError302  -- the value has the wrong type
  | typeError306  -- `value()` on something that is not an object
  deriving DecidableEq, Repr

namespace Json

/-- `j.get<std::string>()`. -/
def getString : Json → Except JsonError Bytes
  | string s => .ok s
  | _ => .error .typeError302

/-- `j.get<bool>()`. -/
def getBool : Json → Except JsonError Bool
  | boolean b => .ok b
  | _ => .error .typeError302

/-- `j.get<uint64_t>()`: numbers only, converted by `static_cast`. -/
def getUInt64 : Json → Except JsonError UInt64
  | numberUnsigned n => .ok n
  | numberInteger i => .ok i.toUInt64
  | numberFloat t => .ok (UInt64.ofInt t)
  | _ => .error .typeError302

/-- `j.get<uint32_t>()`: numbers and booleans, converted by `static_cast`. -/
def getUInt32 : Json → Except JsonError UInt32
  | numberUnsigned n => .ok n.toUInt32
  | numberInteger i => .ok i.toUInt64.toUInt32
  | numberFloat t => .ok (UInt32.ofInt t)
  | boolean b => .ok (if b then 1 else 0)
  | _ => .error .typeError302

/-- `j.value(key, dflt)`: the converted member, `dflt` when it is missing. -/
def value {α : Type} (conv : Json → Except JsonError α) (j : Json) (key : Bytes) (dflt : α) :
    Except JsonError α :=
  match j with
  | object members =>
      match members.lookup key with
      | some v => conv v
      | none => .ok dflt
  | _ => .error .typeError306

end Json

/-- The third-party functions. `parse` is `json::parse` (`none`: it throws), `dump` is `json::dump`
    (`none`: it throws, on a string that is not valid UTF-8), `hmac` is `HMAC(EVP_sha256(), key, data)`. -/
structure Deps where
  hmac  : Bytes → Bytes → Vector UInt8 32
  parse : Bytes → Option Json
  dump  : Json → Option Bytes

/-! ## Concrete third-party functions

`Deps.table` agrees with the real functions on the inputs it is used for: a parser that knows the texts of
a table, a serializer for flat objects of plain strings, and in place of HMAC-SHA256 a function without
collisions on data of at most 32 bytes that do not end in zero bytes. -/

/-- Keep the first 32 bytes of the data. -/
def recordingHmac (_key data : Bytes) : Vector UInt8 32 := Vector.ofFn fun i => data.getD i 0

/-- Decimal digits of a number below `10 ^ k`, without leading zeros. -/
def decimal : Nat → Nat → Bytes
  | 0, _ => []
  | k + 1, n => (if n < 10 then [] else decimal k (n / 10)) ++ [UInt8.ofNat (48 + n % 10)]

def dumpScalar : Json → Bytes
  | .string s => ascii "\"" ++ s ++ ascii "\""
  | .boolean b => if b then ascii "true" else ascii "false"
  | .numberUnsigned n => decimal 20 n.toNat
  | .numberInteger i => (if i < 0 then ascii "-" else []) ++ decimal 20 i.toInt.natAbs
  | _ => []

/-- Insert a member by its key, as the `std::map` behind an object keeps them. -/
def insertMember (m : Bytes × Json) : List (Bytes × Json) → List (Bytes × Json)
  | [] => [m]
  | m' :: ms => if m.1 < m'.1 then m :: m' :: ms else m' :: insertMember m ms

def dumpFlat : Json → Option Bytes
  | .object members =>
      let texts := (members.foldr insertMember []).map fun m =>
        ascii "\"" ++ m.1 ++ ascii "\":" ++ dumpScalar m.2
      some (ascii "\x7b" ++ (ascii ",").intercalate texts ++ ascii "\x7d")
  | _ => none

def Deps.table (texts : List (Bytes × Json)) : Deps where
  hmac := recordingHmac
  parse text := texts.lookup text
  dump := dumpFlat

end Kirdi
