import Breez.Go.Runtime

set_option autoImplicit false

namespace Breez.Go.Hex

-- encoding/hex: `hextable[v>>4]`, `hextable[v&0x0f]` with hextable "0123456789abcdef".
def hexChar (d : Nat) : Char :=
  Char.ofNat (if d < 10 then 48 + d else 87 + d)

def encodeByte (v : UInt8) : List Char :=
  [hexChar (v.toNat / 16), hexChar (v.toNat % 16)]

def encodeToString (src : Bytes) : String :=
  ⟨src.flatMap encodeByte⟩

def fromHexChar (c : UInt8) : Option Nat :=
  if 48 ≤ c.toNat ∧ c.toNat ≤ 57 then some (c.toNat - 48)
  else if 97 ≤ c.toNat ∧ c.toNat ≤ 102 then some (c.toNat - 87)
  else if 65 ≤ c.toNat ∧ c.toNat ≤ 70 then some (c.toNat - 55)
  else none

inductive HexError where
  | invalidByte (c : UInt8)
  | errLength
  deriving DecidableEq, Repr

-- `%#U` of a byte read as a rune: U+ and four upper-case hex digits, then the character in
-- quotes when it is printable (unicode.IsPrint: ASCII 0x20 to 0x7e, and 0xa1 to 0xff but 0xad).
def runeText (c : UInt8) : String :=
  let upper (d : Nat) : Char := Char.ofNat (if d < 10 then 48 + d else 55 + d)
  let printable := (32 ≤ c.toNat ∧ c.toNat ≤ 126) ∨ (161 ≤ c.toNat ∧ c.toNat ≠ 173)
  ⟨['U', '+', '0', '0', upper (c.toNat / 16), upper (c.toNat % 16)]⟩ ++
    if printable then ⟨[' ', Char.ofNat 39, Char.ofNat c.toNat, Char.ofNat 39]⟩ else ""

def HexError.text : HexError → String
  | .invalidByte c => "encoding/hex: invalid byte: " ++ runeText c
  | .errLength => "encoding/hex: odd length hex string"

-- hex.Decode: the bytes written before the first error, and that error.  Pairs are read left
-- to right; a lone last character is checked before the odd length is reported.
def decode : Bytes → Bytes × Option HexError
  | [] => ([], none)
  | [c] => ([], some (if (fromHexChar c).isSome then .errLength else .invalidByte c))
  | p :: q :: rest =>
    match fromHexChar p, fromHexChar q with
    | some a, some b => ((UInt8.ofNat (16 * a + b)) :: (decode rest).1, (decode rest).2)
    | none, _ => ([], some (.invalidByte p))
    | some _, none => ([], some (.invalidByte q))

-- hex.DecodeString, which also hands back `src[:n]` on an error.
def decodeString (s : Bytes) : Except HexError Bytes :=
  match (decode s).2 with
  | none => .ok (decode s).1
  | some e => .error e

def digitOf (c : Char) : Nat :=
  if c.toNat < 58 then c.toNat - 48 else c.toNat - 87

def bytesOfDigits : List Char → Bytes
  | hi :: lo :: rest => UInt8.ofNat (16 * digitOf hi + digitOf lo) :: bytesOfDigits rest
  | _ => []

theorem digitOf_hexChar : ∀ d, d < 16 → digitOf (hexChar d) = d := by
  decide

theorem byte_of_halves (v : UInt8) : UInt8.ofNat (16 * (v.toNat / 16) + v.toNat % 16) = v := by
  apply UInt8.toNat.inj
  rw [Nat.div_add_mod, UInt8.toNat_ofNat_of_lt v.toNat_lt_size]

theorem bytesOfDigits_encode (src : Bytes) : bytesOfDigits (src.flatMap encodeByte) = src := by
  induction src with
  | nil => rfl
  | cons v rest ih =>
    have small : v.toNat < 256 := v.toNat_lt_size
    have high := digitOf_hexChar (v.toNat / 16) (by omega)
    have low := digitOf_hexChar (v.toNat % 16) (Nat.mod_lt _ (by omega))
    rw [List.flatMap_cons]
    simp only [encodeByte, List.cons_append, List.append_eq, List.nil_append, bytesOfDigits, high,
      low, ih, byte_of_halves]

theorem encodeToString_injective : Function.Injective encodeToString := by
  intro a b same
  have digits : a.flatMap encodeByte = b.flatMap encodeByte := congrArg String.data same
  simpa only [bytesOfDigits_encode] using congrArg bytesOfDigits digits

@[simp] theorem encodeToString_eq_iff (a b : Bytes) :
    encodeToString a = encodeToString b ↔ a = b :=
  encodeToString_injective.eq_iff

-- EncodeToString(src) as Go's []byte sees it: one ASCII byte per digit.
def encodedBytes (src : Bytes) : Bytes :=
  src.flatMap fun v =>
    [UInt8.ofNat (hexChar (v.toNat / 16)).toNat, UInt8.ofNat (hexChar (v.toNat % 16)).toNat]

@[simp] theorem length_encodedBytes (src : Bytes) : (encodedBytes src).length = 2 * src.length := by
  induction src with
  | nil => rfl
  | cons v rest ih =>
    simp only [encodedBytes, List.flatMap_cons, List.length_append, List.length_cons,
      List.length_nil] at ih ⊢
    omega

theorem utf8EncodeChar_hexChar :
    ∀ d, d < 16 → String.utf8EncodeChar (hexChar d) = [UInt8.ofNat (hexChar d).toNat] := by
  decide

theorem fromHexChar_hexChar : ∀ d, d < 16 → fromHexChar (UInt8.ofNat (hexChar d).toNat) = some d := by
  decide

theorem goBytes_encodeToString (src : Bytes) : goBytes (encodeToString src) = encodedBytes src := by
  induction src with
  | nil => rfl
  | cons v rest ih =>
    have small : v.toNat < 256 := v.toNat_lt_size
    simp only [goBytes, encodeToString, encodedBytes, List.flatMap_cons, List.flatMap_append,
      encodeByte, List.flatMap_nil, List.append_nil,
      utf8EncodeChar_hexChar _ (Nat.div_lt_of_lt_mul (by omega : v.toNat < 16 * 16)),
      utf8EncodeChar_hexChar _ (Nat.mod_lt _ (by omega : 16 > 0))] at ih ⊢
    rw [ih]
    rfl

theorem decodeString_encodeToString (src : Bytes) :
    decodeString (goBytes (encodeToString src)) = .ok src := by
  have decoded : decode (encodedBytes src) = (src, none) := by
    induction src with
    | nil => rfl
    | cons v rest ih =>
      have small : v.toNat < 256 := v.toNat_lt_size
      simp only [encodedBytes, List.flatMap_cons, List.cons_append, List.nil_append] at ih ⊢
      rw [decode, fromHexChar_hexChar _ (by omega), fromHexChar_hexChar _ (Nat.mod_lt _ (by omega)),
        ih]
      simp only [byte_of_halves]
  simp [decodeString, goBytes_encodeToString, decoded]

end Breez.Go.Hex
