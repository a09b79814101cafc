import Mathlib.Data.BitVec
import Breez.Go.Hex

set_option autoImplicit false

namespace Breez.Go

-- Go's int64 and btcutil.Amount: two's-complement words whose `+`, `-` and `*` wrap and whose
-- `/` truncates toward zero (BitVec.sdiv).
abbrev Int64 := BitVec 64

-- Go's int32, the width of the RPC messages' int32 fields.
abbrev Int32 := BitVec 32

end Breez.Go

namespace Breez.Btc

open Go

-- chainhash.Hash.SetBytes: exactly HashSize bytes are taken as they are.
def setBytes (newHash : Bytes) : Except String Bytes32 :=
  if fits : newHash.length = 32 then .ok ⟨newHash, fits⟩
  else .error ("invalid hash length of " ++ toString newHash.length ++ ", want 32")

theorem setBytes_eq_ok (newHash : Bytes) (hash : Bytes32) :
    setBytes newHash = .ok hash ↔ hash.bytes = newHash := by
  unfold setBytes
  split
  next fits =>
    constructor
    · rintro ⟨⟩
      rfl
    · intro same
      cases hash
      cases same
      rfl
  next wrong =>
    simp only [reduceCtorEq, false_iff]
    intro same
    exact wrong (same ▸ hash.length_eq)

-- The zero-padded `reversedHash` of chainhash.Decode: the decoded bytes fill its tail.
def padFront (decoded : Bytes) : Bytes32 :=
  ⟨(List.replicate 32 0 ++ decoded).drop decoded.length, by
    simp only [List.length_drop, List.length_append, List.length_replicate]; omega⟩

-- chainhash.Decode (and so NewHashFromStr): at most 64 characters, a leading '0' added to an
-- odd count, hex-decoded into the tail of a zeroed hash, which is then reversed.
def newHashFromStr (src : Bytes) : Except String Bytes32 :=
  if 64 < src.length then .error "max hash string length is 64 bytes"
  else
    let srcBytes := if src.length % 2 = 0 then src else 48 :: src
    match Hex.decodeString srcBytes with
    | .error e => .error e.text
    | .ok decoded => .ok ⟨(padFront decoded).bytes.reverse, by simp [(padFront decoded).length_eq]⟩

-- chainhash.Hash.String(): the bytes in reverse order, in hex.
def hashString (hash : Bytes32) : String :=
  Hex.encodeToString hash.bytes.reverse

theorem newHashFromStr_hashString (hash : Bytes32) :
    newHashFromStr (goBytes (hashString hash)) = .ok hash := by
  have length : (goBytes (Hex.encodeToString hash.bytes.reverse)).length = 64 := by
    simp [Hex.goBytes_encodeToString, hash.length_eq]
  have padded : padFront hash.bytes.reverse = ⟨hash.bytes.reverse, by simp [hash.length_eq]⟩ := by
    simp [padFront, hash.length_eq]
  simp [newHashFromStr, length, hashString, Hex.decodeString_encodeToString, padded]

structure OutPoint where
  hash : Bytes32
  index : UInt32
  deriving DecidableEq

structure TxOut where
  value : Int64
  pkScript : Bytes
  deriving DecidableEq

-- wire.MsgTx, its inputs given by the outpoints they spend.
structure MsgTx where
  txIn : List OutPoint
  txOut : List TxOut
  lockTime : UInt32
  deriving DecidableEq

end Breez.Btc
