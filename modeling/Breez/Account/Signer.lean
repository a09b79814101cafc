import Breez.Btc.Wire

set_option autoImplicit false

namespace Breez.Account

open Go Btc

structure TxSigHashes where
  hashPrevOuts : Bytes32
  hashSequence : Bytes32
  hashOutputs : Bytes32
  deriving DecidableEq

-- SigHashes points to a TxSigHashes that ComputeInputScript writes.
structure SignDescriptor where
  witnessScript : Bytes
  output : TxOut
  hashType : UInt32
  sigHashes : TxSigHashes
  inputIndex : Int64
  deriving DecidableEq

structure RpcTxSigHashes where
  hashPrevOuts : Bytes
  hashSequence : Bytes
  hashOutputs : Bytes
  deriving DecidableEq

structure RpcSignDescriptor where
  output : TxOut
  sighash : UInt32
  witnessScript : Bytes
  inputIndex : Int32
  deriving DecidableEq

structure SignReq where
  rawTxBytes : Bytes
  signDescs : List RpcSignDescriptor
  sigHashes : Option RpcTxSigHashes
  deriving DecidableEq

structure InputScript where
  witness : List Bytes
  sigScript : Bytes
  deriving DecidableEq

structure InputScriptResp where
  inputScripts : List InputScript
  sigHashes : Option RpcTxSigHashes
  deriving DecidableEq

-- The signrpc.SignerClient calls (not in this repository).
structure SignerClient where
  signOutputRaw : SignReq → Except String (List Bytes)
  computeInputScript : SignReq → Except String InputScriptResp

def TxSigHashes.toRpc (h : TxSigHashes) : RpcTxSigHashes :=
  ⟨h.hashPrevOuts.bytes, h.hashSequence.bytes, h.hashOutputs.bytes⟩

def signReq (rawTx : Bytes) (signDesc : SignDescriptor) : SignReq :=
  ⟨rawTx, [⟨signDesc.output, signDesc.hashType, signDesc.witnessScript,
    signDesc.inputIndex.setWidth 32⟩], some signDesc.sigHashes.toRpc⟩

theorem signReq_inputIndex_iff (rawTx : Bytes) (signDesc : SignDescriptor) :
    ∃ d, (signReq rawTx signDesc).signDescs = [d] ∧
      (d.inputIndex.toInt = signDesc.inputIndex.toInt ↔
        -2 ^ 31 ≤ signDesc.inputIndex.toInt ∧ signDesc.inputIndex.toInt < 2 ^ 31) := by
  refine ⟨_, rfl, ?_⟩
  have sent := BitVec.toInt_eq_toNat_cond (signDesc.inputIndex.setWidth 32)
  have given := BitVec.toInt_eq_toNat_cond signDesc.inputIndex
  have fits : signDesc.inputIndex.toNat < 2 ^ 64 := signDesc.inputIndex.isLt
  rw [BitVec.toNat_setWidth] at sent
  dsimp only
  split at sent <;> split at given <;> omega

-- Input 2^32 is sent as input 0.
example : ((signReq [] ⟨[], ⟨0, []⟩, 1, ⟨⟨List.replicate 32 0, rfl⟩, ⟨List.replicate 32 0, rfl⟩,
    ⟨List.replicate 32 0, rfl⟩⟩, 2 ^ 32⟩).signDescs.map (·.inputIndex)) = [0] := by
  decide

-- `serialize` is tx.Serialize, which cannot fail on a bytes.Buffer; `txText` is the %#v
-- rendering of tx.
def signOutputRaw {α : Type} (client : SignerClient) (serialize : MsgTx → Bytes)
    (parseDERSignature : Bytes → Except String α) (txText : String) (tx : MsgTx)
    (signDesc : SignDescriptor) : Outcome α := do
  let r ← Outcome.ofExceptWith (fun e => "srpc.SignOutputRaw " ++ txText ++ ": " ++ e)
    (client.signOutputRaw (signReq (serialize tx) signDesc))
  let rawSig ← index r 0
  Outcome.ofExcept (parseDERSignature rawSig)

-- The second component is the TxSigHashes signDesc points to after the call.
def computeInputScript (client : SignerClient) (serialize : MsgTx → Bytes) (tx : MsgTx)
    (signDesc : SignDescriptor) : Outcome InputScript × TxSigHashes :=
  match client.computeInputScript (signReq (serialize tx) signDesc) with
  | .error e => (.error ("srpc.ComputeInputScript: " ++ e), signDesc.sigHashes)
  | .ok r =>
    match r.sigHashes with
    | none => (.panic .nilDereference, signDesc.sigHashes)
    | some hashes =>
      match setBytes hashes.hashPrevOuts, setBytes hashes.hashSequence,
          setBytes hashes.hashOutputs with
      | .error e, _, _ => (.error ("bad HashPrevOuts: " ++ e), signDesc.sigHashes)
      | .ok _, .error e, _ => (.error ("bad HashSequence: " ++ e), signDesc.sigHashes)
      | .ok _, .ok _, .error e => (.error ("bad HashOutputs: " ++ e), signDesc.sigHashes)
      | .ok hashPrevOuts, .ok hashSequence, .ok hashOutputs =>
        ((index r.inputScripts 0).bind fun first => .ok ⟨first.witness, first.sigScript⟩,
          ⟨hashPrevOuts, hashSequence, hashOutputs⟩)

theorem eq_toRpc_iff (hashes : RpcTxSigHashes) (after : TxSigHashes) :
    hashes = after.toRpc ↔ setBytes hashes.hashPrevOuts = .ok after.hashPrevOuts ∧
      setBytes hashes.hashSequence = .ok after.hashSequence ∧
      setBytes hashes.hashOutputs = .ok after.hashOutputs := by
  obtain ⟨prevOuts, sequence, outputs⟩ := hashes
  simp only [setBytes_eq_ok, TxSigHashes.toRpc, RpcTxSigHashes.mk.injEq]
  constructor
  · rintro ⟨rfl, rfl, rfl⟩
    exact ⟨rfl, rfl, rfl⟩
  · rintro ⟨rfl, rfl, rfl⟩
    exact ⟨rfl, rfl, rfl⟩

theorem computeInputScript_of_reply (client : SignerClient) (serialize : MsgTx → Bytes)
    (tx : MsgTx) (signDesc : SignDescriptor) (r : InputScriptResp) (after : TxSigHashes)
    (reply : client.computeInputScript (signReq (serialize tx) signDesc) = .ok r)
    (given : r.sigHashes = some after.toRpc) :
    computeInputScript client serialize tx signDesc =
      ((index r.inputScripts 0).bind fun first => .ok ⟨first.witness, first.sigScript⟩, after) := by
  obtain ⟨prevOuts, sequence, outputs⟩ := (eq_toRpc_iff after.toRpc after).mp rfl
  simp [computeInputScript, reply, given, prevOuts, sequence, outputs]

theorem computeInputScript_cases (client : SignerClient) (serialize : MsgTx → Bytes) (tx : MsgTx)
    (signDesc : SignDescriptor) :
    ((computeInputScript client serialize tx signDesc).2 = signDesc.sigHashes ∧
      ∀ script, (computeInputScript client serialize tx signDesc).1 ≠ .ok script) ∨
    ∃ r after, client.computeInputScript (signReq (serialize tx) signDesc) = .ok r ∧
      r.sigHashes = some after.toRpc ∧ computeInputScript client serialize tx signDesc =
        ((index r.inputScripts 0).bind fun first => .ok ⟨first.witness, first.sigScript⟩, after) := by
  unfold computeInputScript
  split
  · exact .inl ⟨rfl, by simp⟩
  next r reply =>
    split
    · exact .inl ⟨rfl, by simp⟩
    next hashes given =>
      split
      · exact .inl ⟨rfl, by simp⟩
      · exact .inl ⟨rfl, by simp⟩
      · exact .inl ⟨rfl, by simp⟩
      next hashPrevOuts hashSequence hashOutputs prevOuts sequence outputs =>
        exact .inr ⟨r, ⟨hashPrevOuts, hashSequence, hashOutputs⟩, reply,
          by rw [given, (eq_toRpc_iff hashes ⟨hashPrevOuts, hashSequence, hashOutputs⟩).mpr
            ⟨prevOuts, sequence, outputs⟩], rfl⟩

theorem computeInputScript_spec (client : SignerClient) (serialize : MsgTx → Bytes) (tx : MsgTx)
    (signDesc : SignDescriptor) :
    (∀ script after, computeInputScript client serialize tx signDesc = (.ok script, after) ↔
      ∃ r first rest, client.computeInputScript (signReq (serialize tx) signDesc) = .ok r ∧
        r.sigHashes = some after.toRpc ∧ r.inputScripts = first :: rest ∧ script = first) ∧
    ∀ m, (computeInputScript client serialize tx signDesc).1 = .error m →
      (computeInputScript client serialize tx signDesc).2 = signDesc.sigHashes := by
  have readScript : ∀ (scripts : List InputScript) (script : InputScript),
      ((index scripts 0).bind fun first => .ok ⟨first.witness, first.sigScript⟩) = .ok script ↔
        ∃ rest, scripts = script :: rest := by
    intro scripts script
    cases scripts <;> simp [index, Outcome.bind, eq_comm]
  refine ⟨fun script after => ⟨fun ok => ?_, ?_⟩, fun m failed => ?_⟩
  · rcases computeInputScript_cases client serialize tx signDesc with
      ⟨-, notOk⟩ | ⟨r, read, reply, given, result⟩
    · exact absurd (congrArg Prod.fst ok) (notOk script)
    · rw [result, Prod.mk.injEq] at ok
      obtain ⟨rest, scripts⟩ := (readScript _ _).mp ok.1
      exact ⟨r, script, rest, reply, ok.2 ▸ given, scripts, rfl⟩
  · rintro ⟨r, first, rest, reply, given, scripts, rfl⟩
    rw [computeInputScript_of_reply client serialize tx signDesc r after reply given,
      (readScript _ _).mpr ⟨rest, scripts⟩]
  · rcases computeInputScript_cases client serialize tx signDesc with
      ⟨untouched, -⟩ | ⟨r, read, -, -, result⟩
    · exact untouched
    · rw [result] at failed
      cases scripts : r.inputScripts <;> simp [scripts, index, Outcome.bind] at failed

-- A reply with no input script panics, but only after signDesc has taken the reply's hashes.
example :
    let ones : Bytes32 := ⟨List.replicate 32 1, rfl⟩
    let zeros : Bytes32 := ⟨List.replicate 32 0, rfl⟩
    computeInputScript ⟨fun _ => .ok [], fun _ => .ok ⟨[], some ⟨ones.bytes, ones.bytes, ones.bytes⟩⟩⟩
        (fun _ => []) ⟨[], [], 0⟩ ⟨[], ⟨0, []⟩, 1, ⟨zeros, zeros, zeros⟩, 0⟩ =
      (.panic (.indexOutOfRange 0 0), ⟨ones, ones, ones⟩) := by
  decide

theorem signOutputRaw_eq_ok {α : Type} (client : SignerClient) (serialize : MsgTx → Bytes)
    (parseDERSignature : Bytes → Except String α) (txText : String) (tx : MsgTx)
    (signDesc : SignDescriptor) (sig : α) :
    signOutputRaw client serialize parseDERSignature txText tx signDesc = .ok sig ↔
      ∃ first rest, client.signOutputRaw (signReq (serialize tx) signDesc) = .ok (first :: rest) ∧
        parseDERSignature first = .ok sig := by
  cases reply : client.signOutputRaw (signReq (serialize tx) signDesc) with
  | error e => simp [signOutputRaw, reply]
  | ok rawSigs => cases rawSigs <;> simp [signOutputRaw, reply, index]

end Breez.Account
