import Mathlib.Algebra.Order.BigOperators.Group.List
import Mathlib.Tactic.LinearCombination
import Breez.Btc.Wire

set_option autoImplicit false

namespace Breez.Account

open Go Btc

-- lnrpc.AddressType as ListUnspent reports it; a protobuf enum field may carry any other code.
inductive RpcAddressType where
  | witnessPubkeyHash
  | nestedPubkeyHash
  | other (code : Int)
  deriving DecidableEq, Repr

structure RpcOutPoint where
  txidBytes : Bytes
  outputIndex : UInt32
  deriving DecidableEq

-- lnrpc.Utxo, the fields ListUnspentWitness reads; Outpoint is a message pointer and may be nil.
structure RpcUtxo where
  addressType : RpcAddressType
  amountSat : Int64
  pkScript : String
  outpoint : Option RpcOutPoint
  confirmations : Int64
  deriving DecidableEq

inductive AddressType where
  | witnessPubKey
  | nestedWitnessPubKey
  deriving DecidableEq, Repr

structure Utxo where
  addressType : AddressType
  value : Int64
  confirmations : Int64
  pkScript : Bytes
  outPoint : OutPoint
  deriving DecidableEq

-- rpcUtxoSource: its lightningClient is the node, whose answers are arguments of the model.
structure RpcUtxoSource where
  totalAmount : Int64

def newRpcUtxoSource : RpcUtxoSource := ⟨0⟩

-- The loop body up to the append: address type switch, pkScript decoding, outpoint hash.
def toUtxo (utxo : RpcUtxo) : Outcome Utxo := do
  let addrType ← match utxo.addressType with
    | .witnessPubkeyHash => pure AddressType.witnessPubKey
    | .nestedPubkeyHash => pure AddressType.nestedWitnessPubKey
    | .other _ => .error "invalid utxo address type"
  let pkScript ← Outcome.ofExceptWith (fun e => "hex.DecodeString(" ++ utxo.pkScript ++ "): " ++ e)
    ((Hex.decodeString (goBytes utxo.pkScript)).mapError Hex.HexError.text)
  let outpoint ← deref utxo.outpoint
  let outPointHash ← Outcome.ofExceptWith
    (fun e => "outPointHash.SetBytes(" ++ Hex.encodeToString outpoint.txidBytes ++ "): " ++ e)
    (setBytes outpoint.txidBytes)
  pure ⟨addrType, utxo.amountSat, utxo.confirmations, pkScript,
    ⟨outPointHash, outpoint.outputIndex⟩⟩

-- The first bad record returns with the amount summed so far left in the source.
def collectUtxos : List RpcUtxo → List Utxo → Int64 → Outcome (List Utxo) × Int64
  | [], lu, totalAmount => (.ok lu, totalAmount)
  | utxo :: rest, lu, totalAmount =>
    match toUtxo utxo with
    | .ok converted => collectUtxos rest (lu ++ [converted]) (totalAmount + utxo.amountSat)
    | .error m => (.error m, totalAmount)
    | .panic p => (.panic p, totalAmount)

-- totalAmount is reset only once ListUnspent has succeeded.
def listUnspentWitness (u : RpcUtxoSource) (response : Except String (List RpcUtxo)) :
    Outcome (List Utxo) × RpcUtxoSource :=
  match response with
  | .error e => (.error ("u.lightningClient.ListUnspent: " ++ e), u)
  | .ok utxos => ((collectUtxos utxos [] 0).1, ⟨(collectUtxos utxos [] 0).2⟩)

def RpcUtxo.Listable (utxo : RpcUtxo) : Prop :=
  (utxo.addressType = .witnessPubkeyHash ∨ utxo.addressType = .nestedPubkeyHash) ∧
    (∃ script, Hex.decodeString (goBytes utxo.pkScript) = .ok script) ∧
    ∃ outpoint, utxo.outpoint = some outpoint ∧ outpoint.txidBytes.length = 32

def ListedAs (utxo : RpcUtxo) (listed : Utxo) : Prop :=
  (utxo.addressType = .witnessPubkeyHash ∧ listed.addressType = .witnessPubKey ∨
    utxo.addressType = .nestedPubkeyHash ∧ listed.addressType = .nestedWitnessPubKey) ∧
  listed.value = utxo.amountSat ∧ listed.confirmations = utxo.confirmations ∧
  Hex.decodeString (goBytes utxo.pkScript) = .ok listed.pkScript ∧
  utxo.outpoint = some ⟨listed.outPoint.hash.bytes, listed.outPoint.index⟩

theorem toUtxo_eq_ok (utxo : RpcUtxo) (listed : Utxo) :
    toUtxo utxo = .ok listed ↔ ListedAs utxo listed := by
  rcases utxo with ⟨addressType, amountSat, pkScript, _ | ⟨txid, outputIndex⟩, confirmations⟩ <;>
    obtain ⟨listedType, value, listedConfirmations, script, hash, index⟩ := listed <;>
    cases addressType <;> simp [toUtxo, ListedAs, Outcome.bind_eq_ok, setBytes_eq_ok] <;> aesop

theorem toUtxo_ok_iff (utxo : RpcUtxo) : (∃ listed, toUtxo utxo = .ok listed) ↔ utxo.Listable := by
  simp only [toUtxo_eq_ok]
  constructor
  · rintro ⟨listed, types, -, -, decoded, outpoint⟩
    exact ⟨types.imp And.left And.left, ⟨_, decoded⟩, _, outpoint, listed.outPoint.hash.length_eq⟩
  · rintro ⟨witness | nested, ⟨script, decoded⟩, ⟨txid, outputIndex⟩, outpoint, fits⟩
    · exact ⟨⟨.witnessPubKey, utxo.amountSat, utxo.confirmations, script, ⟨txid, fits⟩, outputIndex⟩,
        .inl ⟨witness, rfl⟩, rfl, rfl, decoded, outpoint⟩
    · exact ⟨⟨.nestedWitnessPubKey, utxo.amountSat, utxo.confirmations, script, ⟨txid, fits⟩,
        outputIndex⟩, .inr ⟨nested, rfl⟩, rfl, rfl, decoded, outpoint⟩

theorem toUtxo_value (utxo : RpcUtxo) (converted : Utxo) (ok : toUtxo utxo = .ok converted) :
    converted.value = utxo.amountSat :=
  ((toUtxo_eq_ok utxo converted).mp ok).2.1

theorem collectUtxos_ok (utxos : List RpcUtxo) (lu listed : List Utxo) (totalAmount : Int64)
    (ok : (collectUtxos utxos lu totalAmount).1 = .ok listed) :
    ∃ added, listed = lu ++ added ∧
      (collectUtxos utxos lu totalAmount).2 = totalAmount + (added.map Utxo.value).sum := by
  induction utxos generalizing lu totalAmount with
  | nil =>
    simp only [collectUtxos, Outcome.ok.injEq] at ok
    exact ⟨[], by simp [ok], by simp [collectUtxos]⟩
  | cons utxo rest ih =>
    cases converts : toUtxo utxo with
    | ok converted =>
      simp only [collectUtxos, converts] at ok ⊢
      obtain ⟨added, rfl, total⟩ := ih _ _ ok
      refine ⟨converted :: added, by simp, ?_⟩
      rw [total, List.map_cons, List.sum_cons, toUtxo_value utxo converted converts, add_assoc]
    | error m => simp [collectUtxos, converts] at ok
    | panic p => simp [collectUtxos, converts] at ok

def inputTotal (utxos : List Utxo) : Int64 :=
  (utxos.map Utxo.value).sum

theorem listUnspentWitness_totalAmount (u : RpcUtxoSource) (response : Except String (List RpcUtxo))
    (listed : List Utxo) (ok : (listUnspentWitness u response).1 = .ok listed) :
    (listUnspentWitness u response).2.totalAmount = inputTotal listed := by
  cases response with
  | error e => simp [listUnspentWitness] at ok
  | ok utxos =>
    obtain ⟨added, rfl, total⟩ := collectUtxos_ok utxos [] listed 0 ok
    simpa [listUnspentWitness] using total

theorem collectUtxos_eq_ok (utxos : List RpcUtxo) (lu listed : List Utxo) (totalAmount : Int64) :
    (collectUtxos utxos lu totalAmount).1 = .ok listed ↔
      ∃ added, listed = lu ++ added ∧ List.Forall₂ ListedAs utxos added := by
  induction utxos generalizing lu totalAmount with
  | nil => simp [collectUtxos, eq_comm]
  | cons utxo rest ih =>
    simp only [List.forall₂_cons_left_iff, ← toUtxo_eq_ok]
    cases converts : toUtxo utxo with
    | ok converted =>
      simp only [collectUtxos, converts, ih, List.append_assoc, List.singleton_append,
        Outcome.ok.injEq]
      constructor
      · rintro ⟨added, rfl, image⟩
        exact ⟨_, rfl, _, added, rfl, image, rfl⟩
      · rintro ⟨_, rfl, _, added, rfl, image, rfl⟩
        exact ⟨added, rfl, image⟩
    | error m => simp [collectUtxos, converts]
    | panic p => simp [collectUtxos, converts]

theorem collectUtxos_ok_iff (utxos : List RpcUtxo) (lu : List Utxo) (totalAmount : Int64) :
    (∃ listed, (collectUtxos utxos lu totalAmount).1 = .ok listed) ↔
      ∀ utxo ∈ utxos, utxo.Listable := by
  induction utxos generalizing lu totalAmount with
  | nil => simp [collectUtxos]
  | cons utxo rest ih =>
    rw [List.forall_mem_cons, ← toUtxo_ok_iff]
    cases converts : toUtxo utxo with
    | ok converted => simp [collectUtxos, converts, ih]
    | error m => simp [collectUtxos, converts]
    | panic p => simp [collectUtxos, converts]

theorem listUnspentWitness_lists_each_record (u : RpcUtxoSource) (utxos : List RpcUtxo) :
    ((∃ lu, (listUnspentWitness u (.ok utxos)).1 = .ok lu) ↔ ∀ utxo ∈ utxos, utxo.Listable) ∧
      ∀ lu, (listUnspentWitness u (.ok utxos)).1 = .ok lu →
        List.Forall₂ ListedAs utxos lu ∧
          (listUnspentWitness u (.ok utxos)).2.totalAmount = inputTotal lu := by
  refine ⟨collectUtxos_ok_iff utxos [] 0, fun lu ok => ⟨?_, listUnspentWitness_totalAmount u _ lu ok⟩⟩
  obtain ⟨added, rfl, image⟩ := (collectUtxos_eq_ok utxos [] lu 0).mp ok
  simpa using image

theorem toInt_sum_of_nonneg (amounts : List Int64) (nonneg : ∀ a ∈ amounts, 0 ≤ a.toInt)
    (fits : (amounts.map BitVec.toInt).sum < 2 ^ 63) :
    amounts.sum.toInt = (amounts.map BitVec.toInt).sum := by
  induction amounts with
  | nil => rfl
  | cons a rest ih =>
    simp only [List.forall_mem_cons, List.map_cons, List.sum_cons] at nonneg fits ⊢
    have restNonneg : 0 ≤ (rest.map BitVec.toInt).sum :=
      List.sum_nonneg (by simpa using nonneg.2)
    rw [BitVec.toInt_add, ih nonneg.2 (by omega), Int.bmod_def]
    split <;> omega

theorem listUnspentWitness_totalAmount_toInt (u : RpcUtxoSource) (utxos : List RpcUtxo)
    (lu : List Utxo) (ok : (listUnspentWitness u (.ok utxos)).1 = .ok lu)
    (nonneg : ∀ utxo ∈ utxos, 0 ≤ utxo.amountSat.toInt)
    (fits : (utxos.map fun utxo => utxo.amountSat.toInt).sum < 2 ^ 63) :
    (listUnspentWitness u (.ok utxos)).2.totalAmount.toInt =
      (utxos.map fun utxo => utxo.amountSat.toInt).sum := by
  obtain ⟨_, rfl, image⟩ := (collectUtxos_eq_ok utxos [] lu 0).mp ok
  have values : lu.map Utxo.value = utxos.map RpcUtxo.amountSat := by
    rw [← List.forall₂_eq_eq_eq, List.forall₂_map_left_iff, List.forall₂_map_right_iff]
    exact image.flip.imp fun _ _ listed => listed.2.1
  rw [listUnspentWitness_totalAmount u _ _ ok, inputTotal, values,
    toInt_sum_of_nonneg _ (by simpa using nonneg) (by simpa using fits), List.map_map]
  rfl

def rpcCoin (amount : Int64) (tag : UInt8) : RpcUtxo :=
  ⟨.witnessPubkeyHash, amount, "0014", some ⟨List.replicate 32 tag, 0⟩, 6⟩

theorem listUnspentWitness_totalAmount_toInt_two_coins :
    ∃ lu, (listUnspentWitness ⟨99⟩ (.ok [rpcCoin 5 1, rpcCoin 7 2])).1 = .ok lu ∧
      (listUnspentWitness ⟨99⟩ (.ok [rpcCoin 5 1, rpcCoin 7 2])).2.totalAmount.toInt =
        ([rpcCoin 5 1, rpcCoin 7 2].map fun utxo => utxo.amountSat.toInt).sum :=
  ⟨_, rfl, listUnspentWitness_totalAmount_toInt _ _ _ rfl (by decide) (by decide)⟩

-- A record without an outpoint is not listable, and the listing panics on it rather than fail.
example : (listUnspentWitness ⟨99⟩ (.ok [rpcCoin 5 1, { rpcCoin 7 2 with outpoint := none }])).1 =
    .panic .nilDereference := rfl

-- What CraftSweepAllTx hands back besides a transaction: a blockchain.RuleError, or another error.
inductive CraftError where
  | ruleError (description : String)
  | other (message : String)
  deriving DecidableEq

def feeForWeight (feePerKw weight : Int64) : Int64 :=
  (feePerKw * weight).sdiv 1000

-- lnd's sweep.CraftSweepAllTx (not in this repository): it lists the coins once through the
-- given source and spends them all into one output paying feePerKw × weight / 1000; `reject`
-- stands for its checks (dust, blockchain.CheckTransactionSanity).
structure Sweeper where
  weight : List Utxo → Int64
  reject : MsgTx → Option CraftError

def Sweeper.sweepTx (s : Sweeper) (feePerKw : Int64) (blockHeight : UInt32) (pkScript : Bytes)
    (utxos : List Utxo) : MsgTx :=
  ⟨utxos.map Utxo.outPoint,
    [⟨inputTotal utxos - feeForWeight feePerKw (s.weight utxos), pkScript⟩], blockHeight⟩

structure Address where
  encoded : String
  isForNet : Bool
  pkScript : Bytes

def craftSweepAllTx (s : Sweeper) (feePerKw : Int64) (blockHeight : UInt32) (deliveryAddr : Address)
    (utxoSource : RpcUtxoSource) (listing : Except String (List RpcUtxo)) :
    Outcome (Except CraftError MsgTx) × RpcUtxoSource :=
  let listed := listUnspentWitness utxoSource listing
  (match listed.1 with
    | .ok utxos =>
      let tx := s.sweepTx feePerKw blockHeight deliveryAddr.pkScript utxos
      .ok (match s.reject tx with
        | some e => .error e
        | none => .ok tx)
    | .error m => .ok (.error (.other m))
    | .panic p => .panic p,
    listed.2)

-- GetInfo is none when APIClient() is nil, an estimate none when WalletKitClient() is nil;
-- listUnspent t is the listing made while tier t is crafted.
structure Node where
  getInfo : Option (Except String UInt32)
  estimateFee : Nat → Option (Except String Int64)
  listUnspent : Nat → Except String (List RpcUtxo)

structure ChainLibrary where
  decodeAddress : String → Except String Address
  parsePubKey : Bytes → Bool
  netName : String

def determineFeePerKw (confTarget : Nat) (estimate : Option (Except String Int64)) : Outcome Int64 :=
  match estimate with
  | none => .error "API not ready"
  | some (.error e) => .error ("walletKitClient.EstimateFee(" ++ toString confTarget ++ "): " ++ e)
  | some (.ok satPerKw) => .ok satPerKw

-- TxHash is left out, and Tx is kept as the transaction rather than its serialization.
structure TransactionDetails where
  tx : MsgTx
  fees : Int64

structure SweepAllCoinsTransactions where
  amt : Int64
  transactions : Nat → Option TransactionDetails

def amtOut (tx : MsgTx) : Int64 :=
  (tx.txOut.map TxOut.value).sum

-- `td[confTarget] = ...` and `totalAmount = rus.totalAmount` after tier confTarget is crafted.
def SweepAllCoinsTransactions.record (acc : SweepAllCoinsTransactions) (confTarget : Nat)
    (tx : MsgTx) (totalAmount : Int64) : SweepAllCoinsTransactions :=
  ⟨totalAmount, Function.update acc.transactions confTarget (some ⟨tx, totalAmount - amtOut tx⟩)⟩

@[simp] theorem SweepAllCoinsTransactions.record_amt (acc : SweepAllCoinsTransactions)
    (confTarget : Nat) (tx : MsgTx) (totalAmount : Int64) :
    (acc.record confTarget tx totalAmount).amt = totalAmount := rfl

theorem SweepAllCoinsTransactions.record_transactions (acc : SweepAllCoinsTransactions)
    (confTarget t : Nat) (tx : MsgTx) (totalAmount : Int64) :
    (acc.record confTarget tx totalAmount).transactions t =
      if t = confTarget then some ⟨tx, totalAmount - amtOut tx⟩ else acc.transactions t := by
  simp [record, Function.update_apply]

def targets : List Nat := [2, 6, 25]

section Sweep

variable (s : Sweeper) (node : Node) (targetAddr : Address) (blockHeight : UInt32)

-- One tier: a RuleError skips it (none), any other error ends the call.
def sweepTier (confTarget : Nat) : Outcome (Option (MsgTx × Int64)) := do
  let feePerKw ← (determineFeePerKw confTarget (node.estimateFee confTarget)).mapError
    (fun e => "a.determineFeePerKw(" ++ toString confTarget ++ "): " ++ e)
  let crafted := craftSweepAllTx s feePerKw blockHeight targetAddr newRpcUtxoSource
    (node.listUnspent confTarget)
  match ← crafted.1 with
  | .error (.ruleError _) => pure none
  | .error (.other e) => .error ("sweep.CraftSweepAllTx(): " ++ e)
  | .ok tx => pure (some (tx, crafted.2.totalAmount))

def sweepTiers : List Nat → SweepAllCoinsTransactions → Outcome SweepAllCoinsTransactions
  | [], acc => .ok acc
  | confTarget :: rest, acc =>
    sweepTier s node targetAddr blockHeight confTarget >>= fun
      | none => sweepTiers rest acc
      | some (tx, totalAmount) => sweepTiers rest (acc.record confTarget tx totalAmount)

@[simp] theorem amtOut_sweepTx (feePerKw : Int64) (pkScript : Bytes) (utxos : List Utxo) :
    amtOut (s.sweepTx feePerKw blockHeight pkScript utxos) =
      inputTotal utxos - feeForWeight feePerKw (s.weight utxos) := by
  simp [amtOut, Sweeper.sweepTx]

theorem sweepTier_eq_ok (t : Nat) (result : Option (MsgTx × Int64))
    (ok : sweepTier s node targetAddr blockHeight t = .ok result) :
    ∃ feePerKw utxos, node.estimateFee t = some (.ok feePerKw) ∧
      (listUnspentWitness newRpcUtxoSource (node.listUnspent t)).1 = .ok utxos ∧
      ((s.reject (s.sweepTx feePerKw blockHeight targetAddr.pkScript utxos) = none ∧
          result = some (s.sweepTx feePerKw blockHeight targetAddr.pkScript utxos,
            inputTotal utxos)) ∨
        ∃ description, s.reject (s.sweepTx feePerKw blockHeight targetAddr.pkScript utxos) =
          some (.ruleError description) ∧ result = none) := by
  unfold sweepTier craftSweepAllTx at ok
  rcases estimate : node.estimateFee t with _ | (_ | feePerKw) <;>
    simp only [estimate, determineFeePerKw, Outcome.mapError_error, Outcome.error_bind,
      reduceCtorEq] at ok
  simp only [Outcome.mapError_ok, Outcome.ok_bind] at ok
  cases listed : (listUnspentWitness newRpcUtxoSource (node.listUnspent t)).1 with
  | ok utxos =>
    refine ⟨feePerKw, utxos, rfl, rfl, ?_⟩
    cases refused : s.reject (s.sweepTx feePerKw blockHeight targetAddr.pkScript utxos) with
    | none =>
      simp only [listed, refused, Outcome.ok_bind, Outcome.pure_eq, Outcome.ok.injEq] at ok
      exact .inl ⟨rfl, by rw [← ok, listUnspentWitness_totalAmount _ _ _ listed]⟩
    | some e =>
      cases e with
      | ruleError description =>
        simp only [listed, refused, Outcome.ok_bind, Outcome.pure_eq, Outcome.ok.injEq] at ok
        exact .inr ⟨description, rfl, ok.symm⟩
      | other m => simp [listed, refused] at ok
  | error m => simp [listed] at ok
  | panic p => simp [listed] at ok

theorem sweepTiers_invariant (P : SweepAllCoinsTransactions → Prop) (tiers : List Nat)
    (preserved : ∀ acc t tx totalAmount, t ∈ tiers → P acc →
      sweepTier s node targetAddr blockHeight t = .ok (some (tx, totalAmount)) →
        P (acc.record t tx totalAmount))
    (acc r : SweepAllCoinsTransactions) (holds : P acc)
    (swept : sweepTiers s node targetAddr blockHeight tiers acc = .ok r) : P r := by
  induction tiers generalizing acc with
  | nil =>
    simp only [sweepTiers, Outcome.ok.injEq] at swept
    exact swept ▸ holds
  | cons t rest ih =>
    have later := fun acc t tx totalAmount (mem : t ∈ rest) =>
      preserved acc t tx totalAmount (List.mem_cons_of_mem _ mem)
    simp only [sweepTiers] at swept
    cases tier : sweepTier s node targetAddr blockHeight t with
    | ok result =>
      rw [tier, Outcome.ok_bind] at swept
      rcases result with _ | ⟨tx, totalAmount⟩
      · exact ih later acc holds swept
      · exact ih later _ (preserved acc t tx totalAmount (List.mem_cons_self _ _) holds tier) swept
    | error m => simp [tier] at swept
    | panic p => simp [tier] at swept

end Sweep

-- Tier t's entry spends exactly its listing, and Fees is their total less its outputs.
def SpendsListing (s : Sweeper) (node : Node) (t : Nat) (d : TransactionDetails) : Prop :=
  ∃ feePerKw utxos, node.estimateFee t = some (.ok feePerKw) ∧
    (listUnspentWitness newRpcUtxoSource (node.listUnspent t)).1 = .ok utxos ∧
    d.tx.txIn = utxos.map Utxo.outPoint ∧
    d.fees = inputTotal utxos - amtOut d.tx ∧
    d.fees = feeForWeight feePerKw (s.weight utxos)

def sweepAllCoinsTransactions (lib : ChainLibrary) (s : Sweeper) (node : Node) (address : String) :
    Outcome SweepAllCoinsTransactions := do
  let targetAddr ← Outcome.ofExcept (lib.decodeAddress address)
  failIf (targetAddr.isForNet = false)
    ("address: " ++ targetAddr.encoded ++ " is not valid for this network: " ++ lib.netName)
  failIf (lib.parsePubKey (Hex.decode (goBytes address)).1 = true) "cannot send coins to pubkeys"
  let info ← deref node.getInfo
  let blockHeight ← Outcome.ofExceptWith (fun e => "lnClient.GetInfo: " ++ e) info
  sweepTiers s node targetAddr blockHeight targets ⟨0, fun _ => none⟩

theorem sweepAllCoinsTransactions_eq_ok (lib : ChainLibrary) (s : Sweeper) (node : Node)
    (address : String) (r : SweepAllCoinsTransactions)
    (swept : sweepAllCoinsTransactions lib s node address = .ok r) :
    ∃ targetAddr blockHeight, lib.decodeAddress address = .ok targetAddr ∧
      node.getInfo = some (.ok blockHeight) ∧
      sweepTiers s node targetAddr blockHeight targets ⟨0, fun _ => none⟩ = .ok r := by
  simp only [sweepAllCoinsTransactions, Outcome.bind_eq_ok, Outcome.ofExcept_eq_ok, failIf_bind,
    ite_error_eq_ok, deref_eq_ok, Outcome.ofExceptWith_eq_ok] at swept
  obtain ⟨targetAddr, decoded, -, -, info, got, blockHeight, rfl, tiers⟩ := swept
  exact ⟨targetAddr, blockHeight, decoded, got, tiers⟩

theorem sweepTiers_spendsListing (s : Sweeper) (node : Node) (targetAddr : Address)
    (blockHeight : UInt32) (tiers : List Nat) (r : SweepAllCoinsTransactions)
    (swept : sweepTiers s node targetAddr blockHeight tiers ⟨0, fun _ => none⟩ = .ok r)
    (t : Nat) (d : TransactionDetails) (included : r.transactions t = some d) :
    SpendsListing s node t d := by
  refine sweepTiers_invariant s node targetAddr blockHeight
    (fun acc => ∀ t d, acc.transactions t = some d → SpendsListing s node t d) tiers ?_ _ r
    (by simp) swept t d included
  intro acc built tx totalAmount _ entries tier t d included
  rw [SweepAllCoinsTransactions.record_transactions] at included
  split at included
  next =>
    obtain ⟨feePerKw, utxos, estimate, listed, ⟨-, made⟩ | ⟨_, _, made⟩⟩ :=
      sweepTier_eq_ok s node targetAddr blockHeight _ _ tier
    · cases made
      cases included
      subst t
      exact ⟨feePerKw, utxos, estimate, listed, rfl, rfl, by simp⟩
    · cases made
  next => exact entries t d included

theorem sweepAllCoinsTransactions_fees (lib : ChainLibrary) (s : Sweeper) (node : Node)
    (address : String) (r : SweepAllCoinsTransactions) (t : Nat) (d : TransactionDetails)
    (swept : sweepAllCoinsTransactions lib s node address = .ok r)
    (included : r.transactions t = some d) :
    SpendsListing s node t d := by
  obtain ⟨targetAddr, blockHeight, -, -, tiers⟩ :=
    sweepAllCoinsTransactions_eq_ok lib s node address r swept
  exact sweepTiers_spendsListing s node targetAddr blockHeight targets r tiers t d included

theorem sweepTier_totalAmount (s : Sweeper) (node : Node) (targetAddr : Address)
    (blockHeight : UInt32) (t : Nat) (tx : MsgTx) (totalAmount : Int64)
    (built : sweepTier s node targetAddr blockHeight t = .ok (some (tx, totalAmount))) :
    totalAmount = (listUnspentWitness newRpcUtxoSource (node.listUnspent t)).2.totalAmount := by
  obtain ⟨_, utxos, -, listed, ⟨-, made⟩ | ⟨_, _, made⟩⟩ :=
    sweepTier_eq_ok s node targetAddr blockHeight t _ built
  · cases made
    rw [listUnspentWitness_totalAmount _ _ _ listed]
  · cases made

theorem sweepTiers_keeps (s : Sweeper) (node : Node) (targetAddr : Address)
    (blockHeight : UInt32) (tiers : List Nat) (acc r : SweepAllCoinsTransactions) (t : Nat)
    (present : (acc.transactions t).isSome)
    (swept : sweepTiers s node targetAddr blockHeight tiers acc = .ok r) :
    (r.transactions t).isSome := by
  refine sweepTiers_invariant s node targetAddr blockHeight
    (fun acc => (acc.transactions t).isSome) tiers ?_ acc r present swept
  intro acc built tx totalAmount _ present _
  rw [SweepAllCoinsTransactions.record_transactions]
  split <;> simp [present]

theorem sweepTiers_missing (s : Sweeper) (node : Node) (targetAddr : Address)
    (blockHeight : UInt32) (tiers : List Nat) (acc r : SweepAllCoinsTransactions) (t : Nat)
    (swept : sweepTiers s node targetAddr blockHeight tiers acc = .ok r) (tier : t ∈ tiers)
    (missing : r.transactions t = none) :
    sweepTier s node targetAddr blockHeight t = .ok none := by
  induction tiers generalizing acc with
  | nil => cases tier
  | cons first rest ih =>
    simp only [sweepTiers] at swept
    cases built : sweepTier s node targetAddr blockHeight first with
    | ok result =>
      rw [built, Outcome.ok_bind] at swept
      by_cases same : t = first
      · subst same
        rcases result with _ | ⟨tx, totalAmount⟩
        · exact built
        · have kept := sweepTiers_keeps s node targetAddr blockHeight rest _ r t
            (by simp [SweepAllCoinsTransactions.record_transactions]) swept
          simp [missing] at kept
      · have later : t ∈ rest := (List.mem_cons.mp tier).resolve_left same
        rcases result with _ | ⟨tx, totalAmount⟩
        · exact ih acc swept later
        · exact ih _ swept later
    | error m => simp [built] at swept
    | panic p => simp [built] at swept

theorem sweepAllCoinsTransactions_amt_of_steady_wallet (lib : ChainLibrary) (s : Sweeper)
    (node : Node) (address : String) (r : SweepAllCoinsTransactions) (t : Nat)
    (d : TransactionDetails)
    (steady : ∀ t ∈ targets, ∀ t' ∈ targets, node.listUnspent t = node.listUnspent t')
    (swept : sweepAllCoinsTransactions lib s node address = .ok r)
    (included : r.transactions t = some d) :
    r.amt - d.fees = amtOut d.tx := by
  obtain ⟨targetAddr, blockHeight, -, -, tiers⟩ :=
    sweepAllCoinsTransactions_eq_ok lib s node address r swept
  let total := (listUnspentWitness newRpcUtxoSource (node.listUnspent 2)).2.totalAmount
  have common : ∀ t d, r.transactions t = some d → r.amt = total ∧ d.fees = total - amtOut d.tx := by
    refine sweepTiers_invariant s node targetAddr blockHeight
      (fun acc => ∀ t d, acc.transactions t = some d → acc.amt = total ∧
        d.fees = total - amtOut d.tx) targets ?_ _ r (by simp) tiers
    intro acc built tx totalAmount tier entries crafted t d included
    have same : totalAmount = total := by
      rw [sweepTier_totalAmount s node targetAddr blockHeight built tx totalAmount crafted,
        steady built tier 2 (by decide)]
    rw [SweepAllCoinsTransactions.record_transactions] at included
    split at included
    · cases included
      exact ⟨same, by rw [same]⟩
    · exact ⟨same, (entries t d included).2⟩
  obtain ⟨amt, fees⟩ := common t d included
  rw [amt, fees, sub_sub_cancel]

theorem sweepAllCoinsTransactions_amt_sub_fees_iff (lib : ChainLibrary) (s : Sweeper)
    (node : Node) (address : String) (r : SweepAllCoinsTransactions) (t : Nat)
    (d : TransactionDetails) (swept : sweepAllCoinsTransactions lib s node address = .ok r)
    (included : r.transactions t = some d) :
    r.amt - d.fees = amtOut d.tx ↔
      (listUnspentWitness newRpcUtxoSource (node.listUnspent t)).2.totalAmount = r.amt := by
  obtain ⟨targetAddr, blockHeight, -, -, tiers⟩ :=
    sweepAllCoinsTransactions_eq_ok lib s node address r swept
  obtain ⟨_, utxos, -, listed, -, fees, -⟩ :=
    sweepTiers_spendsListing s node targetAddr blockHeight targets r tiers t d included
  rw [listUnspentWitness_totalAmount _ _ _ listed, fees]
  constructor <;> intro h <;> linear_combination -h

theorem sweepAllCoinsTransactions_missing_tier (lib : ChainLibrary) (s : Sweeper) (node : Node)
    (address : String) (r : SweepAllCoinsTransactions) (t : Nat)
    (swept : sweepAllCoinsTransactions lib s node address = .ok r) (tier : t ∈ targets)
    (missing : r.transactions t = none) :
    ∃ targetAddr blockHeight feePerKw utxos description,
      lib.decodeAddress address = .ok targetAddr ∧ node.getInfo = some (.ok blockHeight) ∧
      node.estimateFee t = some (.ok feePerKw) ∧
      (listUnspentWitness newRpcUtxoSource (node.listUnspent t)).1 = .ok utxos ∧
      s.reject (s.sweepTx feePerKw blockHeight targetAddr.pkScript utxos) =
        some (.ruleError description) := by
  obtain ⟨targetAddr, blockHeight, decoded, got, tiers⟩ :=
    sweepAllCoinsTransactions_eq_ok lib s node address r swept
  obtain ⟨feePerKw, utxos, estimate, listed, ⟨-, made⟩ | ⟨description, refused, -⟩⟩ :=
    sweepTier_eq_ok s node targetAddr blockHeight t none
      (sweepTiers_missing s node targetAddr blockHeight targets _ r t tiers tier missing)
  · cases made
  · exact ⟨targetAddr, blockHeight, feePerKw, utxos, description, decoded, got, estimate, listed,
      refused⟩

theorem sweepTiers_amt (s : Sweeper) (node : Node) (targetAddr : Address) (blockHeight : UInt32)
    (tiers : List Nat) (distinct : tiers.Nodup) (acc r : SweepAllCoinsTransactions)
    (fresh : ∀ t ∈ tiers, acc.transactions t = none)
    (swept : sweepTiers s node targetAddr blockHeight tiers acc = .ok r) :
    (∀ t, t ∉ tiers → r.transactions t = acc.transactions t) ∧
      r.amt = ((tiers.filter fun t => (r.transactions t).isSome).getLast?.map fun t =>
        (listUnspentWitness newRpcUtxoSource (node.listUnspent t)).2.totalAmount).getD acc.amt := by
  induction tiers generalizing acc with
  | nil =>
    simp only [sweepTiers, Outcome.ok.injEq] at swept
    subst swept
    simp
  | cons t rest ih =>
    obtain ⟨notLater, distinctRest⟩ := List.nodup_cons.mp distinct
    have freshRest : ∀ t' ∈ rest, acc.transactions t' = none :=
      fun t' mem => fresh t' (List.mem_cons_of_mem _ mem)
    simp only [sweepTiers] at swept
    cases tier : sweepTier s node targetAddr blockHeight t with
    | ok result =>
      rw [tier, Outcome.ok_bind] at swept
      rcases result with _ | ⟨tx, totalAmount⟩
      · obtain ⟨others, amt⟩ := ih distinctRest acc freshRest swept
        have absent : r.transactions t = none :=
          (others t notLater).trans (fresh t (List.mem_cons_self _ _))
        refine ⟨fun t' notIn => others t' (fun mem => notIn (List.mem_cons_of_mem _ mem)), ?_⟩
        rw [List.filter_cons, if_neg (by simp [absent]), amt]
      · have recordedRest : ∀ t' ∈ rest, (acc.record t tx totalAmount).transactions t' = none := by
          intro t' mem
          rw [SweepAllCoinsTransactions.record_transactions,
            if_neg (fun (same : t' = t) => notLater (same ▸ mem)), freshRest t' mem]
        obtain ⟨others, amt⟩ := ih distinctRest _ recordedRest swept
        have present : (r.transactions t).isSome := by
          rw [others t notLater, SweepAllCoinsTransactions.record_transactions, if_pos rfl]
          rfl
        refine ⟨fun t' notIn => ?_, ?_⟩
        · rw [others t' (fun mem => notIn (List.mem_cons_of_mem _ mem)),
            SweepAllCoinsTransactions.record_transactions,
            if_neg (fun (same : t' = t) => notIn (same ▸ List.mem_cons_self t rest))]
        · rw [List.filter_cons, if_pos present, amt, SweepAllCoinsTransactions.record_amt]
          cases later : rest.filter fun t => (r.transactions t).isSome with
          | nil => simp [sweepTier_totalAmount s node targetAddr blockHeight t tx totalAmount tier]
          | cons first more => simp [List.getLast?_cons]
    | error m => simp [tier] at swept
    | panic p => simp [tier] at swept

def walletNode (satPerKw : Int64) (coins : Nat → List RpcUtxo) : Node :=
  ⟨some (.ok 700000), fun _ => some (.ok satPerKw), fun t => .ok (coins t)⟩

def anyAddress : ChainLibrary :=
  ⟨fun a => .ok ⟨a, true, [0, 20]⟩, fun _ => false, "mainnet"⟩

def acceptingSweeper (weight : Int64) : Sweeper :=
  ⟨fun _ => weight, fun _ => none⟩

theorem sweepAllCoinsTransactions_fees_one_coin :
    ∃ r d, sweepAllCoinsTransactions anyAddress (acceptingSweeper 444)
        (walletNode 1000 fun _ => [rpcCoin 100000 1]) "bc1q" = .ok r ∧
      r.transactions 6 = some d ∧
      SpendsListing (acceptingSweeper 444) (walletNode 1000 fun _ => [rpcCoin 100000 1]) 6 d :=
  ⟨_, _, rfl, rfl, sweepAllCoinsTransactions_fees anyAddress _ _ "bc1q" _ 6 _ rfl rfl⟩

theorem sweepAllCoinsTransactions_zero_fee :
    ∃ r d, sweepAllCoinsTransactions anyAddress (acceptingSweeper 444)
        (walletNode 0 fun _ => [rpcCoin 100000 1]) "bc1q" = .ok r ∧
      r.transactions 2 = some d ∧ d.fees = 0 :=
  ⟨_, _, rfl, rfl, rfl⟩

theorem sweepAllCoinsTransactions_amt_of_steady_wallet_one_coin :
    (∀ t ∈ targets, ∀ t' ∈ targets, (walletNode 1000 fun _ => [rpcCoin 100000 1]).listUnspent t =
        (walletNode 1000 fun _ => [rpcCoin 100000 1]).listUnspent t') ∧
      ∃ r d, sweepAllCoinsTransactions anyAddress (acceptingSweeper 444)
          (walletNode 1000 fun _ => [rpcCoin 100000 1]) "bc1q" = .ok r ∧
        r.transactions 2 = some d ∧ r.amt - d.fees = amtOut d.tx :=
  ⟨fun _ _ _ _ => rfl, _, _, rfl, rfl,
    sweepAllCoinsTransactions_amt_of_steady_wallet anyAddress (acceptingSweeper 444)
      (walletNode 1000 fun _ => [rpcCoin 100000 1]) "bc1q" _ 2 _ (fun _ _ _ _ => rfl) rfl rfl⟩

-- A wallet that receives a second coin after tier 2 has listed the first.
def growingWallet (t : Nat) : List RpcUtxo :=
  if t = 2 then [rpcCoin 100000 1] else [rpcCoin 100000 1, rpcCoin 50000 2]

theorem sweepAllCoinsTransactions_amt_drifts :
    ∃ r d, sweepAllCoinsTransactions anyAddress (acceptingSweeper 444)
        (walletNode 1000 growingWallet) "bc1q" = .ok r ∧
      r.transactions 2 = some d ∧ r.amt - d.fees ≠ amtOut d.tx :=
  ⟨_, _, rfl, rfl, by decide⟩

theorem sweepAllCoinsTransactions_amt_sub_fees_iff_growing :
    ∃ r d, sweepAllCoinsTransactions anyAddress (acceptingSweeper 444)
        (walletNode 1000 growingWallet) "bc1q" = .ok r ∧
      r.transactions 2 = some d ∧
      (r.amt - d.fees = amtOut d.tx ↔
        (listUnspentWitness newRpcUtxoSource
          ((walletNode 1000 growingWallet).listUnspent 2)).2.totalAmount = r.amt) :=
  ⟨_, _, rfl, rfl, sweepAllCoinsTransactions_amt_sub_fees_iff anyAddress (acceptingSweeper 444)
    (walletNode 1000 growingWallet) "bc1q" _ 2 _ rfl rfl⟩

-- A builder that, like blockchain.CheckTransactionSanity, refuses a transaction without inputs.
def checkingSweeper (weight : Int64) : Sweeper :=
  ⟨fun _ => weight, fun tx => if tx.txIn = [] then some (.ruleError "transaction has no inputs")
    else none⟩

theorem sweepAllCoinsTransactions_missing_tier_empty_wallet :
    ∃ r, sweepAllCoinsTransactions anyAddress (checkingSweeper 444) (walletNode 0 fun _ => [])
        "bc1q" = .ok r ∧ 2 ∈ targets ∧ r.transactions 2 = none ∧
      ∃ targetAddr blockHeight feePerKw utxos description,
        anyAddress.decodeAddress "bc1q" = .ok targetAddr ∧
        (walletNode 0 fun _ => []).getInfo = some (.ok blockHeight) ∧
        (walletNode 0 fun _ => []).estimateFee 2 = some (.ok feePerKw) ∧
        (listUnspentWitness newRpcUtxoSource ((walletNode 0 fun _ => []).listUnspent 2)).1 =
          .ok utxos ∧
        (checkingSweeper 444).reject
            ((checkingSweeper 444).sweepTx feePerKw blockHeight targetAddr.pkScript utxos) =
          some (.ruleError description) :=
  ⟨_, rfl, by decide, rfl, sweepAllCoinsTransactions_missing_tier anyAddress (checkingSweeper 444)
    (walletNode 0 fun _ => []) "bc1q" _ 2 rfl (by decide) rfl⟩

theorem sweepAllCoinsTransactions_amt_of_last_tier (lib : ChainLibrary) (s : Sweeper) (node : Node)
    (address : String) (r : SweepAllCoinsTransactions)
    (swept : sweepAllCoinsTransactions lib s node address = .ok r) :
    (∀ t, (r.transactions t).isSome → t ∈ targets) ∧
      r.amt = ((targets.filter fun t => (r.transactions t).isSome).getLast?.map fun t =>
        (listUnspentWitness newRpcUtxoSource (node.listUnspent t)).2.totalAmount).getD 0 := by
  obtain ⟨targetAddr, blockHeight, -, -, tiers⟩ :=
    sweepAllCoinsTransactions_eq_ok lib s node address r swept
  obtain ⟨others, amt⟩ :=
    sweepTiers_amt s node targetAddr blockHeight targets (by decide) _ r (fun _ _ => rfl) tiers
  refine ⟨fun t present => ?_, amt⟩
  by_contra notTier
  simp [others t notTier] at present

theorem sweepAllCoinsTransactions_amt_of_last_tier_emptied :
    ∃ r, sweepAllCoinsTransactions anyAddress (checkingSweeper 444)
        (walletNode 0 fun t => if t = 25 then [] else [rpcCoin 100000 1]) "bc1q" = .ok r ∧
      (∀ t, (r.transactions t).isSome → t ∈ targets) ∧
      r.amt = ((targets.filter fun t => (r.transactions t).isSome).getLast?.map fun t =>
        (listUnspentWitness newRpcUtxoSource ((walletNode 0 fun t =>
          if t = 25 then [] else [rpcCoin 100000 1]).listUnspent t)).2.totalAmount).getD 0 :=
  ⟨_, rfl, sweepAllCoinsTransactions_amt_of_last_tier anyAddress (checkingSweeper 444)
    (walletNode 0 fun t => if t = 25 then [] else [rpcCoin 100000 1]) "bc1q" _ rfl⟩

-- reply is none when WalletKitClient() is nil.
def publishTransaction (txHex : Bytes) (reply : Option (Except String String)) : Outcome Unit := do
  let response ← deref reply
  match response with
  | .error e => .error ("walletKitClient.PublishTransaction(" ++ Hex.encodeToString txHex ++ "): " ++ e)
  | .ok publishError =>
    failIf (publishError ≠ "")
      ("walletKitClient.PublishTransaction(" ++ Hex.encodeToString txHex ++ "): " ++ publishError)

end Breez.Account
