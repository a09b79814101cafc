import Breez.Account.Lnurl

set_option autoImplicit false

namespace Breez.Account

open Go Crypto

structure Bip32Key where
  key : Bytes
  chainCode : Bytes
  deriving DecidableEq, Repr

-- go-bip32, btcec and lnwire are not in this repository; their calls are fields.
structure Bip32 where
  newMasterKey : Bytes → Except String Bip32Key
  newChildKey : Bip32Key → UInt32 → Except String Bip32Key

structure Secp256k1 where
  serializeCompressed : Bytes → Bytes
  sign : Bytes → Bytes → Except String Bytes
  wireSignature : Bytes → Except String Bytes

-- breezDB.FetchLNURLAuthKey (package db is not under src) answers the stored seed, or a fresh
-- one from its generator, which sets needsBackup; the second component is whether
-- a.requestBackup() was called.
def getLNURLAuthKey (bip32 : Bip32) (fetched : Except String (Bytes × Bool)) : Outcome Bip32Key × Bool :=
  match fetched with
  | .error e => (.error ("failed to fetch lnurl key " ++ e), false)
  | .ok (seed, needsBackup) =>
    (Outcome.ofExceptWith ("error creating lnurl master key: " ++ ·) (bip32.newMasterKey seed),
      needsBackup)

def chunkIndex (sha : Bytes32) (i : Nat) : UInt32 :=
  UInt32.ofNat (((sha.bytes.drop (4 * i)).take 4).foldl (fun acc b => 256 * acc + b.toNat) 0)

-- `for key, err = key.NewChildKey(nextChildIndex); err != nil; { nextChildIndex++ }`: the
-- condition reads only err, which the body never assigns.  `fuel` bounds the condition checks.
def retryChild : Nat → Except String Bip32Key → UInt32 → Option Bip32Key
  | 0, _, _ => none
  | _ + 1, .ok child, _ => some child
  | fuel + 1, .error e, nextChildIndex => retryChild fuel (.error e) (nextChildIndex + 1)

def derivePath (bip32 : Bip32) (fuel : Nat) (sha : Bytes32) : List Nat → Bip32Key → Option Bip32Key
  | [], key => some key
  | i :: rest, key =>
    (retryChild fuel (bip32.newChildKey key (chunkIndex sha i)) (chunkIndex sha i)).bind
      (derivePath bip32 fuel sha rest)

def authQuery (pubKey der : Bytes) (jwt : Bool) : List (String × String) :=
  [("key", Hex.encodeToString pubKey), ("sig", Hex.encodeToString der)] ++
    if jwt then [("jwt", "true")] else []

section Auth

variable (lib : Library) (bip32 : Bip32) (secp : Secp256k1)

def loginWith (key : Bip32Key) (authParams : Data.LNURLAuth)
    (get : String → Except String (Except String Lnurl.LoginResponse)) : Outcome String := do
  let k1Decoded ← Outcome.ofExceptWith ("failed to decode k1 challenge " ++ ·)
    ((Hex.decodeString (goBytes authParams.k1)).mapError Hex.HexError.text)
  let sig ← Outcome.ofExceptWith ("failed to sign k1 challenge " ++ ·) (secp.sign key.key k1Decoded)
  let der ← Outcome.ofExceptWith ("can\x27t convert sig to wire format: " ++ ·)
    (secp.wireSignature sig)
  let url ← Outcome.ofExceptWith ("invalid callback url " ++ ·) (lib.parseURL authParams.callback)
  let body ← Outcome.ofExcept
    (get (lib.withQuery url (authQuery (secp.serializeCompressed key.key) der authParams.jwt)))
  let lnurlresp ← Outcome.ofExcept body
  failIf (lnurlresp.status = "ERROR") lnurlresp.reason
  pure lnurlresp.token

-- Writing the host into the HMAC cannot fail, so that error return is not modelled.
def finishLNURLAuth (fuel : Nat) (fetched : Except String (Bytes × Bool))
    (authParams : Data.LNURLAuth)
    (get : String → Except String (Except String Lnurl.LoginResponse)) : Option (Outcome String) :=
  match (getLNURLAuthKey bip32 fetched).1 with
  | .ok masterKey =>
    (derivePath bip32 fuel (hmacSha256 masterKey.key (goBytes authParams.host)) [0, 1, 2, 3]
      masterKey).map fun key => loginWith lib secp key authParams get
  | .error e => some (.error e)
  | .panic p => some (.panic p)

end Auth

def refusingBip32 (refused : UInt32) : Bip32 :=
  ⟨fun seed => .ok ⟨seed, []⟩, fun parent index =>
    if index = refused then .error "invalid child index"
    else .ok ⟨parent.key ++ [0], parent.chainCode⟩⟩

def echoSecp : Secp256k1 :=
  ⟨id, fun _ message => .ok message, .ok⟩

theorem retryChild_error (fuel : Nat) (e : String) (nextChildIndex : UInt32) :
    retryChild fuel (.error e) nextChildIndex = none := by
  induction fuel generalizing nextChildIndex with
  | zero => rfl
  | succ fuel ih => exact ih (nextChildIndex + 1)

theorem finishLNURLAuth_spins_on_rejected_index (lib : Library) (bip32 : Bip32)
    (secp : Secp256k1) (fetched : Except String (Bytes × Bool)) (authParams : Data.LNURLAuth)
    (get : String → Except String (Except String Lnurl.LoginResponse)) (masterKey : Bip32Key)
    (e : String) (master : (getLNURLAuthKey bip32 fetched).1 = .ok masterKey)
    (rejected : bip32.newChildKey masterKey
      (chunkIndex (hmacSha256 masterKey.key (goBytes authParams.host)) 0) = .error e)
    (fuel : Nat) :
    finishLNURLAuth lib bip32 secp fuel fetched authParams get = none := by
  simp [finishLNURLAuth, master, derivePath, rejected, retryChild_error]

def serviceAuth : Data.LNURLAuth :=
  ⟨"login", "https://service.example/auth", "00", "service.example", false⟩

def serviceFirstIndex : UInt32 :=
  chunkIndex (hmacSha256 [7] (goBytes serviceAuth.host)) 0

theorem uint32_succ_ne (x : UInt32) : x + 1 ≠ x := by
  intro same
  have := congrArg UInt32.toNat same
  simp [UInt32.toNat, UInt32.add_def, Fin.val_add] at this
  omega

theorem finishLNURLAuth_spins_on_rejected_index_service :
    (getLNURLAuthKey (refusingBip32 serviceFirstIndex) (.ok ([7], false))).1 = .ok ⟨[7], []⟩ ∧
      (refusingBip32 serviceFirstIndex).newChildKey ⟨[7], []⟩
        (chunkIndex (hmacSha256 [7] (goBytes serviceAuth.host)) 0) = .error "invalid child index" ∧
      (refusingBip32 serviceFirstIndex).newChildKey ⟨[7], []⟩ (serviceFirstIndex + 1) =
        .ok ⟨[7, 0], []⟩ ∧
      ∀ fuel, finishLNURLAuth Library.passThrough (refusingBip32 serviceFirstIndex) echoSecp fuel
        (.ok ([7], false)) serviceAuth (fun _ => .error "no reply") = none := by
  have refused : (refusingBip32 serviceFirstIndex).newChildKey ⟨[7], []⟩
      (chunkIndex (hmacSha256 [7] (goBytes serviceAuth.host)) 0) = .error "invalid child index" := by
    simp [refusingBip32, serviceFirstIndex]
  exact ⟨rfl, refused, by simp [refusingBip32, uint32_succ_ne],
    finishLNURLAuth_spins_on_rejected_index _ _ _ _ _ _ _ _ rfl refused⟩

end Breez.Account
