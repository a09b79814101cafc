import Breez.Go.Hex
import Breez.Go.Float
import Breez.Crypto.Sha256

set_option autoImplicit false

namespace Breez

open Go

namespace Lnurl

structure LNURLAuthParams where
  tag : String
  k1 : String
  callback : String
  host : String
  deriving DecidableEq, Repr

structure LNURLWithdrawResponse where
  callbackURL : String
  k1 : String
  maxWithdrawable : Int
  minWithdrawable : Int
  defaultDescription : String
  deriving DecidableEq, Repr

structure LNURLChannelResponse where
  uri : String
  callback : String
  k1 : String
  deriving DecidableEq, Repr

structure LNURLPayResponse1 where
  callback : String
  maxSendable : Int
  minSendable : Int
  encodedMetadata : String
  metadata : List (List String)
  deriving DecidableEq, Repr

inductive Params where
  | auth (params : LNURLAuthParams)
  | withdraw (params : LNURLWithdrawResponse)
  | channel (params : LNURLChannelResponse)
  | pay1 (params : LNURLPayResponse1)
  | unsupported
  deriving DecidableEq, Repr

structure SuccessAction where
  tag : String
  description : String
  url : String
  message : String
  ciphertext : String
  iv : String
  deriving DecidableEq, Repr

structure LNURLPayResponse2 where
  status : String
  reason : String
  successAction : Option SuccessAction
  pr : String
  deriving DecidableEq, Repr

structure LNURLResponse where
  status : String
  reason : String
  deriving DecidableEq, Repr

structure LoginResponse where
  status : String
  reason : String
  token : String
  deriving DecidableEq, Repr

end Lnurl

namespace Data

structure LNURLAuth where
  tag : String
  callback : String
  k1 : String
  host : String
  jwt : Bool
  deriving DecidableEq, Repr

structure LNUrlWithdraw where
  minAmount : Int
  maxAmount : Int
  defaultDescription : String
  deriving DecidableEq, Repr

structure LNURLChannel where
  k1 : String
  callback : String
  uri : String
  deriving DecidableEq, Repr

structure LNUrlPayMetadata where
  entry : List String
  deriving DecidableEq, Repr

structure LNURLPayResponse1 where
  host : String
  callback : String
  minAmount : Int
  maxAmount : Int
  metadata : List LNUrlPayMetadata
  amount : Nat
  comment : String
  deriving DecidableEq, Repr

inductive LNUrlResponse where
  | auth (auth : LNURLAuth)
  | withdraw (withdraw : LNUrlWithdraw)
  | channel (channel : LNURLChannel)
  | payResponse1 (pay : LNURLPayResponse1)
  deriving DecidableEq, Repr

structure SuccessAction where
  tag : String
  description : String
  url : String
  message : String
  ciphertext : String
  iv : String
  deriving DecidableEq, Repr

def SuccessAction.ofLnurl (sa : Lnurl.SuccessAction) : SuccessAction :=
  ⟨sa.tag, sa.description, sa.url, sa.message, sa.ciphertext, sa.iv⟩

def SuccessAction.toLnurl (sa : SuccessAction) : Lnurl.SuccessAction :=
  ⟨sa.tag, sa.description, sa.url, sa.message, sa.ciphertext, sa.iv⟩

structure LNUrlPayInfo where
  paymentHash : String
  successAction : Option SuccessAction
  comment : String
  invoiceDescription : String
  host : String
  metadata : List LNUrlPayMetadata
  invoice : String
  deriving DecidableEq, Repr

end Data

namespace Account

-- zpay32.Decode rejects an invoice without a payment hash, so only the description hash and the
-- amount may be missing.
structure Invoice where
  paymentHash : Bytes32
  descriptionHash : Option Bytes32
  milliSat : Option Nat
  deriving DecidableEq

structure Library where
  findLNURLInText : String → Option String
  urlHost : String → Option String
  withK1 : String → String → String
  parseURL : String → Except String String
  withQuery : String → List (String × String) → String
  decodeInvoice : String → Except String Invoice
  description : List (List String) → String
  decipher : String → String → Bytes → Except String String

def Library.passThrough : Library where
  findLNURLInText := some
  urlHost := fun _ => none
  withK1 := fun url _ => url
  parseURL := .ok
  withQuery := fun url _ => url
  decodeInvoice := fun _ => .error "invoice not decodable"
  description := fun _ => ""
  decipher := fun ciphertext _ _ => .ok ciphertext

def Library.decodingTo (invoice : Invoice) : Library :=
  { Library.passThrough with decodeInvoice := fun _ => .ok invoice }

-- a.lnurlPayMetadata, the single pending LNURL-pay slot.
structure PayMetadata where
  encoded : String
  data : List (List String)
  deriving DecidableEq, Repr

structure Service where
  lnurlWithdrawing : String
  lnurlPayMetadata : PayMetadata
  payInfos : String → Option Data.LNUrlPayInfo

def Service.initial : Service :=
  ⟨"", ⟨"", []⟩, fun _ => none⟩

inductive DbResult where
  | committed
  | failed (reason : String)
  deriving DecidableEq, Repr

-- breezDB's SaveLNUrlPayInfo and FetchLNUrlPayInfo (package db is not under src), from the
-- spec: a record persisted under its payment hash.
def Service.withPayInfo (a : Service) (info : Data.LNUrlPayInfo) : Service :=
  { a with payInfos := Function.update a.payInfos info.paymentHash (some info) }

theorem Service.withPayInfo_idem (a : Service) (info : Data.LNUrlPayInfo) :
    (a.withPayInfo info).withPayInfo info = a.withPayInfo info := by
  simp [Service.withPayInfo]

def saveLNUrlPayInfo (a : Service) (info : Data.LNUrlPayInfo) : DbResult → Except String Service
  | .committed => .ok (a.withPayInfo info)
  | .failed reason => .error reason

def fetchLNUrlPayInfo (a : Service) (paymentHash : String) :
    DbResult → Except String (Option Data.LNUrlPayInfo)
  | .committed => .ok (a.payInfos paymentHash)
  | .failed reason => .error reason

-- int64(math.Floor(float64(v) / 1000)) and the Ceil variant.
def floorSat (v : Int) : Int := ((Float64.ofInt v).divNat 1000).floor
def ceilSat (v : Int) : Int := ((Float64.ofInt v).divNat 1000).ceil

def payMetadataEntries : List (List String) → Outcome (List Data.LNUrlPayMetadata)
  | [] => pure []
  | e :: rest => do
    let first ← index e 0
    let second ← index e 1
    let tail ← payMetadataEntries rest
    pure (⟨[first, second]⟩ :: tail)

theorem payMetadataEntries_of_long (m : List (List String)) (long : ∀ e ∈ m, 2 ≤ e.length) :
    payMetadataEntries m = .ok (m.map fun e => ⟨e.take 2⟩) := by
  induction m with
  | nil => rfl
  | cons e rest ih =>
    have tail := ih fun e' member => long e' (List.mem_cons_of_mem _ member)
    match e, long e (List.mem_cons_self _ _) with
    | x :: y :: more, _ => simp [payMetadataEntries, index, tail]

theorem payMetadataEntries_isPanic (m : List (List String)) :
    (payMetadataEntries m).isPanic ↔ ∃ e ∈ m, e.length < 2 := by
  induction m with
  | nil => simp [payMetadataEntries]
  | cons e rest ih =>
    match e with
    | [] | [_] => simp [payMetadataEntries, index]
    | x :: y :: more => simp [payMetadataEntries, index, ih]

section

variable (lib : Library)

def handleLNURL (a : Service) (rawString : String)
    (resolved : Except String (String × Lnurl.Params)) : Outcome Data.LNUrlResponse × Service :=
  match lib.findLNURLInText rawString with
  | none => (.error ("'" ++ rawString ++ "' does not contain an LNURL."), a)
  | some _ =>
    match resolved with
    | .error e => (.error e, a)
    | .ok (rawurl, iparams) =>
      match iparams with
      | .auth params => (.ok (.auth ⟨params.tag, params.callback, params.k1, params.host, false⟩), a)
      | .withdraw params =>
        (.ok (.withdraw ⟨ceilSat params.minWithdrawable, floorSat params.maxWithdrawable,
            params.defaultDescription⟩),
          { a with lnurlWithdrawing := lib.withK1 params.callbackURL params.k1 })
      | .channel params => (.ok (.channel ⟨params.k1, params.callback, params.uri⟩), a)
      | .pay1 params =>
        let host := (lib.urlHost rawurl).getD ""
        let a := { a with lnurlPayMetadata := ⟨params.encodedMetadata, params.metadata⟩ }
        (do
          let metadata ← payMetadataEntries params.metadata
          pure (.payResponse1 ⟨host, params.callback, floorSat params.minSendable,
            floorSat params.maxSendable, metadata, 0, ""⟩), a)
      | .unsupported => (.error "Unsupported LNURL", a)

theorem handleLNURL_payInfos (a : Service) (rawString : String)
    (resolved : Except String (String × Lnurl.Params)) :
    (handleLNURL lib a rawString resolved).2.payInfos = a.payInfos := by
  unfold handleLNURL
  split
  · rfl
  · rcases resolved with _ | ⟨_, _ | _ | _ | _ | _⟩ <;> rfl

theorem handleLNURL_pay1 (a : Service) (rawString encoded rawurl : String)
    (params : Lnurl.LNURLPayResponse1) (found : lib.findLNURLInText rawString = some encoded) :
    handleLNURL lib a rawString (.ok (rawurl, .pay1 params)) =
      (payMetadataEntries params.metadata >>= fun metadata =>
        .ok (.payResponse1 ⟨(lib.urlHost rawurl).getD "", params.callback,
          floorSat params.minSendable, floorSat params.maxSendable, metadata, 0, ""⟩),
        { a with lnurlPayMetadata := ⟨params.encodedMetadata, params.metadata⟩ }) := by
  simp [handleLNURL, found]

theorem handleLNURL_isPanic_iff (a : Service) (rawString : String)
    (resolved : Except String (String × Lnurl.Params)) :
    (handleLNURL lib a rawString resolved).1.isPanic ↔
      (lib.findLNURLInText rawString).isSome ∧ ∃ rawurl params,
        resolved = .ok (rawurl, .pay1 params) ∧ ∃ e ∈ params.metadata, e.length < 2 := by
  cases found : lib.findLNURLInText rawString with
  | none => simp [handleLNURL, found]
  | some encoded =>
    rcases resolved with e | ⟨rawurl, _ | _ | _ | params | _⟩ <;>
      simp [handleLNURL, found, payMetadataEntries_isPanic]
    exact ⟨fun short => ⟨_, _, ⟨rfl, rfl⟩, short⟩, fun ⟨_, _, ⟨rfl, rfl⟩, short⟩ => short⟩

theorem handleLNURL_pay_metadata (a : Service) (rawString encoded rawurl : String)
    (params : Lnurl.LNURLPayResponse1) (found : lib.findLNURLInText rawString = some encoded)
    (long : ∀ e ∈ params.metadata, 2 ≤ e.length) :
    (handleLNURL lib a rawString (.ok (rawurl, .pay1 params))).1 =
      .ok (.payResponse1 ⟨(lib.urlHost rawurl).getD "", params.callback,
        floorSat params.minSendable, floorSat params.maxSendable,
        params.metadata.map (fun e => ⟨e.take 2⟩), 0, ""⟩) := by
  rw [handleLNURL_pay1 lib a rawString encoded rawurl params found,
    payMetadataEntries_of_long _ long]
  rfl

end

theorem handleLNURL_pay_metadata_two_entries :
    Library.passThrough.findLNURLInText "lnurl" = some "lnurl" ∧
      (∀ e ∈ [["text/plain", "hi"], ["image/png;base64", "iVBO", "x"]], 2 ≤ e.length) ∧
      (handleLNURL Library.passThrough Service.initial "lnurl"
        (.ok ("", .pay1 ⟨"cb", 5000, 1000, "m",
          [["text/plain", "hi"], ["image/png;base64", "iVBO", "x"]]⟩))).1 =
        .ok (.payResponse1 ⟨"", "cb", 1, 5, [⟨["text/plain", "hi"]⟩, ⟨["image/png;base64", "iVBO"]⟩],
          0, ""⟩) :=
  ⟨rfl, by decide, handleLNURL_pay_metadata Library.passThrough Service.initial "lnurl" "lnurl" ""
    ⟨"cb", 5000, 1000, "m", [["text/plain", "hi"], ["image/png;base64", "iVBO", "x"]]⟩ rfl
    (by decide)⟩

theorem handleLNURL_single_string_entry :
    (handleLNURL Library.passThrough Service.initial "lnurl"
      (.ok ("", .pay1 ⟨"cb", 5000, 1000, "m", [["text/plain"]]⟩))).1 =
      .panic (.indexOutOfRange 1 1) :=
  rfl

end Account

end Breez
