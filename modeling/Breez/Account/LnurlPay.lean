import Breez.Account.Lnurl

set_option autoImplicit false

namespace Breez.Account

open Go Crypto

structure HttpResponse where
  statusCode : Nat
  status : String
  body : Except String Lnurl.LNURLPayResponse2

def payQuery (params : Data.LNURLPayResponse1) (nonce : Bytes) : List (String × String) :=
  [("amount", toString params.amount), ("nonce", Hex.encodeToString nonce)] ++
    if params.comment ≠ "" then [("comment", params.comment)] else []

def knownSuccessAction (tag : String) : Bool :=
  tag = "message" ∨ tag = "url" ∨ tag = "aes"

def checkSuccessAction : Option Lnurl.SuccessAction → Outcome (Option Data.SuccessAction)
  | none => pure none
  | some sa =>
    if knownSuccessAction sa.tag then pure (some (.ofLnurl sa))
    else .error ("Unknown SuccessAction: " ++ sa.tag)

def metadataHash (a : Service) : Bytes32 :=
  sum256 (goBytes a.lnurlPayMetadata.encoded)

section

variable (lib : Library)

-- FinishLNURLPay up to SaveLNUrlPayInfo, its only effect on the service.
def requestPayInfo (a : Service) (params : Data.LNURLPayResponse1) (nonce : Except String Bytes)
    (get : String → Except String HttpResponse) : Outcome Data.LNUrlPayInfo := do
  let url ← Outcome.ofExceptWith ("invalid callback url " ++ ·) (lib.parseURL params.callback)
  let nonce ← Outcome.ofExcept nonce
  let resp ← Outcome.ofExcept (get (lib.withQuery url (payQuery params nonce)))
  failIf (resp.statusCode ≠ 200 ∧ resp.statusCode ≠ 320) ("Error in http request: " ++ resp.status)
  let payResponse2 ← Outcome.ofExcept resp.body
  failIf (payResponse2.status = "ERROR") payResponse2.reason
  let invoice ← Outcome.ofExcept (lib.decodeInvoice payResponse2.pr)
  let descriptionHash ← orError "Description hash not found in invoice." invoice.descriptionHash
  failIf (Hex.encodeToString (metadataHash a).bytes ≠ Hex.encodeToString descriptionHash.bytes)
    "Invoice description hash does not match metadata."
  let milliSat ← deref invoice.milliSat
  failIf (params.amount ≠ milliSat) "Invoice amount does not match the amount set by user."
  let successAction ← checkSuccessAction payResponse2.successAction
  pure
    { paymentHash := Hex.encodeToString invoice.paymentHash.bytes
      successAction
      comment := params.comment
      invoiceDescription := lib.description a.lnurlPayMetadata.data
      host := params.host
      metadata := params.metadata
      invoice := payResponse2.pr }

-- SaveLNUrlPayInfo with its error dropped, as FinishLNURLPay calls it.
def saveIgnoringError (a : Service) (info : Data.LNUrlPayInfo) (write : DbResult) : Service :=
  match saveLNUrlPayInfo a info write with
  | .ok saved => saved
  | .error _ => a

@[simp] theorem saveIgnoringError_committed (a : Service) (info : Data.LNUrlPayInfo) :
    saveIgnoringError a info .committed = a.withPayInfo info := rfl

@[simp] theorem saveIgnoringError_failed (a : Service) (info : Data.LNUrlPayInfo) (reason : String) :
    saveIgnoringError a info (.failed reason) = a := rfl

def finishLNURLPay (a : Service) (params : Data.LNURLPayResponse1) (nonce : Except String Bytes)
    (get : String → Except String HttpResponse) (write : DbResult) :
    Outcome Data.LNUrlPayInfo × Service :=
  let result := requestPayInfo lib a params nonce get
  (result, match result with
    | .ok info => saveIgnoringError a info write
    | _ => a)

theorem requestPayInfo_checks_pending (a : Service) (params : Data.LNURLPayResponse1)
    (nonce : Except String Bytes) (get : String → Except String HttpResponse)
    (info : Data.LNUrlPayInfo) (accepted : requestPayInfo lib a params nonce get = .ok info) :
    ∃ invoice, lib.decodeInvoice info.invoice = .ok invoice ∧
      invoice.descriptionHash = some (metadataHash a) ∧
      info.invoiceDescription = lib.description a.lnurlPayMetadata.data := by
  simp [requestPayInfo, Outcome.bind_eq_ok, exists_some_and_eq] at accepted
  obtain ⟨_, _, _, _, _, _, _, _, _, _, invoice, decoded, hashed, _, _, _, rfl⟩ := accepted
  exact ⟨invoice, decoded, hashed, rfl⟩

theorem requestPayInfo_amountless (a : Service) (params : Data.LNURLPayResponse1) (url : String)
    (n : Bytes) (get : String → Except String HttpResponse) (resp : HttpResponse)
    (body : Lnurl.LNURLPayResponse2) (invoice : Invoice)
    (parsed : lib.parseURL params.callback = .ok url)
    (answered : get (lib.withQuery url (payQuery params n)) = .ok resp)
    (status : resp.statusCode = 200) (decoded : resp.body = .ok body)
    (accepted : body.status ≠ "ERROR") (valid : lib.decodeInvoice body.pr = .ok invoice)
    (hashed : invoice.descriptionHash = some (metadataHash a)) (amountless : invoice.milliSat = none) :
    requestPayInfo lib a params (.ok n) get = .panic .nilDereference := by
  simp [requestPayInfo, parsed, answered, status, decoded, accepted, valid, hashed, amountless]

@[simp] theorem finishLNURLPay_fst (a : Service) (params : Data.LNURLPayResponse1)
    (nonce : Except String Bytes) (get : String → Except String HttpResponse) (write : DbResult) :
    (finishLNURLPay lib a params nonce get write).1 = requestPayInfo lib a params nonce get :=
  rfl

theorem finishLNURLPay_accepts_iff (a : Service) (params : Data.LNURLPayResponse1)
    (nonce : Except String Bytes) (get : String → Except String HttpResponse) (write : DbResult)
    (info : Data.LNUrlPayInfo) :
    (finishLNURLPay lib a params nonce get write).1 = .ok info ↔
      ∃ url, lib.parseURL params.callback = .ok url ∧ ∃ n, nonce = .ok n ∧
      ∃ resp, get (lib.withQuery url (payQuery params n)) = .ok resp ∧
        (resp.statusCode = 200 ∨ resp.statusCode = 320) ∧
      ∃ body, resp.body = .ok body ∧ body.status ≠ "ERROR" ∧
      ∃ invoice, lib.decodeInvoice body.pr = .ok invoice ∧
        invoice.descriptionHash = some (metadataHash a) ∧ invoice.milliSat = some params.amount ∧
      ∃ successAction, checkSuccessAction body.successAction = .ok successAction ∧
        ⟨Hex.encodeToString invoice.paymentHash.bytes, successAction, params.comment,
          lib.description a.lnurlPayMetadata.data, params.host, params.metadata, body.pr⟩ = info := by
  simp [requestPayInfo, Outcome.bind_eq_ok, or_iff_not_imp_left, exists_some_and_eq]

theorem finishLNURLPay_snd_of_ok (a : Service) (params : Data.LNURLPayResponse1)
    (nonce : Except String Bytes) (get : String → Except String HttpResponse) (write : DbResult)
    (info : Data.LNUrlPayInfo) (accepted : requestPayInfo lib a params nonce get = .ok info) :
    (finishLNURLPay lib a params nonce get write).2 = saveIgnoringError a info write := by
  simp [finishLNURLPay, accepted]

theorem finishLNURLPay_snd_of_not_ok (a : Service) (params : Data.LNURLPayResponse1)
    (nonce : Except String Bytes) (get : String → Except String HttpResponse) (write : DbResult)
    (rejected : (requestPayInfo lib a params nonce get).isOk = false) :
    (finishLNURLPay lib a params nonce get write).2 = a := by
  cases result : requestPayInfo lib a params nonce get <;>
    simp_all [finishLNURLPay, Outcome.isOk]

def decryptLNUrlPayMessage (a : Service) (paymentHash : String) (preimage : Bytes)
    (read write : DbResult) : Outcome String × Service :=
  match fetchLNUrlPayInfo a paymentHash read with
  | .error e => (.error ("Unable to get LNUrl-Pay info from database: " ++ e), a)
  | .ok none =>
    (.error "DecryptLNUrlPayMessage: could not find lnUrlPayInfo with given paymentHash.", a)
  | .ok (some info) =>
    match info.successAction with
    | none => (.panic .nilDereference, a)
    | some stored =>
      let sa := stored.toLnurl
      if sa.ciphertext = "" then (.error "LNUrl-Pay CipherText is empty.", a)
      else
        match lib.decipher sa.ciphertext sa.iv preimage with
        | .error e => (.error ("Could not decrypt message: " ++ e), a)
        | .ok message =>
          match saveLNUrlPayInfo a { info with successAction := some { stored with message } } write with
          | .error e => (.error ("Could not save deciphered message: " ++ e), a)
          | .ok saved => (.ok message, saved)

theorem decryptLNUrlPayMessage_of_ok (a : Service) (paymentHash : String) (preimage : Bytes)
    (read write : DbResult) (message : String)
    (accepted : (decryptLNUrlPayMessage lib a paymentHash preimage read write).1 = .ok message) :
    ∃ info stored, a.payInfos paymentHash = some info ∧ info.successAction = some stored ∧
      stored.ciphertext ≠ "" ∧ lib.decipher stored.ciphertext stored.iv preimage = .ok message ∧
      (decryptLNUrlPayMessage lib a paymentHash preimage read write).2 =
        a.withPayInfo { info with successAction := some { stored with message } } := by
  unfold decryptLNUrlPayMessage at *
  cases read <;> cases write <;> simp only [fetchLNUrlPayInfo, saveLNUrlPayInfo] at * <;>
    repeat' split at accepted
  all_goals simp_all [Data.SuccessAction.toLnurl]

theorem decryptLNUrlPayMessage_unchanged (a : Service) (paymentHash : String) (preimage : Bytes)
    (read write : DbResult)
    (rejected : (decryptLNUrlPayMessage lib a paymentHash preimage read write).1.isOk = false) :
    (decryptLNUrlPayMessage lib a paymentHash preimage read write).2 = a := by
  unfold decryptLNUrlPayMessage at *
  cases read <;> cases write <;> simp only [fetchLNUrlPayInfo, saveLNUrlPayInfo] at * <;>
    repeat' split
  all_goals simp_all [Outcome.isOk]

theorem decryptLNUrlPayMessage_committed (a : Service) (paymentHash : String) (preimage : Bytes)
    (info : Data.LNUrlPayInfo) (stored : Data.SuccessAction) (message : String)
    (found : a.payInfos paymentHash = some info) (action : info.successAction = some stored)
    (nonempty : stored.ciphertext ≠ "")
    (deciphered : lib.decipher stored.ciphertext stored.iv preimage = .ok message) :
    decryptLNUrlPayMessage lib a paymentHash preimage .committed .committed =
      (.ok message, a.withPayInfo { info with successAction := some { stored with message } }) := by
  simp [decryptLNUrlPayMessage, fetchLNUrlPayInfo, saveLNUrlPayInfo, found, action, nonempty,
    Data.SuccessAction.toLnurl, deciphered]

theorem decryptLNUrlPayMessage_without_action (a : Service) (paymentHash : String)
    (preimage : Bytes) (write : DbResult) (info : Data.LNUrlPayInfo)
    (found : a.payInfos paymentHash = some info) (absent : info.successAction = none) :
    decryptLNUrlPayMessage lib a paymentHash preimage .committed write =
      (.panic .nilDereference, a) := by
  simp [decryptLNUrlPayMessage, fetchLNUrlPayInfo, found, absent]

def finishLNURLWithdraw (a : Service) (bolt11 : String)
    (get : String → Except String Lnurl.LNURLResponse) : Outcome Unit := do
  let lnurlresp ← Outcome.ofExcept (get (a.lnurlWithdrawing ++ "&pr=" ++ bolt11))
  failIf (lnurlresp.status = "ERROR") lnurlresp.reason

end

def invoiceFor (encoded : String) : Invoice :=
  ⟨⟨List.replicate 32 0, rfl⟩, some (sum256 (goBytes encoded)), some 1000⟩

def answeredWith (pr : String) (action : Option Lnurl.SuccessAction) :
    String → Except String HttpResponse :=
  fun _ => .ok ⟨200, "200 OK", .ok ⟨"OK", "", action, pr⟩⟩

-- Both digests are the same term, so none is computed.
theorem requestPayInfo_invoiceFor (a : Service) (encoded : String) (params : Data.LNURLPayResponse1)
    (n : Bytes) (pr : String) (action : Option Lnurl.SuccessAction)
    (successAction : Option Data.SuccessAction) (pending : a.lnurlPayMetadata.encoded = encoded)
    (amount : params.amount = 1000) (known : checkSuccessAction action = .ok successAction) :
    requestPayInfo (.decodingTo (invoiceFor encoded)) a params (.ok n) (answeredWith pr action) =
      .ok ⟨Hex.encodeToString (List.replicate 32 0), successAction, params.comment, "",
        params.host, params.metadata, pr⟩ := by
  simp [requestPayInfo, Library.decodingTo, Library.passThrough, invoiceFor, answeredWith,
    metadataHash, pending, amount, known]

theorem finishLNURLPay_amountless_or_unsaved :
    (finishLNURLPay (.decodingTo ⟨⟨List.replicate 32 0, rfl⟩, some (sum256 (goBytes "")), none⟩)
      Service.initial ⟨"", "cb", 0, 0, [], 1000, ""⟩ (.ok []) (answeredWith "lnbc" none)
      .committed).1 = .panic .nilDereference ∧
    (finishLNURLPay (.decodingTo (invoiceFor "")) Service.initial ⟨"", "cb", 0, 0, [], 1000, ""⟩
      (.ok []) (answeredWith "lnbc" none) (.failed "database not writable")).1 =
      .ok ⟨Hex.encodeToString (List.replicate 32 0), none, "", "", "", [], "lnbc"⟩ ∧
    (finishLNURLPay (.decodingTo (invoiceFor "")) Service.initial ⟨"", "cb", 0, 0, [], 1000, ""⟩
      (.ok []) (answeredWith "lnbc" none) (.failed "database not writable")).2.payInfos
      (Hex.encodeToString (List.replicate 32 0)) = none :=
  have accepted := requestPayInfo_invoiceFor Service.initial "" ⟨"", "cb", 0, 0, [], 1000, ""⟩ []
    "lnbc" none none rfl rfl rfl
  ⟨requestPayInfo_amountless _ _ _ "cb" [] _ ⟨200, "200 OK", .ok ⟨"OK", "", none, "lnbc"⟩⟩
    ⟨"OK", "", none, "lnbc"⟩ _ rfl rfl rfl rfl (by decide) rfl rfl rfl, accepted,
    by rw [finishLNURLPay_snd_of_ok _ _ _ _ _ _ _ accepted, saveIgnoringError_failed]; rfl⟩

end Breez.Account
