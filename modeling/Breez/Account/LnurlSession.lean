import Breez.Account.LnurlPay

set_option autoImplicit false

namespace Breez.Account

open Go Crypto

inductive Call where
  | handle (rawString : String) (resolved : Except String (String × Lnurl.Params))
  | finishPay (params : Data.LNURLPayResponse1) (nonce : Except String Bytes)
      (get : String → Except String HttpResponse) (write : DbResult)
  | decrypt (paymentHash : String) (preimage : Bytes) (read write : DbResult)
  | finishWithdraw (bolt11 : String) (get : String → Except String Lnurl.LNURLResponse)

def resolvedMetadata (params : Lnurl.LNURLPayResponse1) : PayMetadata :=
  ⟨params.encodedMetadata, params.metadata⟩

def KeyedByHash (a : Service) : Prop :=
  ∀ h info, a.payInfos h = some info → info.paymentHash = h

section

variable (lib : Library)

-- A panic is not recovered from, so the runs below include every run of a process that dies
-- on its first panic.
def step (a : Service) : Call → Service
  | .handle rawString resolved => (handleLNURL lib a rawString resolved).2
  | .finishPay params nonce get write => (finishLNURLPay lib a params nonce get write).2
  | .decrypt paymentHash preimage read write =>
    (decryptLNUrlPayMessage lib a paymentHash preimage read write).2
  | .finishWithdraw _ _ => a

def run (a : Service) : List Call → Service
  | [] => a
  | c :: rest => run (step lib a c) rest

@[simp] theorem run_nil (a : Service) : run lib a [] = a := rfl

@[simp] theorem run_cons (a : Service) (c : Call) (rest : List Call) :
    run lib a (c :: rest) = run lib (step lib a c) rest := rfl

def Call.payResolution : Call → Option Lnurl.LNURLPayResponse1
  | .handle rawString (.ok (_, .pay1 params)) =>
    if (lib.findLNURLInText rawString).isSome then some params else none
  | _ => none

def lastPayResolution : List Call → Option Lnurl.LNURLPayResponse1
  | [] => none
  | c :: rest => (lastPayResolution rest).or (c.payResolution lib)

theorem lastPayResolution_append (first second : List Call) :
    lastPayResolution lib (first ++ second) =
      (lastPayResolution lib second).or (lastPayResolution lib first) := by
  induction first with
  | nil => simp [lastPayResolution]
  | cons c rest ih => simp [lastPayResolution, ih, Option.or_assoc]

theorem step_lnurlPayMetadata (a : Service) (c : Call) :
    (step lib a c).lnurlPayMetadata =
      ((c.payResolution lib).map resolvedMetadata).getD a.lnurlPayMetadata := by
  cases c with
  | handle rawString resolved =>
    cases found : lib.findLNURLInText rawString <;>
      rcases resolved with _ | ⟨_, _ | _ | _ | _ | _⟩ <;>
      simp [step, handleLNURL, Call.payResolution, found, resolvedMetadata]
  | finishPay params nonce get write =>
    cases result : requestPayInfo lib a params nonce get <;> cases write <;>
      simp [step, finishLNURLPay, Call.payResolution, result, Service.withPayInfo]
  | decrypt paymentHash preimage read write =>
    cases result : (decryptLNUrlPayMessage lib a paymentHash preimage read write).1
    case ok message =>
      obtain ⟨info, stored, -, -, -, -, saved⟩ :=
        decryptLNUrlPayMessage_of_ok lib a paymentHash preimage read write message result
      simp [step, saved, Call.payResolution, Service.withPayInfo]
    all_goals
      simp [step, Call.payResolution,
        decryptLNUrlPayMessage_unchanged lib a paymentHash preimage read write (by simp [result, Outcome.isOk])]
  | finishWithdraw => rfl

theorem run_lnurlPayMetadata (a : Service) (calls : List Call) :
    (run lib a calls).lnurlPayMetadata =
      ((lastPayResolution lib calls).map resolvedMetadata).getD a.lnurlPayMetadata := by
  induction calls generalizing a with
  | nil => rfl
  | cons c rest ih =>
    rw [run_cons, ih, step_lnurlPayMetadata, lastPayResolution]
    cases lastPayResolution lib rest <;> rfl

theorem withPayInfo_keyedByHash (a : Service) (info : Data.LNUrlPayInfo) (keyed : KeyedByHash a) :
    KeyedByHash (a.withPayInfo info) := by
  intro h stored found
  by_cases same : h = info.paymentHash
  · subst same
    simp_all [Service.withPayInfo]
  · exact keyed h stored (by simpa [Service.withPayInfo, same] using found)

theorem step_keyedByHash (a : Service) (c : Call) (keyed : KeyedByHash a) :
    KeyedByHash (step lib a c) := by
  cases c with
  | handle rawString resolved =>
    exact fun h info found =>
      keyed h info (by simpa [step, handleLNURL_payInfos] using found)
  | finishPay params nonce get write =>
    cases result : requestPayInfo lib a params nonce get <;> cases write <;>
      simp [step, finishLNURLPay, result, keyed, withPayInfo_keyedByHash]
  | decrypt paymentHash preimage read write =>
    cases result : (decryptLNUrlPayMessage lib a paymentHash preimage read write).1
    case ok message =>
      obtain ⟨_, _, _, _, _, _, saved⟩ :=
        decryptLNUrlPayMessage_of_ok lib a paymentHash preimage read write message result
      simpa [step, saved] using withPayInfo_keyedByHash _ _ keyed
    all_goals
      simpa [step, decryptLNUrlPayMessage_unchanged lib a paymentHash preimage read write
        (by simp [result, Outcome.isOk])] using keyed
  | finishWithdraw => exact keyed

theorem run_keyedByHash (a : Service) (calls : List Call) (keyed : KeyedByHash a) :
    KeyedByHash (run lib a calls) := by
  induction calls generalizing a with
  | nil => exact keyed
  | cons c rest ih => exact ih _ (step_keyedByHash lib a c keyed)

theorem initial_keyedByHash : KeyedByHash Service.initial :=
  fun _ _ found => nomatch found

theorem decryptLNUrlPayMessage_frame (calls : List Call) (paymentHash : String) (preimage : Bytes)
    (read write : DbResult) (message : String)
    (accepted : (decryptLNUrlPayMessage lib (run lib .initial calls) paymentHash preimage read
      write).1 = .ok message) :
    ∃ info stored, (run lib .initial calls).payInfos paymentHash = some info ∧
      info.successAction = some stored ∧
      (decryptLNUrlPayMessage lib (run lib .initial calls) paymentHash preimage read write).2 =
        { run lib .initial calls with
          payInfos := (Function.update (run lib .initial calls).payInfos paymentHash
            (some { info with successAction := some { stored with message } })) } := by
  obtain ⟨info, stored, found, action, _, _, saved⟩ :=
    decryptLNUrlPayMessage_of_ok lib _ paymentHash preimage read write message accepted
  have keyHash := run_keyedByHash lib _ calls initial_keyedByHash paymentHash info found
  exact ⟨info, stored, found, action, by rw [saved, Service.withPayInfo, keyHash]⟩

theorem run_finishPay_invoiceFor (a : Service) (encoded : String)
    (params : Data.LNURLPayResponse1) (n : Bytes) (pr : String)
    (action : Option Lnurl.SuccessAction) (successAction : Option Data.SuccessAction)
    (pending : a.lnurlPayMetadata.encoded = encoded) (amount : params.amount = 1000)
    (known : checkSuccessAction action = .ok successAction) :
    run (.decodingTo (invoiceFor encoded)) a
        [.finishPay params (.ok n) (answeredWith pr action) .committed] =
      a.withPayInfo ⟨Hex.encodeToString (List.replicate 32 0), successAction, params.comment, "",
        params.host, params.metadata, pr⟩ := by
  rw [run_cons, run_nil, step, finishLNURLPay_snd_of_ok _ _ _ _ _ _ _
    (requestPayInfo_invoiceFor a encoded params n pr action successAction pending amount known),
    saveIgnoringError_committed]

theorem decryptLNUrlPayMessage_frame_aes :
    (decryptLNUrlPayMessage (.decodingTo (invoiceFor ""))
      (run (.decodingTo (invoiceFor "")) .initial [.finishPay ⟨"", "cb", 0, 0, [], 1000, ""⟩
        (.ok []) (answeredWith "lnbc" (some ⟨"aes", "code", "", "", "c2VjcmV0", "aXY="⟩))
        .committed])
      (Hex.encodeToString (List.replicate 32 0)) [] .committed .committed).1 = .ok "c2VjcmV0" ∧
    ∃ info stored, (run (.decodingTo (invoiceFor "")) .initial [.finishPay
        ⟨"", "cb", 0, 0, [], 1000, ""⟩ (.ok [])
        (answeredWith "lnbc" (some ⟨"aes", "code", "", "", "c2VjcmV0", "aXY="⟩)) .committed]).payInfos
        (Hex.encodeToString (List.replicate 32 0)) = some info ∧
      info.successAction = some stored ∧
      (decryptLNUrlPayMessage (.decodingTo (invoiceFor ""))
        (run (.decodingTo (invoiceFor "")) .initial [.finishPay ⟨"", "cb", 0, 0, [], 1000, ""⟩
          (.ok []) (answeredWith "lnbc" (some ⟨"aes", "code", "", "", "c2VjcmV0", "aXY="⟩))
          .committed])
        (Hex.encodeToString (List.replicate 32 0)) [] .committed .committed).2 =
        { run (.decodingTo (invoiceFor "")) .initial [.finishPay ⟨"", "cb", 0, 0, [], 1000, ""⟩
            (.ok []) (answeredWith "lnbc" (some ⟨"aes", "code", "", "", "c2VjcmV0", "aXY="⟩))
            .committed] with
          payInfos := (Function.update (run (.decodingTo (invoiceFor "")) .initial [.finishPay
            ⟨"", "cb", 0, 0, [], 1000, ""⟩ (.ok [])
            (answeredWith "lnbc" (some ⟨"aes", "code", "", "", "c2VjcmV0", "aXY="⟩))
            .committed]).payInfos (Hex.encodeToString (List.replicate 32 0))
            (some { info with successAction := some { stored with message := "c2VjcmV0" } })) } :=
  have accepted : (decryptLNUrlPayMessage (.decodingTo (invoiceFor ""))
      (run (.decodingTo (invoiceFor "")) .initial [.finishPay ⟨"", "cb", 0, 0, [], 1000, ""⟩
        (.ok []) (answeredWith "lnbc" (some ⟨"aes", "code", "", "", "c2VjcmV0", "aXY="⟩))
        .committed])
      (Hex.encodeToString (List.replicate 32 0)) [] .committed .committed).1 = .ok "c2VjcmV0" := by
    rw [run_finishPay_invoiceFor .initial "" _ [] "lnbc"
      (some ⟨"aes", "code", "", "", "c2VjcmV0", "aXY="⟩) _ rfl rfl rfl]
    rfl
  ⟨accepted, decryptLNUrlPayMessage_frame _ _ _ _ _ _ _ accepted⟩

theorem decryptLNUrlPayMessage_repeat (calls : List Call) (paymentHash : String) (preimage : Bytes)
    (read write : DbResult) (message : String)
    (accepted : (decryptLNUrlPayMessage lib (run lib .initial calls) paymentHash preimage read
      write).1 = .ok message) :
    decryptLNUrlPayMessage lib
        (decryptLNUrlPayMessage lib (run lib .initial calls) paymentHash preimage read write).2
        paymentHash preimage .committed .committed =
      (.ok message,
        (decryptLNUrlPayMessage lib (run lib .initial calls) paymentHash preimage read write).2) := by
  obtain ⟨info, stored, found, action, nonempty, deciphered, saved⟩ :=
    decryptLNUrlPayMessage_of_ok lib _ paymentHash preimage read write message accepted
  have keyHash := run_keyedByHash lib _ calls initial_keyedByHash paymentHash info found
  rw [saved, decryptLNUrlPayMessage_committed lib _ paymentHash preimage
    { info with successAction := some { stored with message } } { stored with message } message
    (by simp [Service.withPayInfo, keyHash]) rfl nonempty deciphered]
  simp [Service.withPayInfo_idem]

theorem decryptLNUrlPayMessage_repeat_aes :
    (decryptLNUrlPayMessage (.decodingTo (invoiceFor ""))
      (run (.decodingTo (invoiceFor "")) .initial [.finishPay ⟨"", "cb", 0, 0, [], 1000, ""⟩
        (.ok []) (answeredWith "lnbc" (some ⟨"aes", "code", "", "", "c2VjcmV0", "aXY="⟩))
        .committed])
      (Hex.encodeToString (List.replicate 32 0)) [] .committed .committed).1 = .ok "c2VjcmV0" ∧
    decryptLNUrlPayMessage (.decodingTo (invoiceFor ""))
        (decryptLNUrlPayMessage (.decodingTo (invoiceFor ""))
          (run (.decodingTo (invoiceFor "")) .initial [.finishPay ⟨"", "cb", 0, 0, [], 1000, ""⟩
            (.ok []) (answeredWith "lnbc" (some ⟨"aes", "code", "", "", "c2VjcmV0", "aXY="⟩))
            .committed])
          (Hex.encodeToString (List.replicate 32 0)) [] .committed .committed).2
        (Hex.encodeToString (List.replicate 32 0)) [] .committed .committed =
      (.ok "c2VjcmV0", (decryptLNUrlPayMessage (.decodingTo (invoiceFor ""))
          (run (.decodingTo (invoiceFor "")) .initial [.finishPay ⟨"", "cb", 0, 0, [], 1000, ""⟩
            (.ok []) (answeredWith "lnbc" (some ⟨"aes", "code", "", "", "c2VjcmV0", "aXY="⟩))
            .committed])
          (Hex.encodeToString (List.replicate 32 0)) [] .committed .committed).2) :=
  have accepted : (decryptLNUrlPayMessage (.decodingTo (invoiceFor ""))
      (run (.decodingTo (invoiceFor "")) .initial [.finishPay ⟨"", "cb", 0, 0, [], 1000, ""⟩
        (.ok []) (answeredWith "lnbc" (some ⟨"aes", "code", "", "", "c2VjcmV0", "aXY="⟩))
        .committed])
      (Hex.encodeToString (List.replicate 32 0)) [] .committed .committed).1 = .ok "c2VjcmV0" := by
    rw [run_finishPay_invoiceFor .initial "" _ [] "lnbc"
      (some ⟨"aes", "code", "", "", "c2VjcmV0", "aXY="⟩) _ rfl rfl rfl]
    rfl
  ⟨accepted, decryptLNUrlPayMessage_repeat _ _ _ _ _ _ _ accepted⟩

theorem finishLNURLPay_checks_latest_resolution (a : Service) (before between : List Call)
    (rawString rawurl : String) (resolution : Lnurl.LNURLPayResponse1)
    (params : Data.LNURLPayResponse1) (nonce : Except String Bytes)
    (get : String → Except String HttpResponse) (write : DbResult) (info : Data.LNUrlPayInfo)
    (found : (lib.findLNURLInText rawString).isSome)
    (latest : lastPayResolution lib between = none)
    (accepted : (finishLNURLPay lib
      (run lib a (before ++ .handle rawString (.ok (rawurl, .pay1 resolution)) :: between))
      params nonce get write).1 = .ok info) :
    ∃ invoice, lib.decodeInvoice info.invoice = .ok invoice ∧
      invoice.descriptionHash = some (sum256 (goBytes resolution.encodedMetadata)) ∧
      info.invoiceDescription = lib.description resolution.metadata := by
  have pending : (run lib a (before ++ .handle rawString (.ok (rawurl, .pay1 resolution)) ::
      between)).lnurlPayMetadata = resolvedMetadata resolution := by
    simp [run_lnurlPayMetadata, lastPayResolution_append, lastPayResolution, latest,
      Call.payResolution, found]
  simpa [metadataHash, pending, resolvedMetadata] using
    requestPayInfo_checks_pending lib _ params nonce get info accepted

end

-- Metadata of one text/plain entry, with its JSON encoding.
def textPay (text : String) : Lnurl.LNURLPayResponse1 :=
  ⟨"cb", 1000000, 1000, "[[\"text/plain\",\"" ++ text ++ "\"]]", [["text/plain", text]]⟩

def textPayParams (text : String) : Data.LNURLPayResponse1 :=
  ⟨"", "cb", 1, 1000, [⟨["text/plain", text]⟩], 1000, ""⟩

def textPayInfo (text : String) : Data.LNUrlPayInfo :=
  ⟨Hex.encodeToString (List.replicate 32 0), none, "", "", "", [⟨["text/plain", text]⟩], "lnbc"⟩

def withdrawResolution : Call :=
  .handle "lnurl" (.ok ("", .withdraw ⟨"https://service.example/withdraw", "k1", 50000, 1000, "refund"⟩))

theorem finishLNURLPay_checks_latest_resolution_after_withdraw :
    (Library.passThrough.findLNURLInText "lnurl").isSome ∧
      lastPayResolution (.decodingTo (invoiceFor (textPay "a").encodedMetadata))
        [withdrawResolution] = none ∧
      (finishLNURLPay (.decodingTo (invoiceFor (textPay "a").encodedMetadata))
        (run (.decodingTo (invoiceFor (textPay "a").encodedMetadata)) Service.initial
          ([.handle "lnurl" (.ok ("", .pay1 (textPay "b")))] ++
            .handle "lnurl" (.ok ("", .pay1 (textPay "a"))) :: [withdrawResolution]))
        (textPayParams "a") (.ok []) (answeredWith "lnbc" none) .committed).1 =
        .ok (textPayInfo "a") ∧
      ∃ invoice, (Library.decodingTo (invoiceFor (textPay "a").encodedMetadata)).decodeInvoice
          (textPayInfo "a").invoice = .ok invoice ∧
        invoice.descriptionHash = some (sum256 (goBytes (textPay "a").encodedMetadata)) ∧
        (textPayInfo "a").invoiceDescription =
          (Library.decodingTo (invoiceFor (textPay "a").encodedMetadata)).description
            (textPay "a").metadata :=
  have accepted : (finishLNURLPay (.decodingTo (invoiceFor (textPay "a").encodedMetadata))
      (run (.decodingTo (invoiceFor (textPay "a").encodedMetadata)) Service.initial
        ([.handle "lnurl" (.ok ("", .pay1 (textPay "b")))] ++
          .handle "lnurl" (.ok ("", .pay1 (textPay "a"))) :: [withdrawResolution]))
      (textPayParams "a") (.ok []) (answeredWith "lnbc" none) .committed).1 =
      .ok (textPayInfo "a") :=
    requestPayInfo_invoiceFor _ _ _ [] "lnbc" none none rfl rfl rfl
  ⟨rfl, rfl, accepted, finishLNURLPay_checks_latest_resolution _ Service.initial
    [.handle "lnurl" (.ok ("", .pay1 (textPay "b")))] [withdrawResolution] "lnurl" ""
    (textPay "a") _ _ _ _ _ rfl rfl accepted⟩

set_option maxRecDepth 10000 in
theorem finishLNURLPay_checks_overwritten_resolution :
    ¬ ∀ (lib : Library) (a : Service) (before between : List Call) (rawString rawurl : String)
        (resolution : Lnurl.LNURLPayResponse1) (params : Data.LNURLPayResponse1)
        (nonce : Except String Bytes) (get : String → Except String HttpResponse)
        (write : DbResult) (info : Data.LNUrlPayInfo),
      (lib.findLNURLInText rawString).isSome →
      (handleLNURL lib (run lib a before) rawString (.ok (rawurl, .pay1 resolution))).1 =
        .ok (.payResponse1 { params with amount := 0, comment := "" }) →
      (finishLNURLPay lib
        (run lib a (before ++ .handle rawString (.ok (rawurl, .pay1 resolution)) :: between))
        params nonce get write).1 = .ok info →
      ∃ invoice, lib.decodeInvoice info.invoice = .ok invoice ∧
        invoice.descriptionHash = some (sum256 (goBytes resolution.encodedMetadata)) ∧
        info.invoiceDescription = lib.description resolution.metadata := by
  intro checked
  obtain ⟨invoice, decoded, hashed, -⟩ := checked
    (.decodingTo (invoiceFor (textPay "b").encodedMetadata)) Service.initial []
    [.handle "lnurl" (.ok ("", .pay1 (textPay "b")))] "lnurl" "" (textPay "a") (textPayParams "a")
    (.ok []) (answeredWith "lnbc" none) .committed (textPayInfo "a") rfl rfl
    (requestPayInfo_invoiceFor _ _ _ [] "lnbc" none none rfl rfl rfl)
  cases decoded
  have differ : sum256 (goBytes (textPay "b").encodedMetadata) ≠
      sum256 (goBytes (textPay "a").encodedMetadata) := by
    decide
  exact differ (Option.some.inj hashed)

theorem decryptLNUrlPayMessage_without_action_or_aes :
    (decryptLNUrlPayMessage (.decodingTo (invoiceFor ""))
      (run (.decodingTo (invoiceFor "")) .initial [.finishPay ⟨"", "cb", 0, 0, [], 1000, ""⟩
        (.ok []) (answeredWith "lnbc" none) .committed])
      (Hex.encodeToString (List.replicate 32 0)) [] .committed .committed).1 =
      .panic .nilDereference ∧
    (decryptLNUrlPayMessage (.decodingTo (invoiceFor ""))
      (run (.decodingTo (invoiceFor "")) .initial [.finishPay ⟨"", "cb", 0, 0, [], 1000, ""⟩
        (.ok []) (answeredWith "lnbc" (some ⟨"url", "order", "u", "", "c2VjcmV0", "aXY="⟩))
        .committed])
      (Hex.encodeToString (List.replicate 32 0)) [] .committed .committed).1 = .ok "c2VjcmV0" := by
  rw [run_finishPay_invoiceFor .initial "" _ [] "lnbc" none _ rfl rfl rfl,
    run_finishPay_invoiceFor .initial "" _ [] "lnbc"
      (some ⟨"url", "order", "u", "", "c2VjcmV0", "aXY="⟩) _ rfl rfl rfl]
  exact ⟨rfl, rfl⟩

end Breez.Account
