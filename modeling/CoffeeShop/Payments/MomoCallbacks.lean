import CoffeeShop.Execution
import CoffeeShop.Library.DecimalText
import CoffeeShop.Library.Hex
import CoffeeShop.Library.JsonText
import CoffeeShop.Library.KeyValues
import CoffeeShop.Library.Utf16
import CoffeeShop.Payments.MomoDecisions

/-!
Callbacks of MoMo, whose signed text joins the fields without an escape.

What is signed are the bytes of the text, in which surrogates without a partner look alike.
-/

namespace CoffeeShop

open JsonText (Text units)

open Utf16 (Plain replacement scalars utf8)

/-- The fields of `MomoCallbackSchema`. -/
structure MomoCallback where
  partnerCode : Text
  orderId : Text
  requestId : Text
  amount : Int
  extraData : Text
  message : Text
  orderInfo : Text
  orderType : Text
  payType : Text
  responseTime : Int
  resultCode : Int
  transId : Int
  signature : Text
  deriving DecidableEq

structure MomoCredentials where
  accessKey : Text
  partnerCode : Text
  secretKey : Text

namespace MomoService

/-- `Number.isSafeInteger`. -/
def isSafe (value : Int) : Bool := value.natAbs ≤ PaymentsService.maxSafeInteger

/-- `/^[a-fA-F0-9]{64}$/`. -/
def isSignature (text : Text) : Bool :=
  text.length = 64 && text.all fun unit => (Hex.readDigit unit).isSome

/-- The checks of `MomoCallbackSchema`. -/
def admits (data : MomoCallback) : Bool :=
  0 < data.amount && isSafe data.amount && isSafe data.responseTime && isSafe data.resultCode &&
    isSafe data.transId && isSignature data.signature

/-- `String(value)` of a safe integer. -/
def integer (value : Int) : Text :=
  (if value < 0 then [45] else []) ++ (Nat.toDigits 10 value.natAbs).map Char.toNat

/-- The text that `sign` signs. -/
def canonical (fields : List (Text × Text)) : Text :=
  [38].intercalate (fields.map fun field => field.1 ++ [61] ++ field.2)

/-- The fields that `verifyCallback` signs, in their order. -/
def signedFields (credentials : MomoCredentials) (data : MomoCallback) : List (Text × Text) :=
  [(units "accessKey", credentials.accessKey),
    (units "amount", integer data.amount),
    (units "extraData", data.extraData),
    (units "message", data.message),
    (units "orderId", data.orderId),
    (units "orderInfo", data.orderInfo),
    (units "orderType", data.orderType),
    (units "partnerCode", data.partnerCode),
    (units "payType", data.payType),
    (units "requestId", data.requestId),
    (units "responseTime", integer data.responseTime),
    (units "resultCode", integer data.resultCode),
    (units "transId", integer data.transId)]

section Signatures

variable (hmac : List UInt8 → List UInt8 → List UInt8)

def sign (fields : List (Text × Text)) (secret : Text) : Text :=
  Hex.encode (hmac (utf8 secret) (utf8 (canonical fields)))

/-- `toLowerCase` of a letter of ASCII. -/
def toLower (unit : Nat) : Nat := if 65 ≤ unit ∧ unit ≤ 90 then unit + 32 else unit

def equal (actual expected : Text) : Bool :=
  Hex.decode (actual.map toLower) = Hex.decode expected

/-- The signature is one of the provider. -/
def Signed (credentials : MomoCredentials) (data : MomoCallback) : Prop :=
  equal data.signature (sign hmac (signedFields credentials data) credentials.secretKey) = true

instance (credentials : MomoCredentials) (data : MomoCallback) :
    Decidable (Signed hmac credentials data) :=
  inferInstanceAs (Decidable (equal _ _ = true))

variable {Raw Hash : Type} (sha256 : List UInt8 → Hash) (parse : Raw → Option MomoCallback)

/-- `parse` reads the fields of a raw body and coerces the numbers. -/
def verifyCallback (credentials : MomoCredentials) (raw : Raw) : Option (MomoCallback × Hash) := do
  let data ← (parse raw).filter admits
  if data.partnerCode ≠ credentials.partnerCode ∨ data.requestId ≠ data.orderId then none
  else if !equal data.signature (sign hmac (signedFields credentials data) credentials.secretKey) then
    none
  else some (data, sha256 (utf8
    (credentials.partnerCode ++ units ":" ++ data.orderId ++ units ":" ++ data.signature)))

variable {hmac sha256 parse} in
/-- What is admitted, addressed to the partner and signed is accepted. -/
theorem verifyCallback_of_signed {credentials : MomoCredentials} {raw : Raw} {data : MomoCallback}
    (parsed : parse raw = some data) (admitted : admits data = true)
    (addressed : data.partnerCode = credentials.partnerCode)
    (same : data.requestId = data.orderId) (signed : Signed hmac credentials data) :
    verifyCallback hmac sha256 parse credentials raw = some (data, sha256 (utf8
      (credentials.partnerCode ++ units ":" ++ data.orderId ++ units ":" ++ data.signature))) := by
  unfold Signed at signed
  simp [verifyCallback, parsed, Option.filter_some, admitted, addressed, same, signed]

end Signatures

end MomoService

/-- What `handleMomoIpn` gets, where `reference` and `invoice` name the rows of the texts. -/
def MomoCallback.notification (reference : Text → Id) (invoice : Text → Option InvoiceNumber)
    (data : MomoCallback) (payloadHash : Nat) : MomoNotification where
  payloadHash
  orderId := reference data.orderId
  amount := data.amount.toNat
  extraData := String.ofList (scalars data.extraData)
  orderInfo := invoice data.orderInfo
  resultCode := data.resultCode
  transId := data.transId

namespace MomoService

open KeyValues Transaction

/-- The keys between the amount and the time of the response. -/
def textKeys : List (List Char) :=
  ["message", "orderId", "orderInfo", "orderType", "partnerCode", "payType", "requestId"].map
    String.toList

def textFields (data : MomoCallback) : List (Text × Text) :=
  [(units "message", data.message), (units "orderId", data.orderId),
    (units "orderInfo", data.orderInfo), (units "orderType", data.orderType),
    (units "partnerCode", data.partnerCode), (units "payType", data.payType),
    (units "requestId", data.requestId)]

def texts (data : MomoCallback) : List Text := data.extraData :: (textFields data).map Prod.snd

def numberFields (data : MomoCallback) : List (Text × Text) :=
  [(units "responseTime", integer data.responseTime), (units "resultCode", integer data.resultCode),
    (units "transId", integer data.transId)]

/-- The fields as the bytes have them. -/
def decoded (fields : List (Text × Text)) : List (List Char × List Char) :=
  fields.map fun field => (scalars field.1, scalars field.2)

/-- The signed text between the amount and the time of the response. -/
def middle (data : MomoCallback) : List Char :=
  scalars data.extraData ++ render '&' '=' (decoded (textFields data))

/-- A minus sign or a digit. -/
theorem mem_integer {value : Int} {unit : Nat} (member : unit ∈ integer value) :
    unit = 45 ∨ 48 ≤ unit ∧ unit ≤ 57 := by
  rw [integer, List.mem_append] at member
  obtain sign | digit := member
  · split_ifs at sign
    · exact .inl (List.mem_singleton.mp sign)
    · exact nomatch sign
  · obtain ⟨c, isDigit, rfl⟩ := List.mem_map.mp digit
    have digits := DecimalText.toDigits_isDigit c isDigit
    simp only [Char.isDigit, Bool.and_eq_true, decide_eq_true_eq] at digits
    exact .inr ⟨digits.1, digits.2⟩

theorem integer_plain (value : Int) : Plain (integer value) := by
  intro unit member
  have small := mem_integer member
  omega

theorem amp_notMem_integer (value : Int) : '&' ∉ scalars (integer value) := by
  intro member
  have unit := Utf16.mem_of_mem_scalars (integer_plain value) member
  exact absurd (mem_integer unit) (by decide)

theorem integer_units_injective : Function.Injective integer := by
  intro first second same
  have charText (value : Int) : integer value = ((if value < 0 then ['-'] else []) ++
      Nat.toDigits 10 value.natAbs).map Char.toNat := by
    rw [integer, List.map_append]
    split_ifs <;> rfl
  rw [charText, charText] at same
  have texts := List.map_injective_iff.mpr (fun _ _ => Char.toNat_inj.mp) same
  by_cases negative : first < 0 <;> by_cases other : second < 0
  · rw [if_pos negative, if_pos other] at texts
    have digits := Json.toDigits_injective (List.append_cancel_left texts)
    omega
  · rw [if_pos negative, if_neg other, ← List.append_nil (Nat.toDigits 10 second.natAbs)] at texts
    exact absurd texts (DecimalText.minus_ne_digits _ _ _)
  · rw [if_neg negative, if_pos other, ← List.append_nil (Nat.toDigits 10 first.natAbs)] at texts
    exact absurd texts.symm (DecimalText.minus_ne_digits _ _ _)
  · rw [if_neg negative, if_neg other] at texts
    have digits := Json.toDigits_injective (List.append_cancel_left texts)
    omega

theorem integer_injective {first second : Int}
    (same : scalars (integer first) = scalars (integer second)) : first = second :=
  integer_units_injective
    (Utf16.eq_of_scalars_eq (Utf16.replacement_notMem_plain (integer_plain first)) same)

instance (key : List Char) : Decidable (IsKey '&' '=' key) :=
  inferInstanceAs (Decidable ('&' ∉ key ∧ '=' ∉ key))

theorem scalars_marker_append {key rest : Text} (plain : Plain key) :
    scalars (marker 38 61 key ++ rest) = marker '&' '=' (scalars key) ++ scalars rest := by
  have whole : Plain (marker 38 61 key) := by
    intro unit member
    simp only [marker, List.mem_cons, List.mem_append, List.not_mem_nil, or_false] at member
    obtain rfl | inKey | rfl := member
    · decide
    · exact plain unit inKey
    · decide
  rw [Utf16.scalars_plain_append whole, Utf16.scalars_plain plain]
  simp [marker]

/-- Fields whose keys are plain are decoded one by one. -/
theorem scalars_render {fields : List (Text × Text)} {value : Text}
    (plain : ∀ field ∈ fields, Plain field.1) :
    scalars (value ++ render 38 61 fields) = scalars value ++ render '&' '=' (decoded fields) := by
  induction fields generalizing value with
  | nil => simp [render, decoded]
  | cons field fields inductionHypothesis =>
      have clean : ∀ unit ∈ (render 38 61 (field :: fields)).head?,
          JsonText.isLowSurrogate unit = false := by
        intro unit isHead
        obtain rfl : 38 = unit := Option.some.inj isHead
        decide
      have first : decoded (field :: fields) =
        (scalars field.1, scalars field.2) :: decoded fields := rfl
      rw [Utf16.scalars_append clean, render_cons, scalars_marker_append (plain _ List.mem_cons_self),
        inductionHypothesis fun field member => plain field (List.mem_cons_of_mem _ member), first,
        render_cons]

theorem textFields_plain (data : MomoCallback) : ∀ field ∈ textFields data, Plain field.1 := by
  intro field member
  have keys : ∀ key ∈ (textFields data).map Prod.fst, Plain key :=
    (by decide : ∀ key ∈ [units "message", units "orderId", units "orderInfo", units "orderType",
      units "partnerCode", units "payType", units "requestId"], Plain key)
  exact keys _ (List.mem_map_of_mem member)

theorem numberFields_plain (data : MomoCallback) : ∀ field ∈ numberFields data, Plain field.1 := by
  intro field member
  have keys : ∀ key ∈ (numberFields data).map Prod.fst, Plain key :=
    (by decide : ∀ key ∈ [units "responseTime", units "resultCode", units "transId"], Plain key)
  exact keys _ (List.mem_map_of_mem member)

theorem canonical_eq (credentials : MomoCredentials) (data : MomoCallback) :
    canonical (signedFields credentials data) =
      (units "accessKey=" ++ credentials.accessKey) ++ ((units "&amount=" ++ (integer data.amount ++
        units "&extraData=")) ++ ((data.extraData ++ render 38 61 (textFields data)) ++
          render 38 61 (numberFields data))) := by
  simp [canonical, signedFields, textFields, numberFields, render, marker, List.intercalate, units]

theorem scalars_canonical (credentials : MomoCredentials) (data : MomoCallback) :
    scalars (canonical (signedFields credentials data)) =
      scalars (units "accessKey=" ++ credentials.accessKey) ++ ("&amount=".toList ++
        (scalars (integer data.amount) ++ '&' :: ("extraData=".toList ++
          (middle data ++ render '&' '=' (decoded (numberFields data)))))) := by
  have amount : Plain (units "&amount=" ++ (integer data.amount ++ units "&extraData=")) := by
    intro unit member
    have fixed : Plain (units "&amount=") ∧ Plain (units "&extraData=") := by decide
    simp only [List.mem_append] at member
    obtain first | number | last := member
    · exact fixed.1 unit first
    · exact integer_plain _ unit number
    · exact fixed.2 unit last
  have clean (rest : Text) : ∀ unit ∈ ((units "&amount=" ++ (integer data.amount ++
      units "&extraData=")) ++ rest).head?, JsonText.isLowSurrogate unit = false := by
    intro unit isHead
    obtain rfl : 38 = unit := Option.some.inj isHead
    decide
  rw [canonical_eq, Utf16.scalars_append (clean _), Utf16.scalars_plain_append amount,
    scalars_render (numberFields_plain data), scalars_render (textFields_plain data),
    Utf16.scalars_plain (integer_plain _), List.map_append, List.map_append, List.append_assoc,
    List.append_assoc]
  rfl

theorem numberFields_injective {data other : MomoCallback} {value rest : List Char}
    (same : value ++ render '&' '=' (decoded (numberFields data)) =
      rest ++ render '&' '=' (decoded (numberFields other))) :
    value = rest ∧ data.responseTime = other.responseTime ∧ data.resultCode = other.resultCode ∧
      data.transId = other.transId := by
  have keys : ∀ key ∈ (decoded (numberFields data)).map Prod.fst, IsKey '&' '=' key :=
    (by decide : ∀ key ∈ [units "responseTime", units "resultCode", units "transId"].map scalars,
      IsKey '&' '=' key)
  have unmarked (data : MomoCallback) : ∀ field ∈ decoded (numberFields data),
      ¬marker '&' '=' field.1 <:+: field.2 := by
    intro field member found
    have inField : '&' ∈ field.2 := found.subset List.mem_cons_self
    simp only [decoded, numberFields, List.map_cons, List.map_nil, List.mem_cons, List.not_mem_nil,
      or_false] at member
    obtain rfl | rfl | rfl := member
    · exact amp_notMem_integer _ inField
    · exact amp_notMem_integer _ inField
    · exact amp_notMem_integer _ inField
  have sameKeys : (decoded (numberFields other)).map Prod.fst =
      (decoded (numberFields data)).map Prod.fst := rfl
  obtain ⟨sameValue, fields⟩ := render_injective_last (by decide) sameKeys
    (fun field member => keys _ (List.mem_map_of_mem member)) (unmarked data)
    (unmarked other) same
  simp only [decoded, numberFields, List.map_cons, List.map_nil, List.cons.injEq, Prod.mk.injEq,
    true_and, and_true] at fields
  exact ⟨sameValue, integer_injective fields.1, integer_injective fields.2.1,
    integer_injective fields.2.2⟩

theorem decoded_textFields_keys (data : MomoCallback) :
    (decoded (textFields data)).map Prod.fst = textKeys :=
  (by decide : [units "message", units "orderId", units "orderInfo", units "orderType",
    units "partnerCode", units "payType", units "requestId"].map scalars = textKeys)

theorem textFields_injective {data other : MomoCallback} {value rest : List Char}
    (unmarked : Unmarked '&' '=' textKeys value)
    (unmarkedFields : ∀ field ∈ decoded (textFields data), Unmarked '&' '=' textKeys field.2)
    (same : value ++ render '&' '=' (decoded (textFields data)) =
      rest ++ render '&' '=' (decoded (textFields other))) :
    value = rest ∧ decoded (textFields data) = decoded (textFields other) := by
  have keys : ∀ key ∈ textKeys, IsKey '&' '=' key := by decide
  have distinct : textKeys.Nodup := by decide
  have sameKeys : (decoded (textFields other)).map Prod.fst =
      (decoded (textFields data)).map Prod.fst := rfl
  rw [← decoded_textFields_keys data] at keys distinct unmarked unmarkedFields
  exact render_injective (by decide) sameKeys (fun field member => keys _ (List.mem_map_of_mem member))
    distinct unmarked unmarkedFields same

/-- No marker of the last text field is in the text. -/
def HasNoRequest (text : Text) : Prop := ¬marker '&' '=' "requestId".toList <:+: scalars text

/-- A capital letter or a digit: `createMerchantReference` and the payOS order codes have no others. -/
def isReferenceUnit (unit : Nat) : Bool := 48 ≤ unit && unit ≤ 57 || 65 ≤ unit && unit ≤ 90

/-- The texts of the merchant references of the attempts. -/
def NamesReferences (reference : Text → Id) (database : Database) : Prop :=
  ∀ text, ∀ attempt ∈ database.payments.attempts, attempt.merchantReference = reference text →
    ∀ unit ∈ text, isReferenceUnit unit = true

/-- What a callback decides, beside the one that the provider has signed. -/
structure Decision (signed accepted : MomoCallback) (reference : Text → Id)
    (invoice : Text → Option InvoiceNumber) (payloadHash : Nat) (database : Database)
    (now : Timestamp) : Prop where
  /-- It is about the order of the provider if it decides at all. -/
  order : PaymentsService.PassesChecks database
      (accepted.notification reference invoice payloadHash) → accepted.orderId = signed.orderId
  same : PaymentsService.PassesChecks database (signed.notification reference invoice payloadHash) →
    PaymentsService.PassesChecks database (accepted.notification reference invoice payloadHash) →
    accepted.notification reference invoice payloadHash =
      signed.notification reference invoice payloadHash
  stranger : accepted.orderId ≠ signed.orderId → ∀ after,
    Commits (PaymentsService.handleMomoIpn (accepted.notification reference invoice payloadHash) now)
      database () after →
    after = { database with payments :=
      { database.payments with webhookEvents := after.payments.webhookEvents } }
  otherwise : ¬PaymentsService.PassesChecks database
      (accepted.notification reference invoice payloadHash) → ∀ after,
    Commits (PaymentsService.handleMomoIpn (accepted.notification reference invoice payloadHash) now)
      database () after →
    PaymentsService.SettlesNothing database after

/-- What the signature of one callback says of another one that has it too. -/
structure Bound (signed accepted : MomoCallback) : Prop where
  amount : accepted.amount = signed.amount
  responseTime : accepted.responseTime = signed.responseTime
  resultCode : accepted.resultCode = signed.resultCode
  transId : accepted.transId = signed.transId
  /-- No text holds the marker of another field. -/
  whole : (∀ text ∈ texts signed, Unmarked '&' '=' textKeys (scalars text)) →
    (texts accepted).map utf8 = (texts signed).map utf8 ∧
      ((∀ text ∈ texts signed, replacement ∉ scalars text) → accepted = signed)
  orderId : signed.requestId = signed.orderId → HasNoRequest signed.orderId →
    HasNoRequest accepted.orderId → utf8 accepted.orderId = utf8 signed.orderId ∧
      (replacement ∉ scalars signed.orderId → accepted.orderId = signed.orderId)
  decision : signed.requestId = signed.orderId → HasNoRequest signed.orderId →
    ∀ reference invoice payloadHash database now, NamesReferences reference database →
      Decision signed accepted reference invoice payloadHash database now

section Binding

variable {credentials : MomoCredentials} {signed accepted : MomoCallback}

theorem middle_of_canonical
    (same : scalars (canonical (signedFields credentials signed)) =
      scalars (canonical (signedFields credentials accepted))) :
    signed.amount = accepted.amount ∧ middle signed = middle accepted ∧
      signed.responseTime = accepted.responseTime ∧ signed.resultCode = accepted.resultCode ∧
      signed.transId = accepted.transId := by
  rw [scalars_canonical, scalars_canonical] at same
  obtain ⟨amount, tail⟩ := eq_of_append_cons (amp_notMem_integer _) (amp_notMem_integer _)
    (List.append_cancel_left (List.append_cancel_left same))
  obtain ⟨sameMiddle, numbers⟩ := numberFields_injective (List.append_cancel_left tail)
  exact ⟨integer_injective amount, sameMiddle, numbers⟩

theorem requestId_of_middle (same : middle signed = middle accepted)
    (unmarked : HasNoRequest signed.requestId) (acceptedUnmarked : HasNoRequest accepted.requestId) :
    scalars signed.requestId = scalars accepted.requestId := by
  have last : scalars (units "requestId") = "requestId".toList := by decide
  have ends (data : MomoCallback) : middle data =
      (scalars data.extraData ++ render '&' '=' ((decoded (textFields data)).take 6)) ++
        (marker '&' '=' "requestId".toList ++ scalars data.requestId) := by
    simp [middle, decoded, textFields, render, last]
  rw [ends, ends] at same
  have key : IsKey '&' '=' "requestId".toList := by decide
  exact (divide_last (key.single (by decide)) unmarked acceptedUnmarked same).2

/-- A merchant reference is encoded as no other text is, and holds no marker. -/
theorem reference_spec {reference : Text → Id} {database : Database} {attempt : PaymentAttempt}
    {text : Text} (names : NamesReferences reference database)
    (member : attempt ∈ database.payments.attempts)
    (named : attempt.merchantReference = reference text) :
    replacement ∉ scalars text ∧ HasNoRequest text := by
  have letters := names text attempt member named
  have plain : Plain text := by
    intro unit inText
    have letter := letters unit inText
    simp only [isReferenceUnit, Bool.or_eq_true, Bool.and_eq_true, decide_eq_true_eq] at letter
    omega
  refine ⟨Utf16.replacement_notMem_plain plain, fun found => ?_⟩
  have amp := Utf16.mem_of_mem_scalars plain (found.subset List.mem_cons_self)
  exact absurd (letters _ amp) (by decide)

/-- A notification that names an attempt is about the order of the provider. -/
theorem orderId_of_named {reference : Text → Id} {database : Database} {attempt : PaymentAttempt}
    (orderId : HasNoRequest accepted.orderId → utf8 accepted.orderId = utf8 signed.orderId)
    (names : NamesReferences reference database)
    (found : database.payments.attempts.first?
      (fun row => row.merchantReference = reference accepted.orderId) = some attempt) :
    accepted.orderId = signed.orderId := by
  obtain ⟨member, named⟩ := Table.mem_of_first? found
  obtain ⟨kept, unmarked⟩ := reference_spec names member (of_decide_eq_true named)
  exact Utf16.eq_of_scalars_eq kept (Utf16.utf8_inj.mp (orderId unmarked))

theorem decision {reference : Text → Id} {invoice : Text → Option InvoiceNumber}
    {payloadHash : Nat} {database : Database} {now : Timestamp}
    (amount : accepted.amount = signed.amount) (resultCode : accepted.resultCode = signed.resultCode)
    (transId : accepted.transId = signed.transId)
    (orderId : HasNoRequest accepted.orderId → utf8 accepted.orderId = utf8 signed.orderId)
    (names : NamesReferences reference database) :
    Decision signed accepted reference invoice payloadHash database now := by
  refine ⟨?_, ?_, ?_, ?_⟩
  · rintro ⟨attempt, row, found, -⟩
    exact orderId_of_named orderId names found
  · rintro ⟨attempt, row, found, -, inStore, matches_⟩ ⟨other, otherRow, again, -, alsoInStore, also⟩
    have sameOrder := orderId_of_named orderId names again
    change database.payments.attempts.first? (fun row => row.merchantReference =
      reference accepted.orderId) = some other at again
    rw [sameOrder] at again
    obtain rfl := Option.some.inj (found.symm.trans again)
    obtain rfl := Option.some.inj (inStore.symm.trans alsoInStore)
    simp only [PaymentsService.referenceMatches, Bool.and_eq_true] at matches_ also
    obtain ⟨⟨⟨extraData, orderInfo⟩, -⟩, -⟩ := matches_
    obtain ⟨⟨⟨otherExtraData, otherOrderInfo⟩, -⟩, -⟩ := also
    have sameData := (of_decide_eq_true otherExtraData).trans (of_decide_eq_true extraData).symm
    have sameInfo := (of_decide_eq_true otherOrderInfo).trans (of_decide_eq_true orderInfo).symm
    simp only [MomoCallback.notification, MomoNotification.mk.injEq, true_and]
    exact ⟨congrArg reference sameOrder, congrArg Int.toNat amount,
      sameData, sameInfo, resultCode, transId⟩
  · intro differs after committed
    refine PaymentsService.commits_handleMomoIpn_stranger ?_ committed
    rw [← Option.not_isSome_iff_eq_none]
    intro named
    obtain ⟨attempt, found⟩ := Option.isSome_iff_exists.mp named
    exact differs (orderId_of_named orderId names found)
  · intro fails after committed
    exact PaymentsService.settlesNothing_of_not_passes fails committed

theorem accepted_spec {hmac : List UInt8 → List UInt8 → List UInt8} {Raw Hash : Type}
    {sha256 : List UInt8 → Hash} {parse : Raw → Option MomoCallback} {raw : Raw} {payloadHash : Hash}
    (verified : verifyCallback hmac sha256 parse credentials raw = some (accepted, payloadHash)) :
    accepted.partnerCode = credentials.partnerCode ∧ accepted.requestId = accepted.orderId ∧
      Signed hmac credentials accepted := by
  unfold verifyCallback at verified
  obtain ⟨data, -, checked⟩ := Option.bind_eq_some_iff.mp verified
  split_ifs at checked with references signature
  obtain ⟨rfl, -⟩ := Prod.mk.inj (Option.some.inj checked)
  obtain ⟨partnerCode, requestId⟩ := not_or.mp references
  have equal : equal data.signature (sign hmac (signedFields credentials data)
      credentials.secretKey) = true := by simpa using signature
  exact ⟨not_not.mp partnerCode, not_not.mp requestId, equal⟩

/-- Two callbacks with one signature have one signed text. -/
theorem canonical_of_signed {hmac : List UInt8 → List UInt8 → List UInt8}
    (injective : Function.Injective (hmac (utf8 credentials.secretKey)))
    (bySigner : Signed hmac credentials signed) (verified : Signed hmac credentials accepted)
    (same : accepted.signature = signed.signature) :
    scalars (canonical (signedFields credentials signed)) =
      scalars (canonical (signedFields credentials accepted)) := by
  have first := of_decide_eq_true bySigner
  have second := of_decide_eq_true verified
  rw [same, first, sign, sign, Hex.decode_encode, Hex.decode_encode] at second
  exact Utf16.utf8_inj.mp (injective second)

theorem texts_of_middle
    (unmarked : ∀ text ∈ texts signed, Unmarked '&' '=' textKeys (scalars text))
    (same : middle signed = middle accepted) :
    (texts signed).map scalars = (texts accepted).map scalars := by
  have inFields : ∀ field ∈ decoded (textFields signed), Unmarked '&' '=' textKeys field.2 := by
    intro field member
    obtain ⟨raw, inText, rfl⟩ := List.mem_map.mp member
    exact unmarked _ (List.mem_cons_of_mem _ (List.mem_map_of_mem inText))
  obtain ⟨extraData, fields⟩ := textFields_injective (unmarked _ List.mem_cons_self) inFields same
  have contents := congrArg (List.map Prod.snd) fields
  rw [decoded, decoded, List.map_map, List.map_map] at contents
  rw [texts, texts, List.map_cons, List.map_cons, extraData, List.map_map, List.map_map]
  exact congrArg _ contents

/-- Texts without replacement characters are those of their bytes. -/
theorem eq_of_texts (kept : ∀ text ∈ texts signed, replacement ∉ scalars text)
    (same : (texts signed).map scalars = (texts accepted).map scalars) :
    texts signed = texts accepted := by
  generalize texts signed = first at kept same
  generalize texts accepted = second at same
  induction first generalizing second with
  | nil => exact (List.map_eq_nil_iff.mp same.symm).symm
  | cons text rest inductionHypothesis =>
      cases second with
      | nil => exact nomatch same
      | cons other others =>
          obtain ⟨head, tail⟩ := List.cons.inj same
          rw [Utf16.eq_of_scalars_eq (kept text List.mem_cons_self) head,
            inductionHypothesis (fun text member => kept text (List.mem_cons_of_mem _ member)) others
              tail]

/-- A callback that is accepted with a signature of the provider. -/
theorem verifyCallback_bound {hmac : List UInt8 → List UInt8 → List UInt8} {Raw Hash : Type}
    {sha256 : List UInt8 → Hash} {parse : Raw → Option MomoCallback} {raw : Raw} {payloadHash : Hash}
    (injective : Function.Injective (hmac (utf8 credentials.secretKey)))
    (bySigner : Signed hmac credentials signed)
    (verified : verifyCallback hmac sha256 parse credentials raw = some (accepted, payloadHash))
    (same : accepted.signature = signed.signature) : Bound signed accepted := by
  obtain ⟨-, requestId, acceptedSigned⟩ := accepted_spec verified
  obtain ⟨amount, sameMiddle, responseTime, resultCode, transId⟩ :=
    middle_of_canonical (canonical_of_signed injective bySigner acceptedSigned same)
  have orderId (signedRequest : signed.requestId = signed.orderId)
      (unmarked : HasNoRequest signed.orderId) (acceptedUnmarked : HasNoRequest accepted.orderId) :
      scalars signed.orderId = scalars accepted.orderId := by
    rw [← signedRequest] at unmarked ⊢
    rw [← requestId] at acceptedUnmarked ⊢
    exact requestId_of_middle sameMiddle unmarked acceptedUnmarked
  refine ⟨amount.symm, responseTime.symm, resultCode.symm, transId.symm, ?_, ?_, ?_⟩
  · intro unmarked
    have sameTexts := texts_of_middle unmarked sameMiddle
    constructor
    · have bytes := congrArg (List.map fun text => FormUrl.bytes (.ofList text)) sameTexts
      rw [List.map_map, List.map_map] at bytes
      exact bytes.symm
    · intro kept
      have equal := eq_of_texts kept sameTexts
      cases accepted
      cases signed
      simp only [texts, textFields, List.map_cons, List.map_nil, List.cons.injEq, and_true] at equal
      simp_all only
  · intro signedRequest unmarked acceptedUnmarked
    have equal := orderId signedRequest unmarked acceptedUnmarked
    exact ⟨Utf16.utf8_inj.mpr equal.symm, fun kept => (Utf16.eq_of_scalars_eq kept equal).symm⟩
  · intro signedRequest unmarked reference invoice hash database now names
    refine decision amount.symm resultCode.symm transId.symm (fun acceptedUnmarked => ?_) names
    exact Utf16.utf8_inj.mpr (orderId signedRequest unmarked acceptedUnmarked).symm

end Binding

section Sample

theorem startingCash_nonneg : (0 : Money) ≤ 50000000 := by decide

/-- The sample shop that waits for the payment of an invoice by MoMo. -/
def awaitingPayment : Database := Database.invoiced.performAll [
  (.cash (.createFund 0 { name := "Till", type := .cash, openingBalance := ⟨50000000, startingCash_nonneg⟩ }),
    5),
  (.cash (.openShift 0 { fundId := 4, startingCash := ⟨50000000, startingCash_nonneg⟩ }), 6),
  (.payment (.createAttempt {
    employeeId := 0
    invoiceId := 3
    provider := .momo
    locale := "vn"
    bankCode := none
    idempotencyKey := "first"
    closeSessionAfterPayment := false }), 7)]

def sampleCredentials : MomoCredentials where
  accessKey := units "access"
  partnerCode := units "MOMO"
  secretKey := units "secret"

/-- A success whose message and whose way of payment hold the markers of other fields. -/
def ambiguous : MomoCallback where
  partnerCode := units "MOMO"
  orderId := units "PA1"
  requestId := units "PA1"
  amount := 70000
  extraData := []
  message := units "ok&orderId=z&requestId=PA1&orderInfo=x"
  orderInfo := units "Thanh toan hoa don INV-19700101-000001"
  orderType := units "momo_wallet"
  payType := units "qr&requestId=z"
  responseTime := 1
  resultCode := 0
  transId := 9
  signature := Hex.encode (List.replicate 32 7)

/-- The same signed text, read with another order. -/
def reread : MomoCallback :=
  { ambiguous with
    orderId := units "z&requestId=PA1"
    requestId := units "z&requestId=PA1"
    message := units "ok"
    orderInfo := units "x&orderId=PA1&orderInfo=Thanh toan hoa don INV-19700101-000001"
    payType := units "qr" }

/-- A function without collisions that gives one text a digest of the usual length. -/
def sampleHmac (_ content : List UInt8) : List UInt8 :=
  if content = utf8 (canonical (signedFields sampleCredentials ambiguous)) then List.replicate 32 7
  else 0 :: content

theorem sampleHmac_injective (secret : List UInt8) : Function.Injective (sampleHmac secret) := by
  intro first second same
  unfold sampleHmac at same
  split_ifs at same with isFirst isSecond isSecond
  · rw [isFirst, isSecond]
  · exact absurd (List.cons.inj same).1 (by decide)
  · exact absurd (List.cons.inj same).1 (by decide)
  · exact (List.cons.inj same).2

/-- What is read from the same text has the same signature. -/
theorem signed_of_canonical {data : MomoCallback}
    (same : canonical (signedFields sampleCredentials data) =
      canonical (signedFields sampleCredentials ambiguous))
    (carries : data.signature = Hex.encode (List.replicate 32 7)) :
    Signed sampleHmac sampleCredentials data := by
  unfold Signed sign
  rw [same, carries, sampleHmac, if_pos rfl]
  decide

theorem ambiguous_signed : Signed sampleHmac sampleCredentials ambiguous :=
  signed_of_canonical rfl rfl

theorem reread_signed : Signed sampleHmac sampleCredentials reread :=
  signed_of_canonical (by decide +kernel) rfl

theorem reread_accepted : verifyCallback sampleHmac (fun _ => ()) some sampleCredentials reread =
    some (reread, ()) := by
  have admitted : admits reread = true := by decide +kernel
  exact verifyCallback_of_signed rfl admitted rfl rfl reread_signed

/-- The order of the callback, if it is that of the attempt. -/
def sampleReference (text : Text) : Id := if text = units "PA1" then 6 else 0

def sampleInvoice (text : Text) : Option InvoiceNumber :=
  if text = units "Thanh toan hoa don INV-19700101-000001" then some ⟨0, 1⟩ else none

/-- The callback commits and leaves an attempt with the status. -/
def leaves (data : MomoCallback) (status : PaymentAttemptStatus) : Bool :=
  (PaymentsService.handleMomoIpn (data.notification sampleReference sampleInvoice 1) 8
    awaitingPayment).toOption.any fun outcome =>
      outcome.2.payments.attempts.rows.any fun attempt => attempt.status = status

theorem sampleReference_names : NamesReferences sampleReference awaitingPayment := by
  have references : awaitingPayment.payments.attempts.rows.map (·.merchantReference) = [6] := by
    decide +kernel
  intro text attempt member named
  have six : attempt.merchantReference ∈ [6] := references ▸ List.mem_map_of_mem member
  rw [List.mem_singleton.mp six] at named
  unfold sampleReference at named
  split_ifs at named with same
  rw [same]
  decide

/-- The other reading is bound to the signed one, and leaves the attempts of the shop alone. -/
theorem reread_bound : Bound ambiguous reread ∧ ∀ after,
    Commits (PaymentsService.handleMomoIpn (reread.notification sampleReference sampleInvoice 1) 8)
      awaitingPayment () after → after.payments.attempts = awaitingPayment.payments.attempts := by
  have bound : Bound ambiguous reread :=
    verifyCallback_bound (sampleHmac_injective _) ambiguous_signed reread_accepted rfl
  have unmarked : HasNoRequest ambiguous.orderId := by
    unfold HasNoRequest
    decide
  refine ⟨bound, fun after committed => ?_⟩
  have decides := bound.decision rfl unmarked sampleReference sampleInvoice 1 awaitingPayment 8
    sampleReference_names
  rw [decides.stranger (by decide) after committed]

/-- One signature, two orders: the one is paid and the other one unknown. -/
theorem exists_rereading :
    ∃ (hmac : List UInt8 → List UInt8 → List UInt8) (credentials : MomoCredentials)
      (signed accepted : MomoCallback), Function.Injective (hmac (utf8 credentials.secretKey)) ∧
      Signed hmac credentials signed ∧
      verifyCallback hmac (fun _ => ()) some credentials accepted = some (accepted, ()) ∧
      accepted.signature = signed.signature ∧ accepted.orderId ≠ signed.orderId ∧
      leaves signed .succeeded = true ∧ leaves accepted .pending = true ∧
      leaves accepted .succeeded = false := by
  refine ⟨sampleHmac, sampleCredentials, ambiguous, reread, sampleHmac_injective _,
    ambiguous_signed, reread_accepted, rfl, ?_, ?_, ?_, ?_⟩
  · decide
  · decide +kernel
  · decide +kernel
  · decide +kernel

end Sample

end MomoService

end CoffeeShop
