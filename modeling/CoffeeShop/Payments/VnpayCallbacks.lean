import CoffeeShop.Library.Calendar
import CoffeeShop.Library.Collation
import CoffeeShop.Library.FormUrl
import CoffeeShop.Library.Json
import Mathlib.Data.List.Nodup

/-!
Payment links and callbacks of VNPay, which sign the sorted parameters as a query.
-/

namespace CoffeeShop

/-- The settings, where an empty text is no value. -/
structure VnpayConfig where
  paymentUrl : String
  returnUrl : String
  tmnCode : String
  hashSecret : String

inductive PaymentLocale where
  | vn
  | en

def PaymentLocale.text : PaymentLocale → String
  | .vn => "vn"
  | .en => "en"

structure VnpayPaymentUrlInput where
  /-- In hundredths, like a money column. -/
  amount : Int
  invoiceNumber : String
  merchantReference : String
  ipAddress : String
  /-- Milliseconds since the epoch. -/
  providerCreatedAt : Int
  expiresAt : Int
  locale : PaymentLocale
  bankCode : Option String

/-- The values of `PaymentCallbackQuery`. -/
inductive QueryValue where
  | text (value : String)
  | texts (values : List String)
  | undefined

structure VnpayCallbackVerification (Hash : Type) where
  isValid : Bool
  params : List (String × String)
  payloadHash : Hash

namespace QueryValue

def text? : QueryValue → Option String
  | text value => some value
  | _ => none

def json : QueryValue → Json
  | text value => .str value
  | texts values => .arr (values.map Json.str)
  | undefined => .null

end QueryValue

namespace VnpayService

def version : String := "2.1.0"

/-- Two digits at least. -/
def pad (value : Nat) : List Char :=
  if value < 10 then '0' :: Nat.toDigits 10 value else Nat.toDigits 10 value

def formatVietnamTime (instant : Int) : String :=
  let shifted := instant + 7 * 60 * 60 * 1000
  let date := Calendar.dateOfDay (shifted / 86400000)
  let time := (shifted % 86400000).toNat
  toString date.year ++ String.ofList (pad date.month ++ pad date.day ++ pad (time / 3600000) ++
    pad (time / 60000 % 60) ++ pad (time / 1000 % 60))

/-- The value of a key. -/
def lookup (key : String) (params : List (String × String)) : Option String :=
  (params.find? fun entry => entry.1 = key).map Prod.snd

def isHashField (key : String) : Bool := key = "vnp_SecureHash" || key = "vnp_SecureHashType"

/-- The entries that `toSignedQuery` signs. -/
def isSigned (entry : String × String) : Bool :=
  "vnp_".toList.isPrefixOf entry.1.toList && !isHashField entry.1 && entry.2 ≠ ""

def hexText (content : List UInt8) : String := String.ofList ((Hex.encode content).map Char.ofNat)

/-- `canonicalPayload` writes what is no value as null. -/
def canonicalPayload [UnicodeTables] (query : List (String × QueryValue)) : String :=
  let entries := query.insertionSort fun left right => UnicodeTables.localeLe left.1 right.1 = true
  String.ofList (Json.stringify (.arr (entries.map fun entry => .arr [.str entry.1, entry.2.json])))

def readText (entry : String × QueryValue) : Option (String × String) :=
  entry.2.text?.map fun value => (entry.1, value)

/-- `normalizeQuery`, whose record takes no text as its `__proto__`. -/
def normalizeQuery (query : List (String × QueryValue)) : Option (List (String × String)) :=
  (query.mapM readText).map fun params => params.filter fun entry => entry.1 ≠ "__proto__"

/-- `left.localeCompare(right) <= 0` for the keys. -/
abbrev KeyLe [UnicodeTables] (left right : String × String) : Prop :=
  UnicodeTables.localeLe left.1 right.1 = true

instance [UnicodeTables] : Std.Total KeyLe :=
  ⟨fun left right => UnicodeTables.total left.1 right.1⟩

instance [UnicodeTables] : IsTrans (String × String) KeyLe :=
  ⟨fun first second third => UnicodeTables.trans first.1 second.1 third.1⟩

def signedEntries [UnicodeTables] (params : List (String × String)) : List (String × String) :=
  (params.filter isSigned).insertionSort KeyLe

def toSignedQuery [UnicodeTables] (params : List (String × String)) : List Char :=
  FormUrl.serialize (signedEntries params)

section Service

variable [UnicodeTables] (hmac : String → String → List UInt8)

def sign (data secret : String) : String := hexText (hmac secret data)

/-- The parameters of a payment. -/
def paymentParams (config : VnpayConfig) (input : VnpayPaymentUrlInput) : List (String × String) :=
  [("vnp_Version", version),
    ("vnp_Command", "pay"),
    ("vnp_TmnCode", config.tmnCode),
    ("vnp_Amount", toString input.amount),
    ("vnp_CurrCode", "VND"),
    ("vnp_TxnRef", input.merchantReference),
    ("vnp_OrderInfo", "Thanh toan hoa don " ++ input.invoiceNumber),
    ("vnp_OrderType", "other"),
    ("vnp_Locale", input.locale.text),
    ("vnp_ReturnUrl", config.returnUrl),
    ("vnp_IpAddr", input.ipAddress),
    ("vnp_CreateDate", formatVietnamTime input.providerCreatedAt),
    ("vnp_ExpireDate", formatVietnamTime input.expiresAt)] ++
    ((input.bankCode.filter (· ≠ "")).map fun bankCode => ("vnp_BankCode", bankCode)).toList

/-- What `createPaymentUrl` appends to the address. -/
def paymentQuery (config : VnpayConfig) (input : VnpayPaymentUrlInput) : List Char :=
  let query := toSignedQuery (paymentParams config input)
  query ++ "&vnp_SecureHash=".toList ++ (sign hmac (String.ofList query) config.hashSecret).toList

def createPaymentUrl (config : VnpayConfig) (input : VnpayPaymentUrlInput) : Option String :=
  if config.paymentUrl = "" ∨ config.returnUrl = "" ∨ config.tmnCode = "" ∨ config.hashSecret = ""
  then none
  else some (config.paymentUrl ++ "?" ++ String.ofList (paymentQuery hmac config input))

variable {Hash : Type} (sha256 : String → Hash) (toLowerCase : String → String)

def verifyCallback (config : VnpayConfig) (query : List (String × QueryValue)) :
    VnpayCallbackVerification Hash :=
  let payloadHash := sha256 (canonicalPayload query)
  match normalizeQuery query with
  | none => { isValid := false, params := [], payloadHash }
  | some params =>
      let receivedHash := (lookup "vnp_SecureHash" params).getD ""
      if receivedHash = "" ∨ config.tmnCode = "" ∨ config.hashSecret = "" then
        { isValid := false, params, payloadHash }
      else if lookup "vnp_TmnCode" params ≠ some config.tmnCode then
        { isValid := false, params, payloadHash }
      else
        let signedParams := params.filter fun entry => !isHashField entry.1
        let expectedHash := sign hmac (String.ofList (toSignedQuery signedParams)) config.hashSecret
        { isValid := expectedHash = toLowerCase receivedHash, params, payloadHash }

end Service

theorem lower_of_mem_hexText {content : List UInt8} {c : Char}
    (member : c ∈ (hexText content).toList) : '0' ≤ c ∧ c ≤ '9' ∨ 'a' ≤ c ∧ c ≤ 'z' := by
  have digits : ∀ unit < 103, (48 ≤ unit ∧ unit ≤ 57 ∨ 97 ≤ unit ∧ unit ≤ 102) →
      '0' ≤ Char.ofNat unit ∧ Char.ofNat unit ≤ '9' ∨
        'a' ≤ Char.ofNat unit ∧ Char.ofNat unit ≤ 'z' := by
    decide
  unfold hexText at member
  rw [String.toList_ofList] at member
  obtain ⟨unit, isDigit, rfl⟩ := List.mem_map.mp member
  have lower := Hex.encode_lower isDigit
  exact digits unit (by omega) lower

theorem escape_hexText (content : List UInt8) :
    FormUrl.escape (hexText content) = (hexText content).toList := by
  have digits : ∀ unit < 103, (48 ≤ unit ∧ unit ≤ 57 ∨ 97 ≤ unit ∧ unit ≤ 102) →
      (Char.ofNat unit).toNat < 256 ∧
        FormUrl.isPlain (.ofNat (Char.ofNat unit).toNat) = true := by
    decide +kernel
  unfold hexText
  rw [String.toList_ofList]
  apply FormUrl.escape_plain
  intro c member
  obtain ⟨unit, isDigit, rfl⟩ := List.mem_map.mp member
  have lower := Hex.encode_lower isDigit
  exact digits unit (by omega) lower

theorem hexText_injective : Function.Injective hexText := by
  intro first second same
  have units (content : List UInt8) : ((hexText content).toList.map Char.toNat) =
      Hex.encode content := by
    rw [hexText, String.toList_ofList, List.map_map]
    have same : (Hex.encode content).map (Char.toNat ∘ Char.ofNat) =
        (Hex.encode content).map id := by
      apply List.map_congr_left
      intro unit member
      have ascii : ∀ unit < 128, (Char.ofNat unit).toNat = unit := by decide
      obtain digit | letter := Hex.encode_lower member
      · exact ascii unit (by omega)
      · exact ascii unit (by omega)
    rw [same, List.map_id]
  apply Hex.encode_injective
  rw [← units, ← units, same]

section Lookup

variable {params : List (String × String)} {key value : String}

theorem lookup_eq_some_iff (distinct : (params.map Prod.fst).Nodup) :
    lookup key params = some value ↔ (key, value) ∈ params := by
  induction params with
  | nil => exact iff_of_false nofun List.not_mem_nil
  | cons entry rest inductionHypothesis =>
      obtain ⟨fresh, distinctRest⟩ := List.nodup_cons.mp distinct
      unfold lookup at inductionHypothesis ⊢
      rw [List.find?_cons]
      by_cases same : entry.1 = key
      · rw [decide_eq_true same]
        dsimp only
        rw [Option.map_some, Option.some.injEq, List.mem_cons]
        constructor
        · rintro rfl
          exact .inl (Prod.ext same.symm rfl)
        · rintro (isEntry | inRest)
          · exact congrArg Prod.snd isEntry.symm
          · exact absurd (same ▸ List.mem_map_of_mem inRest) fresh
      · rw [decide_eq_false same]
        dsimp only
        rw [inductionHypothesis distinctRest, List.mem_cons]
        exact ⟨.inr, fun member => member.resolve_left fun isEntry => same (isEntry ▸ rfl)⟩

theorem lookup_filter {keep : String → Bool} (distinct : (params.map Prod.fst).Nodup)
    (kept : keep key = true) :
    lookup key (params.filter fun entry => keep entry.1) = lookup key params := by
  ext value
  rw [lookup_eq_some_iff distinct,
    lookup_eq_some_iff (distinct.sublist (List.filter_sublist.map Prod.fst)), List.mem_filter]
  exact and_iff_left kept

/-- The text that a query gives a key, which is empty when there is none. -/
def textOf (key : String) (query : List (String × QueryValue)) : String :=
  ((query.find? fun entry => entry.1 = key).bind fun entry => entry.2.text?).getD ""

theorem readText_spec {query : List (String × QueryValue)}
    (read : query.mapM readText = some params) :
    params.map Prod.fst = query.map Prod.fst ∧ (lookup key params).getD "" = textOf key query := by
  induction query generalizing params with
  | nil =>
      obtain rfl := Option.some.inj read
      exact ⟨rfl, rfl⟩
  | cons entry rest inductionHypothesis =>
      rw [List.mapM_cons] at read
      obtain ⟨first, isFirst, read⟩ := Option.bind_eq_some_iff.mp read
      obtain ⟨others, isOthers, read⟩ := Option.bind_eq_some_iff.mp read
      obtain rfl := Option.some.inj read
      obtain ⟨value, isText, rfl⟩ := Option.map_eq_some_iff.mp isFirst
      obtain ⟨sameKeys, sameValue⟩ := inductionHypothesis isOthers
      refine ⟨congrArg (entry.1 :: ·) sameKeys, ?_⟩
      unfold lookup textOf at sameValue ⊢
      rw [List.find?_cons, List.find?_cons]
      by_cases same : entry.1 = key
      · rw [decide_eq_true same]
        dsimp only
        rw [Option.bind_some, isText, Option.map_some]
      · rw [decide_eq_false same]
        exact sameValue

theorem normalizeQuery_spec {query : List (String × QueryValue)}
    (distinct : (query.map Prod.fst).Nodup) (read : normalizeQuery query = some params) :
    (params.map Prod.fst).Nodup ∧
      ∀ key, key ≠ "__proto__" → (lookup key params).getD "" = textOf key query := by
  obtain ⟨all, isAll, rfl⟩ := Option.map_eq_some_iff.mp read
  have keys : (all.map Prod.fst).Nodup := by
    have same : all.map Prod.fst = query.map Prod.fst ∧
        (lookup "" all).getD "" = textOf "" query := readText_spec isAll
    rw [same.1]
    exact distinct
  refine ⟨keys.sublist (List.filter_sublist.map Prod.fst), ?_⟩
  intro key notProto
  have kept : lookup key (all.filter fun entry => entry.1 ≠ "__proto__") = lookup key all :=
    @lookup_filter _ key (fun key => key ≠ "__proto__") keys (decide_eq_true notProto)
  rw [kept]
  exact (readText_spec isAll).2

section Signed

variable [UnicodeTables]

theorem signedEntries_perm (params : List (String × String)) :
    (signedEntries params).Perm (params.filter isSigned) :=
  List.perm_insertionSort _ _

theorem mem_signedEntries {entry : String × String} :
    entry ∈ signedEntries params ↔ entry ∈ params ∧ isSigned entry = true := by
  rw [(signedEntries_perm params).mem_iff, List.mem_filter]

theorem nodup_signedEntries (distinct : (params.map Prod.fst).Nodup) :
    ((signedEntries params).map Prod.fst).Nodup := by
  rw [((signedEntries_perm params).map Prod.fst).nodup_iff]
  exact distinct.sublist (List.filter_sublist.map Prod.fst)

/-- The signed entries keep the values of the signed keys, up to empty ones. -/
theorem lookup_signedEntries (distinct : (params.map Prod.fst).Nodup)
    (isVnp : "vnp_".toList.isPrefixOf key.toList = true) (notHash : isHashField key = false) :
    (lookup key (signedEntries params)).getD "" = (lookup key params).getD "" := by
  have entries (value : String) : lookup key (signedEntries params) = some value ↔
      lookup key params = some value ∧ value ≠ "" := by
    rw [lookup_eq_some_iff (nodup_signedEntries distinct), lookup_eq_some_iff distinct,
      mem_signedEntries]
    unfold isSigned
    rw [isVnp, notHash]
    simp
  cases found : lookup key params with
  | none =>
      cases signed : lookup key (signedEntries params) with
      | none => rfl
      | some value => exact nomatch found.symm.trans ((entries value).mp signed).1
  | some value =>
      by_cases empty : value = ""
      · cases signed : lookup key (signedEntries params) with
        | none => exact empty.symm
        | some other =>
            obtain ⟨same, nonempty⟩ := (entries other).mp signed
            exact absurd ((Option.some.inj (found.symm.trans same)) ▸ empty) nonempty
      · rw [(entries value).mpr ⟨found, empty⟩]

end Signed

end Lookup

section Binding

variable [UnicodeTables] {hmac : String → String → List UInt8} {Hash : Type}
  {sha256 : String → Hash} {toLowerCase : String → String} {config : VnpayConfig} {query : List (String × QueryValue)}

theorem isValid_spec
    (valid : (verifyCallback hmac sha256 toLowerCase config query).isValid = true) :
    ∃ params, normalizeQuery query = some params ∧
      sign hmac (String.ofList (toSignedQuery (params.filter fun entry => !isHashField entry.1)))
        config.hashSecret = toLowerCase ((lookup "vnp_SecureHash" params).getD "") := by
  unfold verifyCallback at valid
  dsimp only at valid
  cases read : normalizeQuery query with
  | none =>
      rw [read] at valid
      exact nomatch valid
  | some params =>
      rw [read] at valid
      dsimp only at valid
      split_ifs at valid
      exact ⟨params, rfl, of_decide_eq_true valid⟩

/-- Two valid callbacks with one hash have the same signed values. -/
theorem textOf_eq_of_isValid {other : List (String × QueryValue)}
    (injective : Function.Injective (hmac config.hashSecret))
    (distinct : (query.map Prod.fst).Nodup) (otherDistinct : (other.map Prod.fst).Nodup)
    (valid : (verifyCallback hmac sha256 toLowerCase config query).isValid = true)
    (otherValid : (verifyCallback hmac sha256 toLowerCase config other).isValid = true)
    (sameHash : textOf "vnp_SecureHash" query = textOf "vnp_SecureHash" other) {key : String}
    (isVnp : "vnp_".toList.isPrefixOf key.toList = true) (notHash : isHashField key = false) :
    textOf key query = textOf key other := by
  obtain ⟨params, read, signature⟩ := isValid_spec valid
  obtain ⟨otherParams, otherRead, otherSignature⟩ := isValid_spec otherValid
  obtain ⟨keys, values⟩ := normalizeQuery_spec distinct read
  obtain ⟨otherKeys, otherValues⟩ := normalizeQuery_spec otherDistinct otherRead
  rw [values _ (by decide), sameHash, ← otherValues _ (by decide), ← otherSignature] at signature
  have texts := injective (hexText_injective signature)
  have signed := FormUrl.serialize_injective (String.ofList_injective texts)
  have signedValue {content : List (String × String)} (nodup : (content.map Prod.fst).Nodup) :
      (lookup key (signedEntries (content.filter fun entry => !isHashField entry.1))).getD "" =
        (lookup key content).getD "" := by
    have kept : lookup key (content.filter fun entry => !isHashField entry.1) = lookup key content :=
      @lookup_filter _ key (fun key => !isHashField key) nodup (by rw [notHash]; rfl)
    rw [lookup_signedEntries (nodup.sublist (List.filter_sublist.map Prod.fst)) isVnp notHash, kept]
  have notProto : key ≠ "__proto__" := by
    rintro rfl
    exact absurd isVnp (by decide)
  rw [← values key notProto, ← otherValues key notProto, ← signedValue keys,
    ← signedValue otherKeys, signed]

end Binding

section Payment

variable [UnicodeTables] {hmac : String → String → List UInt8} {Hash : Type}
  {sha256 : String → Hash} {toLowerCase : String → String} {config : VnpayConfig}

theorem signedEntries_self (params : List (String × String)) :
    signedEntries (signedEntries params) = signedEntries params := by
  have all : (signedEntries params).filter isSigned = signedEntries params :=
    List.filter_eq_self.mpr fun entry member => (mem_signedEntries.mp member).2
  rw [signedEntries, all]
  exact (List.pairwise_insertionSort KeyLe _).insertionSort_eq

theorem parse_paymentQuery (input : VnpayPaymentUrlInput) :
    FormUrl.parse (paymentQuery hmac config input) = some (signedEntries (paymentParams config input) ++
      [("vnp_SecureHash", sign hmac (String.ofList (toSignedQuery (paymentParams config input)))
        config.hashSecret)]) := by
  have key : FormUrl.escape "vnp_SecureHash" = "vnp_SecureHash".toList := by decide +kernel
  have pair := FormUrl.parse_pair "vnp_SecureHash"
    (sign hmac (String.ofList (toSignedQuery (paymentParams config input))) config.hashSecret)
  rw [key, sign, escape_hexText] at pair
  have whole := FormUrl.parse_append _ _ (FormUrl.parse_serialize
    (signedEntries (paymentParams config input))) pair
  unfold paymentQuery
  rw [List.append_assoc]
  exact whole

omit [UnicodeTables] in
theorem nodup_paymentParams (input : VnpayPaymentUrlInput) :
    ((paymentParams config input).map Prod.fst).Nodup := by
  unfold paymentParams
  cases input.bankCode.filter (· ≠ "") with
  | none =>
      rw [Option.map_none, Option.toList_none, List.append_nil]
      simp
  | some bankCode =>
      rw [Option.map_some, Option.toList_some]
      simp

omit [UnicodeTables] in
theorem readText_texts (params : List (String × String)) :
    (params.map fun entry => (entry.1, QueryValue.text entry.2)).mapM readText = some params := by
  induction params with
  | nil => rfl
  | cons entry rest inductionHypothesis =>
      rw [List.map_cons, List.mapM_cons, inductionHypothesis]
      rfl

omit [UnicodeTables] in
theorem normalizeQuery_texts {params : List (String × String)}
    (notProto : ∀ entry ∈ params, entry.1 ≠ "__proto__") :
    normalizeQuery (params.map fun entry => (entry.1, QueryValue.text entry.2)) = some params := by
  have all : (params.filter fun entry => entry.1 ≠ "__proto__") = params :=
    List.filter_eq_self.mpr fun entry member => decide_eq_true (notProto entry member)
  rw [normalizeQuery, readText_texts, Option.map_some, all]

theorem verifyCallback_signed {params : List (String × String)}
    (configured : config.tmnCode ≠ "" ∧ config.hashSecret ≠ "")
    (distinct : (params.map Prod.fst).Nodup) (tmnCode : ("vnp_TmnCode", config.tmnCode) ∈ params)
    (nonempty : sign hmac (String.ofList (toSignedQuery params)) config.hashSecret ≠ "")
    (lower : toLowerCase (sign hmac (String.ofList (toSignedQuery params)) config.hashSecret) =
      sign hmac (String.ofList (toSignedQuery params)) config.hashSecret) :
    (verifyCallback hmac sha256 toLowerCase config
      ((signedEntries params ++ [("vnp_SecureHash", sign hmac (String.ofList (toSignedQuery params))
        config.hashSecret)]).map fun entry => (entry.1, QueryValue.text entry.2))).isValid = true := by
  have isSignedEntry {entry : String × String} (member : entry ∈ signedEntries params) :
      "vnp_".toList.isPrefixOf entry.1.toList = true ∧ isHashField entry.1 = false := by
    have signed := (mem_signedEntries.mp member).2
    unfold isSigned at signed
    rw [Bool.and_eq_true_iff, Bool.and_eq_true_iff, Bool.not_eq_true'] at signed
    exact signed.1
  generalize hash : sign hmac (String.ofList (toSignedQuery params)) config.hashSecret = received
    at nonempty lower ⊢
  have keys : ((signedEntries params ++ [("vnp_SecureHash", received)]).map Prod.fst).Nodup := by
    rw [List.map_append]
    apply List.nodup_append'.mpr
    refine ⟨nodup_signedEntries distinct, List.nodup_singleton _, ?_⟩
    apply List.disjoint_singleton.mpr
    intro member
    obtain ⟨entry, isEntry, same⟩ := List.mem_map.mp member
    have notHash := (isSignedEntry isEntry).2
    rw [same] at notHash
    exact absurd notHash (by decide : ¬isHashField "vnp_SecureHash" = false)
  have notProto : ∀ entry ∈ signedEntries params ++ [("vnp_SecureHash", received)],
      entry.1 ≠ "__proto__" := by
    intro entry member same
    obtain isEntry | isHash := List.mem_append.mp member
    · have isVnp := (isSignedEntry isEntry).1
      rw [same] at isVnp
      exact absurd isVnp (by decide)
    · rw [List.mem_singleton.mp isHash] at same
      exact absurd same (by decide : ¬"vnp_SecureHash" = "__proto__")
  have receivedHash : lookup "vnp_SecureHash"
      (signedEntries params ++ [("vnp_SecureHash", received)]) = some received :=
    (lookup_eq_some_iff keys).mpr (List.mem_append_right _ (List.mem_singleton_self _))
  have isSignedCode : isSigned ("vnp_TmnCode", config.tmnCode) = true :=
    have isVnp : ("vnp_".toList.isPrefixOf "vnp_TmnCode".toList &&
        !isHashField "vnp_TmnCode") = true := by decide
    Bool.and_eq_true_iff.mpr ⟨isVnp, decide_eq_true configured.1⟩
  have sameCode : lookup "vnp_TmnCode" (signedEntries params ++ [("vnp_SecureHash", received)]) =
      some config.tmnCode :=
    (lookup_eq_some_iff keys).mpr (List.mem_append_left _
      (mem_signedEntries.mpr ⟨tmnCode, isSignedCode⟩))
  have signedParams : ((signedEntries params ++ [("vnp_SecureHash", received)]).filter fun entry =>
      !isHashField entry.1) = signedEntries params := by
    rw [List.filter_append, List.filter_eq_self.mpr fun entry member => by
      rw [(isSignedEntry member).2]; rfl]
    exact List.append_nil _
  unfold verifyCallback
  rw [normalizeQuery_texts notProto]
  dsimp only
  rw [receivedHash, sameCode, Option.getD_some, if_neg (not_or.mpr ⟨nonempty, not_or.mpr configured⟩),
    if_neg (not_not.mpr rfl), signedParams]
  dsimp only
  rw [toSignedQuery, signedEntries_self, ← toSignedQuery, hash, lower]
  exact decide_eq_true rfl

/-- Links that are accepted again, and callbacks that their hashes determine. -/
theorem verifyCallback_binds (injective : Function.Injective (hmac config.hashSecret))
    (digest : ∀ data, hmac config.hashSecret data ≠ [])
    (lower : ∀ text : String, (∀ c ∈ text.toList, '0' ≤ c ∧ c ≤ '9' ∨ 'a' ≤ c ∧ c ≤ 'z') →
      toLowerCase text = text) :
    (∀ input url, createPaymentUrl hmac config input = some url →
      ∃ query decoded, url = config.paymentUrl ++ "?" ++ String.ofList query ∧
        FormUrl.parse query = some decoded ∧ (verifyCallback hmac sha256 toLowerCase config
          (decoded.map fun entry => (entry.1, QueryValue.text entry.2))).isValid = true) ∧
      ∀ query other, (query.map Prod.fst).Nodup → (other.map Prod.fst).Nodup →
        (verifyCallback hmac sha256 toLowerCase config query).isValid = true →
        (verifyCallback hmac sha256 toLowerCase config other).isValid = true →
        textOf "vnp_SecureHash" query = textOf "vnp_SecureHash" other →
        ∀ key : String, "vnp_".toList.isPrefixOf key.toList = true → isHashField key = false →
          textOf key query = textOf key other := by
  constructor
  · intro input url created
    unfold createPaymentUrl at created
    split_ifs at created with missing
    obtain ⟨-, missing⟩ := not_or.mp missing
    obtain ⟨-, configured⟩ := not_or.mp missing
    refine ⟨_, _, (Option.some.inj created).symm, parse_paymentQuery input, ?_⟩
    refine verifyCallback_signed (not_or.mp configured) (nodup_paymentParams input) ?_ ?_ ?_
    · exact List.mem_append_left _ (by simp)
    · intro empty
      exact digest _ (hexText_injective empty)
    · exact lower _ fun c member => lower_of_mem_hexText member
  · intro query other distinct otherDistinct valid otherValid sameHash key isVnp notHash
    exact textOf_eq_of_isValid injective distinct otherDistinct valid otherValid sameHash isVnp
      notHash

end Payment

section Sample

/-- A digest without collisions. -/
def sampleHmac (_ data : String) : List UInt8 := 1 :: FormUrl.bytes data

theorem sampleHmac_injective (secret : String) : Function.Injective (sampleHmac secret) := by
  intro first second same
  have content := FormUrl.ofBytes_bytes first
  rw [(List.cons.inj same).2, FormUrl.ofBytes_bytes] at content
  exact (Option.some.inj content).symm

theorem toLower_of_lower {text : String}
    (lower : ∀ c ∈ text.toList, '0' ≤ c ∧ c ≤ '9' ∨ 'a' ≤ c ∧ c ≤ 'z') : text.toLower = text := by
  have kept (c : Char) (isLower : '0' ≤ c ∧ c ≤ '9' ∨ 'a' ≤ c ∧ c ≤ 'z') : c.toLower = c := by
    refine dif_neg ?_
    rintro ⟨above, below⟩
    obtain ⟨-, digit⟩ | ⟨letter, -⟩ := isLower
    · exact absurd (UInt32.le_trans above digit) (by decide)
    · exact absurd (UInt32.le_trans letter below) (by decide)
  rw [← String.toList_inj]
  refine String.toList_map.trans ?_
  exact (List.map_congr_left fun c member => kept c (lower c member)).trans (List.map_id _)

def sampleConfig : VnpayConfig where
  paymentUrl := "https://pay"
  returnUrl := "https://shop/?a=1&b=2"
  tmnCode := "SHOP"
  hashSecret := "secret"

def samplePayment : VnpayPaymentUrlInput where
  amount := 7000000
  invoiceNumber := "INV-19700101-000001"
  merchantReference := "PA1"
  ipAddress := "::1"
  providerCreatedAt := 0
  expiresAt := 900000
  locale := .vn
  bankCode := none

/-- A callback with these fields and the hash of a paid amount. -/
def sampleCallback (fields : List (String × String)) : List (String × QueryValue) :=
  let hash := sign sampleHmac (String.ofList (toSignedQuery
    [("vnp_Amount", "7000000"), ("vnp_TmnCode", sampleConfig.tmnCode)])) sampleConfig.hashSecret
  (fields ++ [("vnp_SecureHash", hash)]).map fun entry => (entry.1, .text entry.2)

/-- The link of a payment, and two callbacks of the same hash in different orders, one of them with
a field that is not signed. -/
theorem verifyCallback_binds_sample : (∃ url query decoded,
    createPaymentUrl sampleHmac sampleConfig samplePayment = some url ∧
      url = sampleConfig.paymentUrl ++ "?" ++ String.ofList query ∧
      FormUrl.parse query = some decoded ∧
      (verifyCallback sampleHmac id String.toLower sampleConfig
        (decoded.map fun entry => (entry.1, QueryValue.text entry.2))).isValid = true) ∧
    textOf "vnp_Amount" (sampleCallback [("vnp_TmnCode", "SHOP"), ("vnp_Amount", "7000000")]) =
      textOf "vnp_Amount" (sampleCallback
        [("vnp_Amount", "7000000"), ("utm_source", "mail"), ("vnp_TmnCode", "SHOP")]) := by
  have created : createPaymentUrl sampleHmac sampleConfig samplePayment = some
      (sampleConfig.paymentUrl ++ "?" ++
        String.ofList (paymentQuery sampleHmac sampleConfig samplePayment)) := if_neg (by decide)
  obtain ⟨accepts, binds⟩ := @verifyCallback_binds _ sampleHmac _ id String.toLower sampleConfig
    (sampleHmac_injective _) (fun _ => nofun) fun _ => toLower_of_lower
  obtain ⟨query, decoded, parts⟩ := accepts samplePayment _ created
  refine ⟨⟨_, query, decoded, created, parts⟩, ?_⟩
  exact binds _ _ (by decide) (by decide) (by decide +kernel) (by decide +kernel)
    (by decide +kernel) "vnp_Amount" (by decide) (by decide)

end Sample

end VnpayService

end CoffeeShop
