import CoffeeShop.Logging.RedactionRuns

/-!
Values that differ only under sensitive keys have one redaction.
-/

namespace CoffeeShop.LogRedaction

open JsonText

variable {Number : Type} [LogRuntime Number] {n m : Nat}

mutual

/-- The values differ only in what is stored under sensitive keys, also inside documents. -/
inductive Alike (R : Fin n → Fin m → Prop) : LogValue Number n → LogValue Number m → Prop where
  | null : Alike R .null .null
  | boolean (value : Bool) : Alike R (.boolean value) (.boolean value)
  | scalar (value : Scalar Number) : Alike R (.leaf (.scalar value)) (.leaf (.scalar value))
  | string (text : Text) : Alike R (.string text) (.string text)
  | document {text other : Text} {document otherDocument : Redacted Number}
      (first : documentOf text = some document) (second : documentOf other = some otherDocument)
      (alike : Alike R (document.map .scalar) (otherDocument.map .scalar)) : Alike R (.string text) (.string other)
  | reference {address : Fin n} {other : Fin m} (related : R address other) :
      Alike R (.leaf (.reference address)) (.leaf (.reference other))
  | array {items : List (LogValue Number n)} {others : List (LogValue Number m)}
      (alike : AlikeItems R items others) : Alike R (.array items) (.array others)
  | object {members : List (Text × LogValue Number n)} {others : List (Text × LogValue Number m)}
      (alike : AlikeMembers R members others) : Alike R (.object members) (.object others)

inductive AlikeItems (R : Fin n → Fin m → Prop) :
    List (LogValue Number n) → List (LogValue Number m) → Prop where
  | nil : AlikeItems R [] []
  | cons {item : LogValue Number n} {other : LogValue Number m} {items : List (LogValue Number n)}
      {others : List (LogValue Number m)} (alike : Alike R item other)
      (rest : AlikeItems R items others) : AlikeItems R (item :: items) (other :: others)

inductive AlikeMembers (R : Fin n → Fin m → Prop) :
    List (Text × LogValue Number n) → List (Text × LogValue Number m) → Prop where
  | nil : AlikeMembers R [] []
  | hidden {key : Text} {value : LogValue Number n} {other : LogValue Number m}
      {members : List (Text × LogValue Number n)} {others : List (Text × LogValue Number m)}
      (sensitive : isSensitiveKey key = true) (rest : AlikeMembers R members others) :
      AlikeMembers R ((key, value) :: members) ((key, other) :: others)
  | shown {key : Text} {value : LogValue Number n} {other : LogValue Number m}
      {members : List (Text × LogValue Number n)} {others : List (Text × LogValue Number m)}
      (alike : Alike R value other) (rest : AlikeMembers R members others) :
      AlikeMembers R ((key, value) :: members) ((key, other) :: others)

end

inductive AlikeNode (R : Fin n → Fin m → Prop) : Node Number n → Node Number m → Prop where
  | array {items : List (LogValue Number n)} {others : List (LogValue Number m)}
      (alike : AlikeItems R items others) : AlikeNode R (.array items) (.array others)
  | object {members : List (Text × LogValue Number n)} {others : List (Text × LogValue Number m)}
      (alike : AlikeMembers R members others) : AlikeNode R (.object members) (.object others)
  | error {members : List (Text × LogValue Number n)} {others : List (Text × LogValue Number m)}
      {name message stack : LogValue Number n} {otherName otherMessage otherStack : LogValue Number m}
      (alike : AlikeMembers R members others) (names : Alike R name otherName)
      (messages : Alike R message otherMessage) (traces : Alike R stack otherStack) :
      AlikeNode R (.error members name message stack)
        (.error others otherName otherMessage otherStack)

/-- The heaps have the same nodes up to what is stored under sensitive keys. -/
structure AlikeHeaps (R : Fin n → Fin m → Prop) (heap : Heap Number n) (other : Heap Number m) :
    Prop where
  left : ∀ first second third, R first second → R first third → second = third
  right : ∀ first second third, R first third → R second third → first = second
  nodes : ∀ address otherAddress, R address otherAddress →
    AlikeNode R (heap address) (other otherAddress)

/-- The same nodes are visited. -/
def SeenAlike (R : Fin n → Fin m → Prop) (seen : Seen n) (other : Seen m) : Prop :=
  ∀ address otherAddress, R address otherAddress → (address ∈ seen ↔ otherAddress ∈ other)

/-- The fields have one key, and what they hold is alike unless the key is sensitive. -/
def AlikeField (R : Fin n → Fin m → Prop) (field : Field Number n) (other : Field Number m) : Prop :=
  field.1 = other.1 ∧ (field.1.any isSensitiveKey = true ∨ Alike R field.2 other.2)

variable {R : Fin n → Fin m → Prop} {heap : Heap Number n} {otherHeap : Heap Number m}

theorem AlikeItems.fields {items : List (LogValue Number n)} {others : List (LogValue Number m)}
    (alike : AlikeItems R items others) :
    List.Forall₂ (AlikeField R) (ofItems items) (ofItems others) := by
  induction items generalizing others with
  | nil =>
      cases alike
      exact .nil
  | cons item rest inductionHypothesis =>
      cases alike with
      | cons first rest => exact .cons ⟨rfl, .inr first⟩ (inductionHypothesis rest)

theorem AlikeMembers.fields {members : List (Text × LogValue Number n)}
    {others : List (Text × LogValue Number m)} (alike : AlikeMembers R members others) :
    List.Forall₂ (AlikeField R) (ofMembers members) (ofMembers others) := by
  induction members generalizing others with
  | nil =>
      cases alike
      exact .nil
  | cons member rest inductionHypothesis =>
      cases alike with
      | hidden sensitive rest => exact .cons ⟨rfl, .inl sensitive⟩ (inductionHypothesis rest)
      | shown first rest => exact .cons ⟨rfl, .inr first⟩ (inductionHypothesis rest)

theorem AlikeMembers.keys {members : List (Text × LogValue Number n)}
    {others : List (Text × LogValue Number m)} (alike : AlikeMembers R members others) :
    others.map Prod.fst = members.map Prod.fst := by
  induction members generalizing others with
  | nil =>
      cases alike
      rfl
  | cons member rest inductionHypothesis =>
      cases alike with
      | hidden sensitive rest => exact congrArg (_ :: ·) (inductionHypothesis rest)
      | shown first rest => exact congrArg (_ :: ·) (inductionHypothesis rest)

theorem AlikeMembers.assign {members : List (Text × LogValue Number n)}
    {others : List (Text × LogValue Number m)} {key : Text} {value : LogValue Number n}
    {other : LogValue Number m} (alike : AlikeMembers R members others)
    (values : Alike R value other) :
    AlikeMembers R (assign members key value) (assign others key other) := by
  induction members generalizing others with
  | nil =>
      cases alike
      exact .shown values .nil
  | cons member rest inductionHypothesis =>
      cases alike with
      | @hidden known _ _ _ _ sensitive rest =>
          by_cases same : known = key
          · simp only [JsonText.assign, same, if_true]
            exact .shown values rest
          · simp only [JsonText.assign, same, if_false]
            exact .hidden sensitive (inductionHypothesis rest)
      | @shown known _ _ _ _ first rest =>
          by_cases same : known = key
          · simp only [JsonText.assign, same, if_true]
            exact .shown values rest
          · simp only [JsonText.assign, same, if_false]
            exact .shown first (inductionHypothesis rest)

theorem AlikeMembers.spread {members : List (Text × LogValue Number n)}
    {others : List (Text × LogValue Number m)} {name message stack : LogValue Number n}
    {otherName otherMessage otherStack : LogValue Number m} (alike : AlikeMembers R members others)
    (names : Alike R name otherName) (messages : Alike R message otherMessage)
    (traces : Alike R stack otherStack) :
    AlikeMembers R (spread members name message stack)
      (spread others otherName otherMessage otherStack) :=
  ((alike.assign names).assign messages).assign traces

theorem SeenAlike.insert (heaps : AlikeHeaps R heap otherHeap) {seen : Seen n} {other : Seen m}
    {address : Fin n} {otherAddress : Fin m} (alike : SeenAlike R seen other)
    (related : R address otherAddress) :
    SeenAlike R (insert address seen) (insert otherAddress other) := by
  intro first second both
  rw [Finset.mem_insert, Finset.mem_insert, alike first second both]
  refine or_congr ⟨?_, ?_⟩ Iff.rfl
  · rintro rfl
    exact heaps.left _ _ _ both related
  · rintro rfl
    exact heaps.right _ _ _ both related

mutual

theorem alike_self : (document : Redacted Number) →
    Alike R (document.map .scalar) (document.map .scalar)
  | .null => .null
  | .boolean value => .boolean value
  | .string text => .string text
  | .array items => .array (alike_items items)
  | .object members => .object (alike_members members)
  | .leaf value => .scalar value

theorem alike_items : (items : List (Redacted Number)) →
    AlikeItems R (mapItems .scalar items) (mapItems .scalar items)
  | [] => .nil
  | item :: rest => .cons (alike_self item) (alike_items rest)

theorem alike_members : (members : List (Text × Redacted Number)) →
    AlikeMembers R (mapMembers .scalar members) (mapMembers .scalar members)
  | [] => .nil
  | (_, value) :: rest => .shown (alike_self value) (alike_members rest)

end

end CoffeeShop.LogRedaction
