import CoffeeShop.Logging.LogRedaction
import Mathlib.Algebra.Order.BigOperators.Group.List
import Mathlib.Algebra.Order.Group.Nat
import Mathlib.Data.Finset.Card
import Mathlib.Data.Finset.Lattice.Basic

/-!
Runs of the redaction: what one call does, and that every run ends on a stack that is large enough.

Where no call overflows, the catch around the documents does nothing.
-/

namespace CoffeeShop.LogRedaction

open JsonText

variable {Number : Type} {n : Nat}

section VisitAll

variable {visit other : Field Number n → Seen n → Option (Redacted Number × Seen n)}
  {fields rest : List (Field Number n)} {field : Field Number n} {seen after : Seen n}
  {results : List (Redacted Number)}

@[simp] theorem visitAll_nil :
    visitAll visit [] seen = some (results, after) ↔ results = [] ∧ after = seen := by
  simp [visitAll, eq_comm]

@[simp] theorem visitAll_cons :
    visitAll visit (field :: rest) seen = some (results, after) ↔
      ∃ result middle others, visit field seen = some (result, middle) ∧
        visitAll visit rest middle = some (others, after) ∧ results = result :: others := by
  simp only [visitAll, Option.bind_eq_bind, Option.bind_eq_some_iff, Option.some.injEq,
    Prod.mk.injEq, Prod.exists]
  constructor
  · rintro ⟨result, middle, first, others, last, more, rfl, rfl⟩
    exact ⟨result, middle, others, first, more, rfl⟩
  · rintro ⟨result, middle, others, first, more, rfl⟩
    exact ⟨result, middle, first, others, after, more, rfl, rfl⟩

theorem visitAll_mono
    (mono : ∀ field seen out, visit field seen = some out → other field seen = some out)
    (ran : visitAll visit fields seen = some (results, after)) :
    visitAll other fields seen = some (results, after) := by
  induction fields generalizing seen results with
  | nil => exact visitAll_nil.mpr (visitAll_nil.mp ran)
  | cons field rest inductionHypothesis =>
      obtain ⟨result, middle, others, first, more, rfl⟩ := visitAll_cons.mp ran
      exact visitAll_cons.mpr
        ⟨result, middle, others, mono field seen _ first, inductionHypothesis more, rfl⟩

end VisitAll

/-- Null, booleans, numbers and undefined stay as they are. -/
def atom? : LogValue Number n → Option (Redacted Number)
  | .null => some .null
  | .boolean value => some (.boolean value)
  | .leaf (.scalar value) => some (.leaf value)
  | _ => none

/-- The parts of a value that a visit opens, with the nodes that are then visited. -/
inductive Opens (heap : Heap Number n) :
    LogValue Number n → Seen n → List (Field Number n) → Seen n →
      (List (Redacted Number) → Redacted Number) → Prop where
  | array (items : List (LogValue Number n)) (seen : Seen n) :
      Opens heap (.array items) seen (ofItems items) seen .array
  | object (members : List (Text × LogValue Number n)) (seen : Seen n) :
      Opens heap (.object members) seen (ofMembers members) seen
        fun results => .object (withKeys members results)
  | arrayNode {address : Fin n} {items : List (LogValue Number n)} {seen : Seen n}
      (new : address ∉ seen) (node : heap address = .array items) :
      Opens heap (.leaf (.reference address)) seen (ofItems items) (insert address seen) .array
  | objectNode {address : Fin n} {members : List (Text × LogValue Number n)} {seen : Seen n}
      (new : address ∉ seen) (node : heap address = .object members) :
      Opens heap (.leaf (.reference address)) seen (ofMembers members) (insert address seen)
        fun results => .object (withKeys members results)

variable [LogRuntime Number]

/-- The document that a string is, if it is one. -/
def documentOf (text : Text) : Option (Redacted Number) :=
  if startsDocument text then parseDocument text else none

/-- What a call does whose calls do not overflow. -/
inductive Outcome (heap : Heap Number n)
    (visit : Field Number n → Seen n → Option (Redacted Number × Seen n)) (key : Option Text) :
    LogValue Number n → Seen n → Redacted Number → Seen n → Prop where
  | sensitive {value : LogValue Number n} {seen : Seen n}
      (sensitive : key.any isSensitiveKey = true) :
      Outcome heap visit key value seen redactedMark seen
  | atom {value : LogValue Number n} {seen : Seen n} {result : Redacted Number}
      (plain : key.any isSensitiveKey = false) (same : atom? value = some result) :
      Outcome heap visit key value seen result seen
  | text {text : Text} {seen : Seen n} (plain : key.any isSensitiveKey = false)
      (other : (documentOf text : Option (Redacted Number)) = none) :
      Outcome heap visit key (.string text) seen (.string (LogRuntime.redactText Number text)) seen
  | document {text : Text} {document : Redacted Number} {seen after : Seen n}
      {result : Redacted Number} (plain : key.any isSensitiveKey = false)
      (parsed : documentOf text = some document)
      (ran : visit (none, document.map .scalar) seen = some (result, after)) :
      Outcome heap visit key (.string text) seen
        (.string ((stringify scalarText result).getD [])) after
  | circular {address : Fin n} {seen : Seen n} (plain : key.any isSensitiveKey = false)
      (visited : address ∈ seen) :
      Outcome heap visit key (.leaf (.reference address)) seen circularMark seen
  | error {address : Fin n} {members : List (Text × LogValue Number n)}
      {name message stack : LogValue Number n} {seen after : Seen n} {result : Redacted Number}
      (plain : key.any isSensitiveKey = false) (new : address ∉ seen)
      (node : heap address = .error members name message stack)
      (ran : visit (none, .object (spread members name message stack)) (insert address seen) =
        some (result, after)) :
      Outcome heap visit key (.leaf (.reference address)) seen result after
  | opened {value : LogValue Number n} {seen inner after : Seen n}
      {fields : List (Field Number n)} {build : List (Redacted Number) → Redacted Number}
      {results : List (Redacted Number)} (plain : key.any isSensitiveKey = false)
      (opens : Opens heap value seen fields inner build)
      (ran : visitAll visit fields inner = some (results, after)) :
      Outcome heap visit key value seen (build results) after

variable {heap : Heap Number n} {fuel : Nat} {key : Option Text} {value : LogValue Number n}
  {seen after : Seen n} {result : Redacted Number} {overflow : Text → Option (Redacted Number)}

/-- Calls that do more lead to the same outcome. -/
theorem Outcome.mono {visit other : Field Number n → Seen n → Option (Redacted Number × Seen n)}
    (mono : ∀ field seen out, visit field seen = some out → other field seen = some out)
    (outcome : Outcome heap visit key value seen result after) :
    Outcome heap other key value seen result after := by
  cases outcome with
  | sensitive sensitive => exact .sensitive sensitive
  | atom plain same => exact .atom plain same
  | text plain other => exact .text plain other
  | document plain parsed ran => exact .document plain parsed (mono _ _ _ ran)
  | circular plain visited => exact .circular plain visited
  | error plain new node ran => exact .error plain new node (mono _ _ _ ran)
  | opened plain opens ran => exact .opened plain opens (visitAll_mono mono ran)

theorem redact_cases (ran : redact heap (fuel + 1) (key, value) seen = some (result, after)) :
    Outcome heap (redact heap fuel) key value seen result after := by
  unfold redact redactWith at ran
  by_cases sensitive : key.any isSensitiveKey = true
  · rw [if_pos sensitive] at ran
    obtain ⟨rfl, rfl⟩ := Prod.mk.inj (Option.some.inj ran)
    exact .sensitive sensitive
  · rw [if_neg sensitive] at ran
    have plain : key.any isSensitiveKey = false := Bool.eq_false_iff.mpr sensitive
    cases value with
    | null =>
        obtain ⟨rfl, rfl⟩ := Prod.mk.inj (Option.some.inj ran)
        exact .atom plain rfl
    | boolean value =>
        obtain ⟨rfl, rfl⟩ := Prod.mk.inj (Option.some.inj ran)
        exact .atom plain rfl
    | string text =>
        dsimp only at ran
        split at ran
        · next document parsed =>
            split at ran
            · next inner last visited =>
                obtain ⟨rfl, rfl⟩ := Prod.mk.inj (Option.some.inj ran)
                exact .document plain parsed visited
            · exact nomatch ran
        · next parsed =>
            obtain ⟨rfl, rfl⟩ := Prod.mk.inj (Option.some.inj ran)
            exact .text plain parsed
    | array items =>
        simp only [Option.bind_eq_bind, Option.bind_eq_some_iff, Option.some.injEq,
          Prod.mk.injEq, Prod.exists] at ran
        obtain ⟨results, last, ran, rfl, rfl⟩ := ran
        exact .opened plain (.array items seen) ran
    | object members =>
        simp only [Option.bind_eq_bind, Option.bind_eq_some_iff, Option.some.injEq,
          Prod.mk.injEq, Prod.exists] at ran
        obtain ⟨results, last, ran, rfl, rfl⟩ := ran
        exact .opened plain (.object members seen) ran
    | leaf leaf =>
        cases leaf with
        | scalar value =>
            obtain ⟨rfl, rfl⟩ := Prod.mk.inj (Option.some.inj ran)
            exact .atom plain rfl
        | reference address =>
            dsimp only at ran
            by_cases visited : address ∈ seen
            · rw [if_pos visited] at ran
              obtain ⟨rfl, rfl⟩ := Prod.mk.inj (Option.some.inj ran)
              exact .circular plain visited
            · rw [if_neg visited] at ran
              cases node : heap address with
              | array items =>
                  simp only [node, Option.bind_eq_bind, Option.bind_eq_some_iff,
                    Option.some.injEq, Prod.mk.injEq, Prod.exists] at ran
                  obtain ⟨results, last, ran, rfl, rfl⟩ := ran
                  exact .opened plain (.arrayNode visited node) ran
              | object members =>
                  simp only [node, Option.bind_eq_bind, Option.bind_eq_some_iff,
                    Option.some.injEq, Prod.mk.injEq, Prod.exists] at ran
                  obtain ⟨results, last, ran, rfl, rfl⟩ := ran
                  exact .opened plain (.objectNode visited node) ran
              | error members name message stack =>
                  simp only [node] at ran
                  exact .error plain visited node ran

theorem redact_of_outcome
    (outcome : Outcome heap (redactWith overflow heap fuel) key value seen result after) :
    redactWith overflow heap (fuel + 1) (key, value) seen = some (result, after) := by
  unfold redactWith
  cases outcome with
  | sensitive sensitive => rw [if_pos sensitive]
  | atom plain same =>
      rw [if_neg (Bool.eq_false_iff.mp plain)]
      unfold atom? at same
      split at same
      · obtain rfl := Option.some.inj same
        rfl
      · obtain rfl := Option.some.inj same
        rfl
      · obtain rfl := Option.some.inj same
        rfl
      · exact nomatch same
  | @text text seen plain other =>
      have parsed : (if startsDocument text then parseDocument text else none) =
        (none : Option (Redacted Number)) := other
      rw [if_neg (Bool.eq_false_iff.mp plain)]
      simp only [parsed]
  | @document text document seen after result plain parsed ran =>
      have isDocument : (if startsDocument text then parseDocument text else none) =
        some document := parsed
      rw [if_neg (Bool.eq_false_iff.mp plain)]
      simp only [isDocument, ran]
  | circular plain visited =>
      rw [if_neg (Bool.eq_false_iff.mp plain)]
      simp only [if_pos visited]
  | error plain new node ran =>
      rw [if_neg (Bool.eq_false_iff.mp plain)]
      simp only [if_neg new, node, ran]
  | opened plain opens ran =>
      rw [if_neg (Bool.eq_false_iff.mp plain)]
      cases opens with
      | array items => simp only [ran, Option.bind_eq_bind, Option.bind_some]
      | object members => simp only [ran, Option.bind_eq_bind, Option.bind_some]
      | arrayNode new node =>
          simp only [if_neg new, node, ran, Option.bind_eq_bind, Option.bind_some]
      | objectNode new node =>
          simp only [if_neg new, node, ran, Option.bind_eq_bind, Option.bind_some]

/-- Where no call overflows, it does not matter what would become of the documents. -/
theorem redactWith_of_redact {field : Field Number n} {out : Redacted Number × Seen n}
    (ran : redact heap fuel field seen = some out) :
    redactWith overflow heap fuel field seen = some out := by
  induction fuel generalizing field seen out with
  | zero => exact nomatch ran
  | succ fuel inductionHypothesis =>
      exact redact_of_outcome ((redact_cases ran).mono fun _ _ _ first => inductionHypothesis first)

omit [LogRuntime Number] in
theorem Opens.grows {inner : Seen n} {fields : List (Field Number n)}
    {build : List (Redacted Number) → Redacted Number}
    (opens : Opens heap value seen fields inner build) : seen ⊆ inner := by
  cases opens with
  | array items => exact subset_rfl
  | object members => exact subset_rfl
  | arrayNode new node => exact Finset.subset_insert _ _
  | objectNode new node => exact Finset.subset_insert _ _

section Depth

omit [LogRuntime Number] in
theorem foldlM_eq_visitAll {visit : Field Number n → Seen n → Option (Redacted Number × Seen n)}
    (fields : List (Field Number n)) (seen : Seen n) :
    fields.foldlM (fun seen field => (visit field seen).map Prod.snd) seen =
      (visitAll visit fields seen).map Prod.snd := by
  induction fields generalizing seen with
  | nil => rfl
  | cons field rest inductionHypothesis =>
      rw [List.foldlM_cons, visitAll]
      cases visit field seen with
      | none => rfl
      | some out =>
          change List.foldlM _ out.2 rest = _
          rw [inductionHypothesis]
          cases ran : visitAll visit rest out.2 with
          | none => simp [ran]
          | some others => simp [ran]

/-- A redaction that overflows nowhere visits what is counted for it. -/
theorem visits_eq (depth : Nat) (field : Field Number n) (seen : Seen n) :
    visits heap depth field seen = (redact heap depth field seen).map Prod.snd := by
  induction depth generalizing field seen with
  | zero => rfl
  | succ depth inductionHypothesis =>
      obtain ⟨key, value⟩ := field
      have same : (fun seen field => visits heap depth field seen) =
          fun (seen : Seen n) (field : Field Number n) =>
            (redact heap depth field seen).map Prod.snd := by
        funext seen field
        exact inductionHypothesis field seen
      have all (fields : List (Field Number n)) (inner : Seen n)
          (build : List (Redacted Number) → Redacted Number) :
          (visitAll (redact heap depth) fields inner).map Prod.snd =
            ((visitAll (redact heap depth) fields inner).bind fun out =>
              some (build out.1, out.2)).map Prod.snd := by
        cases visitAll (redact heap depth) fields inner with
        | none => rfl
        | some out => rfl
      unfold visits redact redactWith
      by_cases sensitive : key.any isSensitiveKey = true
      · rw [if_pos sensitive, if_pos sensitive]
        rfl
      · rw [if_neg sensitive, if_neg sensitive]
        dsimp only
        rw [same, foldlM_eq_visitAll]
        -- a call for one field, such as the one for a parsed document
        have single (field : Field Number n) (inner : Seen n) :
            (visitAll (redact heap depth) [field] inner).map Prod.snd =
              (redact heap depth field inner).map Prod.snd := by
          simp only [visitAll]
          cases redact heap depth field inner with
          | none => rfl
          | some out => rfl
        cases value with
        | null => rfl
        | boolean value => rfl
        | string text =>
            cases parsed : (if startsDocument text then parseDocument text else none :
                Option (Redacted Number)) with
            | none =>
                simp only [callsOf, parsed]
                rfl
            | some document =>
                simp only [callsOf, parsed, single]
                cases ran : redact heap depth (none, document.map .scalar) seen with
                | none => simp [ran]
                | some out => simp [ran]
        | array items => exact all _ _ .array
        | object members => exact all _ _ fun results => .object (withKeys members results)
        | leaf leaf =>
            cases leaf with
            | scalar value => rfl
            | reference address =>
                by_cases visited : address ∈ seen
                · simp only [callsOf, if_pos visited]
                  rfl
                · simp only [callsOf, if_neg visited]
                  cases node : heap address with
                  | array items => exact all _ _ .array
                  | object members => exact all _ _ fun results => .object (withKeys members results)
                  | error members name message trace => exact single _ _

end Depth

end CoffeeShop.LogRedaction
