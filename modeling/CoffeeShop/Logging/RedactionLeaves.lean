import CoffeeShop.Logging.RedactionSecrecy

/-!
Leaves of logged values: one is kept unless its node was visited on another path.
-/

namespace CoffeeShop.LogRedaction

open JsonText

variable {Number : Type} {n : Nat}

/-- The position of a part and its key, which an item does not have. -/
abbrev Path := List (Nat × Option Text)

/-- The parts of a value. -/
def contentsOf (heap : Heap Number n) : LogValue Number n → List (Field Number n)
  | .array items => ofItems items
  | .object members => ofMembers members
  | .leaf (.reference address) =>
      match heap address with
      | .array items => ofItems items
      | .object members => ofMembers members
      | .error members name message stack => ofMembers (spread members name message stack)
  | _ => []

/-- A path of keys that are not sensitive leads from one value to the other. -/
inductive Reaches (heap : Heap Number n) : LogValue Number n → Path → LogValue Number n → Prop where
  | here (value : LogValue Number n) : Reaches heap value [] value
  | part {value part target : LogValue Number n} {i : Nat} {key : Option Text} {path : Path}
      (found : (contentsOf heap value)[i]? = some (key, part))
      (plain : key.any isSensitiveKey = false) (reaches : Reaches heap part path target) :
      Reaches heap value ((i, key) :: path) target

/-- Numbers, booleans and null. -/
def leaf? : LogValue Number n → Option (Redacted Number)
  | .null => some .null
  | .boolean value => some (.boolean value)
  | .leaf (.scalar (.number value)) => some (.leaf (.number value))
  | _ => none

/-- The parts of a result. -/
def partsOf : Redacted Number → List (Option Text × Redacted Number)
  | .array items => items.map fun item => (none, item)
  | .object members => members.map fun member => (some member.1, member.2)
  | _ => []

/-- What a result has at the path. -/
def get : Redacted Number → Path → Option (Redacted Number)
  | result, [] => some result
  | result, (i, key) :: path =>
      match (partsOf result)[i]? with
      | some (found, part) => if found = key then get part path else none
      | none => none

/-- Every leaf is at its path. -/
def LeavesKept (heap : Heap Number n) (value : LogValue Number n) (result : Redacted Number) : Prop :=
  ∀ path target leaf, Reaches heap value path target → leaf? target = some leaf →
    get result path = some leaf

theorem Reaches.append {heap : Heap Number n} {value middle target : LogValue Number n}
    {first second : Path} (reaches : Reaches heap value first middle)
    (later : Reaches heap middle second target) : Reaches heap value (first ++ second) target := by
  induction reaches with
  | here value => exact later
  | part found plain _ inductionHypothesis => exact .part found plain (inductionHypothesis later)

/-- The contents of what a visit opens, and what their results become. -/
structure Opened (heap : Heap Number n) (value : LogValue Number n) (seen inner : Seen n)
    (fields : List (Field Number n)) (build : List (Redacted Number) → Redacted Number) : Prop where
  contents : contentsOf heap value = fields
  parts : ∀ results : List (Redacted Number), results.length = fields.length →
    partsOf (build results) = (fields.map Prod.fst).zip results
  noLeaf : leaf? value = none
  node : ∀ address, value = .leaf (.reference address) → address ∉ seen
  visited : ∀ address, address ∈ inner →
    address ∈ seen ∨ value = .leaf (.reference address)
  visits : ∀ address, value = .leaf (.reference address) → address ∈ inner

theorem partsOf_array (items : List (LogValue Number n)) (results : List (Redacted Number))
    (length : results.length = (ofItems items).length) :
    partsOf (.array results) = ((ofItems items).map Prod.fst).zip results := by
  rw [ofItems, List.length_map] at length
  rw [partsOf, ofItems, List.map_map]
  induction items generalizing results with
  | nil =>
      rw [List.eq_nil_of_length_eq_zero length]
      rfl
  | cons item rest inductionHypothesis =>
      cases results with
      | nil => exact nomatch length
      | cons result results =>
          rw [List.map_cons, List.map_cons, List.zip_cons_cons,
            inductionHypothesis results (Nat.succ.inj length)]
          rfl

theorem partsOf_object (members : List (Text × LogValue Number n))
    (results : List (Redacted Number)) (length : results.length = (ofMembers members).length) :
    partsOf (.object (withKeys members results)) =
      ((ofMembers members).map Prod.fst).zip results := by
  rw [ofMembers, List.length_map] at length
  rw [partsOf, withKeys, ofMembers, List.map_map]
  induction members generalizing results with
  | nil => rfl
  | cons member rest inductionHypothesis =>
      cases results with
      | nil => exact nomatch length
      | cons result results =>
          rw [List.map_cons, List.zip_cons_cons, List.map_cons, List.map_cons, List.zip_cons_cons,
            inductionHypothesis results (Nat.succ.inj length)]
          rfl

theorem Opens.opened {heap : Heap Number n} {value : LogValue Number n} {seen inner : Seen n}
    {fields : List (Field Number n)} {build : List (Redacted Number) → Redacted Number}
    (opens : Opens heap value seen fields inner build) :
    Opened heap value seen inner fields build := by
  cases opens with
  | array items =>
      exact ⟨rfl, partsOf_array items, rfl, nofun, fun _ => .inl, nofun⟩
  | object members =>
      exact ⟨rfl, partsOf_object members, rfl, nofun, fun _ => .inl, nofun⟩
  | @arrayNode address items _ new node =>
      refine ⟨by rw [contentsOf, node], partsOf_array items, rfl, ?_, ?_, ?_⟩
      · rintro other ⟨⟩
        exact new
      · intro other member
        obtain rfl | old := Finset.mem_insert.mp member
        · exact .inr rfl
        · exact .inl old
      · rintro other ⟨⟩
        exact Finset.mem_insert_self _ _
  | @objectNode address members _ new node =>
      refine ⟨by rw [contentsOf, node], partsOf_object members, rfl, ?_, ?_, ?_⟩
      · rintro other ⟨⟩
        exact new
      · intro other member
        obtain rfl | old := Finset.mem_insert.mp member
        · exact .inr rfl
        · exact .inl old
      · rintro other ⟨⟩
        exact Finset.mem_insert_self _ _

section VisitAt

variable {visit : Field Number n → Seen n → Option (Redacted Number × Seen n)}
  {fields : List (Field Number n)} {seen after : Seen n} {results : List (Redacted Number)}

end VisitAt

variable [LogRuntime Number] {heap : Heap Number n} {fuel : Nat} {key : Option Text}
  {value target : LogValue Number n} {seen after : Seen n} {result leaf : Redacted Number}
  {path : Path} {address : Fin n}

omit [LogRuntime Number] in
theorem Reaches.error {members : List (Text × LogValue Number n)}
    {name message stack : LogValue Number n} (node : heap address = .error members name message stack)
    (reaches : Reaches heap (.object (spread members name message stack)) path target)
    (inside : path ≠ []) : Reaches heap (.leaf (.reference address)) path target := by
  cases reaches with
  | here => exact absurd rfl inside
  | part found plain later =>
      refine .part ?_ plain later
      rwa [contentsOf, node]

omit [LogRuntime Number] in
theorem part_of_document {document : Redacted Number} {field : Field Number n}
    (member : field ∈ contentsOf heap (document.map .scalar)) :
    ∃ part : Redacted Number, field.2 = part.map .scalar := by
  cases document with
  | array items =>
      rw [Value.map, mapItems_eq] at member
      obtain ⟨value, inItems, rfl⟩ := List.mem_map.mp member
      obtain ⟨item, -, rfl⟩ := List.mem_map.mp inItems
      exact ⟨item, rfl⟩
  | object members =>
      rw [Value.map, mapMembers_eq] at member
      obtain ⟨value, inMembers, rfl⟩ := List.mem_map.mp member
      obtain ⟨item, -, rfl⟩ := List.mem_map.mp inMembers
      exact ⟨item.2, rfl⟩
  | _ => exact absurd member List.not_mem_nil

omit [LogRuntime Number] in
/-- A parsed document has no references. -/
theorem Reaches.document {value : LogValue Number n} (reaches : Reaches heap value path target)
    {document : Redacted Number} (parsed : value = document.map .scalar) :
    target ≠ .leaf (.reference address) := by
  induction reaches generalizing document with
  | here value =>
      rw [parsed]
      cases document <;> exact nofun
  | part found plain later inductionHypothesis =>
      obtain ⟨part, same⟩ := part_of_document (parsed ▸ List.mem_of_getElem? found)
      exact inductionHypothesis same

/-- The part is among the contents of the value, whatever its key. -/
def PartOf (heap : Heap Number n) (part value : LogValue Number n) : Prop :=
  ∃ key, (key, part) ∈ contentsOf heap value

/-- No object is inside itself. -/
def Acyclic (heap : Heap Number n) (value : LogValue Number n) : Prop :=
  ∀ address, Relation.ReflTransGen (PartOf heap) (.leaf (.reference address)) value →
    ¬Relation.TransGen (PartOf heap) (.leaf (.reference address)) (.leaf (.reference address))

/-- The redaction returns, shows nothing that is stored under sensitive keys and keeps all leaves of a
value without cycles. -/
structure Complete (heap : Heap Number n) (stack : Nat) (value : LogValue Number n) : Prop where
  returns : ∀ key, ∃ result, redactLogValue heap stack (key, value) = some result
  hides : ∀ ⦃m : Nat⦄ ⦃R : Fin n → Fin m → Prop⦄ ⦃other : Heap Number m⦄ ⦃otherValue⦄,
    AlikeHeaps R heap other → Alike R value otherValue →
      redactLogValue other stack (none, otherValue) = redactLogValue heap stack (none, value)
  keeps : Acyclic heap value → ∀ result, redactLogValue heap stack (none, value) = some result →
    LeavesKept heap value result

theorem redactLogValue_of_redact {stack : Nat} {field : Field Number n}
    (ran : redact heap stack field ∅ = some (result, after)) :
    redactLogValue heap stack field = some result := by
  rw [redactLogValue, redactWith_of_redact ran]
  rfl

theorem Fits.redact {stack : Nat} (fits : Fits heap stack value) :
    ∃ result after, redact heap stack (none, value) ∅ = some (result, after) := by
  unfold Fits at fits
  rw [visits_eq, Option.isSome_map] at fits
  obtain ⟨⟨result, after⟩, ran⟩ := Option.isSome_iff_exists.mp fits
  exact ⟨result, after, ran⟩

/-- The key of the outermost call decides only whether it hides the value. -/
theorem Fits.returns {stack : Nat} (fits : Fits heap stack value) (key : Option Text) :
    ∃ result, redactLogValue heap stack (key, value) = some result := by
  obtain ⟨result, after, ran⟩ := fits.redact
  cases stack with
  | zero => exact nomatch ran
  | succ stack =>
      by_cases sensitive : key.any isSensitiveKey = true
      · exact ⟨_, redactLogValue_of_redact (redact_of_outcome (.sensitive sensitive))⟩
      · have plain := redactLogValue_of_redact ran
        refine ⟨result, ?_⟩
        unfold redactLogValue redactWith at plain ⊢
        rw [if_neg sensitive]
        exact plain

end CoffeeShop.LogRedaction
