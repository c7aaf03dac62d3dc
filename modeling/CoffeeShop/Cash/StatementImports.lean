import CoffeeShop.Cash.StatementSteps
import CoffeeShop.Library.DecimalText
import CoffeeShop.Library.IsoTime

/-!
The identity of an imported bank statement.

The checksum determines the statement up to the order of its entries and the case of its
references.  It does not depend on the order as long as the collation tells the ids of
the entries apart, nor on the case as long as the forms of a character have one upper case.
Whatever the checksum does, the ids themselves keep a statement from being imported twice.
-/

namespace CoffeeShop

open Transaction BankStore BankReconciliation DecimalText Calendar

def BankStatementEntryDirection.text : BankStatementEntryDirection → String
  | .credit => "CREDIT"
  | .debit => "DEBIT"

theorem BankStatementEntryDirection.text_injective :
    Function.Injective BankStatementEntryDirection.text := by
  intro first second same
  cases first <;> cases second <;> first | rfl | exact absurd same (by decide)

def textOrNull (text : Option String) : Json := text.elim .null .str

theorem textOrNull_injective : Function.Injective textOrNull := by
  intro first second same
  cases first with
  | none =>
      cases second with
      | none => rfl
      | some other => exact nomatch same
  | some text =>
      cases second with
      | none => exact nomatch same
      | some other => exact congrArg some (Json.str.inj same)

/-- An entry of `canonicalEntries`. -/
def BankStatementEntryInput.json (entry : BankStatementEntryInput) : Json :=
  .obj [
    ("externalId", .str entry.externalId),
    ("direction", .str entry.direction.text),
    ("amount", .str (toFixed entry.amount)),
    ("transactionDate", .str (toISOString entry.transactionDate)),
    ("bankReference", textOrNull entry.bankReference),
    ("description", textOrNull entry.description)]

/-- The object that `createChecksum` hashes. -/
def StatementContent.json (content : StatementContent) : Json :=
  .obj [
    ("fundId", .str (toString content.fundId)),
    ("statementFrom", .str (toISOString content.statementFrom)),
    ("statementTo", .str (toISOString content.statementTo)),
    ("entries", .arr (content.entries.map BankStatementEntryInput.json))]

theorem BankStatementEntryInput.json_injective :
    Function.Injective BankStatementEntryInput.json := by
  rintro ⟨id, direction, amount, date, reference, description⟩
    ⟨otherId, otherDirection, otherAmount, otherDate, otherReference, otherDescription⟩ same
  simp only [json, Json.obj.injEq, List.cons.injEq, Prod.mk.injEq, true_and, and_true,
    Json.str.injEq] at same
  obtain ⟨rfl, directions, amounts, dates, references, descriptions⟩ := same
  rw [BankStatementEntryDirection.text_injective directions,
    Subtype.ext (toFixed_injective amounts), toISOString_injective dates,
    textOrNull_injective references, textOrNull_injective descriptions]

theorem StatementContent.json_injective : Function.Injective StatementContent.json := by
  rintro ⟨fund, start, finish, entries⟩ ⟨otherFund, otherStart, otherFinish, others⟩ same
  simp only [json, Json.obj.injEq, List.cons.injEq, Prod.mk.injEq, true_and, and_true,
    Json.str.injEq, Json.arr.injEq] at same
  obtain ⟨funds, starts, finishes, lists⟩ := same
  rw [toString_injective funds, toISOString_injective starts, toISOString_injective finishes,
    BankStatementEntryInput.json_injective.list_map lists]

namespace BankReconciliation

/-- `createChecksum`, with the hash of the text as a parameter. -/
def createChecksum (sha256 : List Char → String) (content : StatementContent) : String :=
  sha256 (Json.stringify content.json)

theorem createChecksum_injective {sha256 : List Char → String}
    (injective : Function.Injective sha256) : Function.Injective (createChecksum sha256) :=
  fun _ _ same => StatementContent.json_injective (Json.stringify_injective (injective same))

/-- The checksum of `importIdentity`, unless the statement repeats an id. -/
def checksumOf [UnicodeTables] (sha256 : List Char → String)
    (input : CreateBankStatementImportInput) : Option String :=
  if ((input.entries.map normalize).map (·.externalId)).Nodup then
    some (createChecksum sha256 (contentOf input))
  else none

end BankReconciliation

section Identity

/-- The same statement with its entries in another order. -/
structure CreateBankStatementImportInput.Reorders (input other : CreateBankStatementImportInput) :
    Prop where
  fundId : other.fundId = input.fundId
  statementFrom : other.statementFrom = input.statementFrom
  statementTo : other.statementTo = input.statementTo
  entries : other.entries.Perm input.entries

/-- The same entry with its references in another case. -/
structure BankStatementEntryInput.Recases [UnicodeTables] (entry other : BankStatementEntryInput) :
    Prop where
  externalId : UnicodeTables.Recases entry.externalId other.externalId
  bankReference : Option.Rel UnicodeTables.Recases entry.bankReference other.bankReference
  direction : other.direction = entry.direction
  amount : other.amount = entry.amount
  transactionDate : other.transactionDate = entry.transactionDate
  description : other.description = entry.description

/-- The same statement with references in another case. -/
structure CreateBankStatementImportInput.Recases [UnicodeTables]
    (input other : CreateBankStatementImportInput) : Prop where
  fundId : other.fundId = input.fundId
  statementFrom : other.statementFrom = input.statementFrom
  statementTo : other.statementTo = input.statementTo
  entries : List.Forall₂ BankStatementEntryInput.Recases input.entries other.entries

/-- The collation tells the ids apart, which do not repeat. -/
def CreateBankStatementImportInput.Distinguishable [UnicodeTables]
    (input : CreateBankStatementImportInput) : Prop :=
  ((input.entries.map normalize).map (·.externalId)).Nodup →
    ((input.entries.map normalize).map (·.externalId)).Pairwise fun left right =>
      ¬(UnicodeTables.localeLe left right = true ∧ UnicodeTables.localeLe right left = true)

def BankStatementEntryInput.CaseStable [UnicodeTables] (entry : BankStatementEntryInput) : Prop :=
  UnicodeTables.CaseStable entry.externalId ∧
    ∀ reference ∈ entry.bankReference, UnicodeTables.CaseStable reference

/-- Upper case undoes a change of case in the references, whose ids do not repeat. -/
def CreateBankStatementImportInput.CaseStable [UnicodeTables]
    (input : CreateBankStatementImportInput) : Prop :=
  ((input.entries.map normalize).map (·.externalId)).Nodup →
    ∀ entry ∈ input.entries, entry.CaseStable

variable [UnicodeTables] {sha256 : List Char → String} {input other : CreateBankStatementImportInput}

instance : Std.Total fun left right : BankStatementEntryInput =>
    UnicodeTables.localeLe left.externalId right.externalId = true :=
  ⟨fun left right => UnicodeTables.total left.externalId right.externalId⟩

instance : IsTrans BankStatementEntryInput fun left right =>
    UnicodeTables.localeLe left.externalId right.externalId = true :=
  ⟨fun first second third => UnicodeTables.trans first.externalId second.externalId
    third.externalId⟩

theorem checksumOf_eq_some {checksum : String} :
    checksumOf sha256 input = some checksum ↔
      ((input.entries.map normalize).map (·.externalId)).Nodup ∧
        createChecksum sha256 (contentOf input) = checksum := by
  unfold checksumOf
  split
  · next unique =>
      rw [Option.some.injEq]
      exact ⟨fun same => ⟨unique, same⟩, And.right⟩
  · next repeated => exact ⟨nofun, fun stated => absurd stated.1 repeated⟩

theorem CreateBankStatementImportInput.Reorders.uniqueIds (reorders : input.Reorders other) :
    ((other.entries.map normalize).map (·.externalId)).Nodup ↔
      ((input.entries.map normalize).map (·.externalId)).Nodup :=
  ((reorders.entries.map _).map _).nodup_iff

/-- Without ties, the order of the entries does not matter. -/
theorem contentOf_reorders (reorders : input.Reorders other)
    (unique : ((input.entries.map normalize).map (·.externalId)).Nodup)
    (distinguishable : input.Distinguishable) : contentOf other = contentOf input := by
  have apart := List.pairwise_map.mp (distinguishable unique)
  simp only [contentOf, canonicalEntries, reorders.fundId, reorders.statementFrom,
    reorders.statementTo, StatementContent.mk.injEq, true_and]
  exact List.insertionSort_eq_of_perm apart (reorders.entries.map normalize)

/-- The checksum does not depend on the order exactly when there are no ties. -/
theorem checksumOf_reorders_iff (injective : Function.Injective sha256) :
    (∀ other, input.Reorders other → checksumOf sha256 other = checksumOf sha256 input) ↔
      input.Distinguishable := by
  constructor
  · intro same unique
    rw [List.pairwise_map, List.pairwise_iff_forall_sublist]
    intro first second sublist tied
    have reversed : input.Reorders { input with entries := input.entries.reverse } :=
      ⟨rfl, rfl, rfl, List.reverse_perm input.entries⟩
    have checksums := same _ reversed
    unfold checksumOf at checksums
    rw [if_pos (reversed.uniqueIds.mpr unique), if_pos unique, Option.some.injEq] at checksums
    have contents := congrArg StatementContent.entries (createChecksum_injective injective checksums)
    simp only [contentOf, canonicalEntries, List.map_reverse] at contents
    exact List.insertionSort_reverse_ne (unique.of_map _) sublist tied contents
  · intro distinguishable other reorders
    unfold checksumOf
    by_cases unique : ((input.entries.map normalize).map (·.externalId)).Nodup
    · rw [if_pos (reorders.uniqueIds.mpr unique), if_pos unique,
        contentOf_reorders reorders unique distinguishable]
    · rw [if_neg (mt reorders.uniqueIds.mp unique), if_neg unique]

/-- One checksum means one fund, one period and the same entries. -/
theorem checksumOf_inj (injective : Function.Injective sha256) {checksum : String}
    (first : checksumOf sha256 input = some checksum)
    (second : checksumOf sha256 other = some checksum) :
    other.fundId = input.fundId ∧ other.statementFrom = input.statementFrom ∧
      other.statementTo = input.statementTo ∧
      (other.entries.map normalize).Perm (input.entries.map normalize) := by
  obtain ⟨-, rfl⟩ := checksumOf_eq_some.mp first
  obtain ⟨-, same⟩ := checksumOf_eq_some.mp second
  have contents := createChecksum_injective injective same
  simp only [contentOf, StatementContent.mk.injEq] at contents
  obtain ⟨funds, starts, finishes, sorted⟩ := contents
  refine ⟨funds, starts, finishes, ?_⟩
  have left := List.perm_insertionSort (fun left right : BankStatementEntryInput =>
    UnicodeTables.localeLe left.externalId right.externalId = true) (other.entries.map normalize)
  have right := List.perm_insertionSort (fun left right : BankStatementEntryInput =>
    UnicodeTables.localeLe left.externalId right.externalId = true) (input.entries.map normalize)
  unfold canonicalEntries at sorted
  rw [sorted] at left
  exact left.symm.trans right

theorem BankStatementEntryInput.Recases.refl (entry : BankStatementEntryInput) :
    entry.Recases entry := by
  refine ⟨.refl _, ?_, rfl, rfl, rfl, rfl⟩
  cases entry.bankReference with
  | none => exact .none
  | some reference => exact .some (.refl reference)

theorem map_toUpperCase_eq {reference recased : Option String}
    (recases : Option.Rel UnicodeTables.Recases reference recased)
    (stable : ∀ text ∈ reference, UnicodeTables.CaseStable text) :
    recased.map UnicodeTables.toUpperCase = reference.map UnicodeTables.toUpperCase := by
  cases recases with
  | none => rfl
  | some recased =>
      exact congrArg some (UnicodeTables.caseStable_iff.mp (stable _ rfl) _ recased)

theorem BankStatementEntryInput.Recases.normalize_eq {entry recased : BankStatementEntryInput}
    (recases : entry.Recases recased) (stable : entry.CaseStable) :
    normalize recased = normalize entry := by
  obtain ⟨ids, references, directions, amounts, dates, descriptions⟩ := recases
  simp only [BankReconciliation.normalize, BankStatementEntryInput.mk.injEq]
  exact ⟨UnicodeTables.caseStable_iff.mp stable.1 _ ids, directions, amounts, dates,
    map_toUpperCase_eq references stable.2, descriptions⟩

theorem normalize_recased {entries others : List BankStatementEntryInput}
    (recases : List.Forall₂ BankStatementEntryInput.Recases entries others)
    (stable : ∀ entry ∈ entries, entry.CaseStable) :
    others.map normalize = entries.map normalize := by
  induction recases with
  | nil => rfl
  | cons recased _ inductionHypothesis =>
      rw [List.map_cons, List.map_cons, recased.normalize_eq (stable _ List.mem_cons_self),
        inductionHypothesis fun entry member => stable entry (List.mem_cons_of_mem _ member)]

/-- Another case of one entry that keeps the checksum keeps the normalised entry. -/
theorem normalize_eq_of_checksumOf_recases (injective : Function.Injective sha256)
    (unique : ((input.entries.map normalize).map (·.externalId)).Nodup)
    (same : ∀ other checksum, checksumOf sha256 input = some checksum → input.Recases other →
      checksumOf sha256 other = some checksum)
    {entry recased : BankStatementEntryInput} (member : entry ∈ input.entries)
    (recases : entry.Recases recased) : normalize recased = normalize entry := by
  obtain ⟨before, after, split⟩ := List.append_of_mem member
  have kept (entries : List BankStatementEntryInput) :
      List.Forall₂ BankStatementEntryInput.Recases entries entries :=
    List.forall₂_same.mpr fun entry _ => .refl entry
  have others : input.Recases { input with entries := before ++ recased :: after } := by
    refine ⟨rfl, rfl, rfl, ?_⟩
    rw [split]
    exact List.rel_append (kept before) (.cons recases (kept after))
  have checksum : checksumOf sha256 input = some (createChecksum sha256 (contentOf input)) :=
    checksumOf_eq_some.mpr ⟨unique, rfl⟩
  obtain ⟨-, -, -, entries⟩ := checksumOf_inj injective checksum (same _ _ checksum others)
  simp only [split, List.map_append, List.map_cons, List.perm_append_left_iff] at entries
  exact List.singleton_perm_singleton.mp
    ((List.perm_append_right_iff (after.map normalize)).mp entries)

/-- The case of the references does not matter exactly when upper case undoes its changes. -/
theorem checksumOf_recases_iff (injective : Function.Injective sha256) :
    (∀ other checksum, checksumOf sha256 input = some checksum → input.Recases other →
      checksumOf sha256 other = some checksum) ↔ input.CaseStable := by
  constructor
  · intro same unique entry member
    have normalized (recased : BankStatementEntryInput) (recases : entry.Recases recased) :=
      normalize_eq_of_checksumOf_recases injective unique same member recases
    have refl := BankStatementEntryInput.Recases.refl entry
    constructor
    · refine UnicodeTables.caseStable_iff.mpr fun other recases => ?_
      exact congrArg BankStatementEntryInput.externalId
        (normalized { entry with externalId := other } { refl with externalId := recases })
    · intro reference member
      have own : entry.bankReference = some reference := member
      refine UnicodeTables.caseStable_iff.mpr fun other recases => ?_
      have upperCased := congrArg BankStatementEntryInput.bankReference
        (normalized { entry with bankReference := some other }
          { refl with bankReference := by rw [own]; exact .some recases })
      simp only [BankReconciliation.normalize, own, Option.map_some, Option.some.injEq] at upperCased
      exact upperCased
  · intro stable other checksum own recases
    have unique := (checksumOf_eq_some.mp own).1
    rw [← own]
    simp only [checksumOf, contentOf, normalize_recased recases.entries (stable unique), recases.fundId,
      recases.statementFrom, recases.statementTo]

end Identity

end CoffeeShop
