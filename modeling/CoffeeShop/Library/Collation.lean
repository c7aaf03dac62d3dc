import Mathlib.Data.List.Pairwise
import Mathlib.Data.List.Sort

/-!
Texts under tables of the runtime: their case and their order.

Upper case undoes a change of case exactly when every case form of a character has the upper case
of the character.  Under a collation different strings may be equal; a stable sort leaves them in
the order in which they came, so it gives a canonical order exactly when no two elements are equal.
-/

/-- What the Unicode tables of the runtime decide. -/
class UnicodeTables where
  upper : Char → List Char
  /-- There may be several, as for the final sigma. -/
  lower : Char → List (List Char)
  /-- `left.localeCompare(right) <= 0`. -/
  localeLe : String → String → Bool
  total : ∀ left right, localeLe left right = true ∨ localeLe right left = true
  trans : ∀ first second third, localeLe first second = true → localeLe second third = true →
    localeLe first third = true

/-- Tables that know the letters of ASCII only and compare by code points. -/
instance (priority := low) asciiTables : UnicodeTables where
  upper c := [c.toUpper]
  lower c := [[c.toLower]]
  localeLe left right := left ≤ right
  total left right := by simpa using String.le_total left right
  trans _ _ _ first second := by
    simp only [decide_eq_true_eq] at *
    exact String.le_trans first second

namespace UnicodeTables

section Case

variable [UnicodeTables]

def toUpperCase (text : String) : String := String.ofList (text.toList.flatMap upper)

def caseForms (c : Char) : List (List Char) := upper c :: lower c

/-- The characters with some of them in another case. -/
inductive RecasesChars : List Char → List Char → Prop where
  | nil : RecasesChars [] []
  | keep {c : Char} {text other : List Char} (rest : RecasesChars text other) :
      RecasesChars (c :: text) (c :: other)
  | change {c : Char} {form text other : List Char} (isForm : form ∈ caseForms c)
      (rest : RecasesChars text other) : RecasesChars (c :: text) (form ++ other)

def Recases (text other : String) : Prop := RecasesChars text.toList other.toList

/-- Every case form of a character in the text has the upper case of the character.  The lower case
of the KELVIN SIGN, for one, is a plain k, whose upper case is a plain K. -/
def CaseStable (text : String) : Prop :=
  ∀ c ∈ text.toList, ∀ form ∈ caseForms c, form.flatMap upper = upper c

/-- The characters are decided one by one, not by looking for all characters in the text. -/
instance (text : String) : Decidable (CaseStable text) :=
  decidable_of_iff
    ((text.toList.all fun c => (caseForms c).all fun form => form.flatMap upper == upper c) = true)
    (by simp only [CaseStable, List.all_eq_true, beq_iff_eq])

theorem RecasesChars.refl (text : List Char) : RecasesChars text text := by
  induction text with
  | nil => exact .nil
  | cons c text inductionHypothesis => exact .keep inductionHypothesis

theorem Recases.refl (text : String) : Recases text text := RecasesChars.refl text.toList

/-- One character in another case. -/
theorem RecasesChars.single {c : Char} {form : List Char} (isForm : form ∈ caseForms c)
    (before after : List Char) :
    RecasesChars (before ++ c :: after) (before ++ (form ++ after)) := by
  induction before with
  | nil =>
      have changed : RecasesChars (c :: after) (form ++ after) := .change isForm (.refl after)
      exact changed
  | cons first before inductionHypothesis => exact .keep inductionHypothesis

theorem RecasesChars.upper_eq {text other : List Char} (recases : RecasesChars text other)
    (stable : ∀ c ∈ text, ∀ form ∈ caseForms c, form.flatMap upper = upper c) :
    other.flatMap upper = text.flatMap upper := by
  induction recases with
  | nil => rfl
  | keep _ inductionHypothesis =>
      rw [List.flatMap_cons, List.flatMap_cons,
        inductionHypothesis fun c member => stable c (List.mem_cons_of_mem _ member)]
  | change isForm _ inductionHypothesis =>
      rw [List.flatMap_append, List.flatMap_cons, stable _ List.mem_cons_self _ isForm,
        inductionHypothesis fun c member => stable c (List.mem_cons_of_mem _ member)]

theorem caseStable_iff {text : String} :
    CaseStable text ↔ ∀ other, Recases text other → toUpperCase other = toUpperCase text := by
  constructor
  · intro stable other recases
    exact congrArg String.ofList (recases.upper_eq stable)
  · intro same c member form isForm
    obtain ⟨before, after, split⟩ := List.append_of_mem member
    have recased : Recases text (String.ofList (before ++ (form ++ after))) := by
      rw [Recases, split, String.toList_ofList]
      exact .single isForm before after
    have upperCased := String.ofList_injective (same _ recased)
    simp only [String.toList_ofList, split, List.flatMap_append, List.flatMap_cons,
      List.append_cancel_left_eq, List.append_cancel_right_eq] at upperCased
    exact upperCased

end Case

end UnicodeTables

namespace List

section StableSort

variable {α : Type} {r : α → α → Prop} [DecidableRel r] {items other : List α}

theorem insertionSort_eq_of_perm [Std.Total r] [IsTrans α r]
    (apart : items.Pairwise fun first second => ¬(r first second ∧ r second first))
    (permuted : other.Perm items) : other.insertionSort r = items.insertionSort r := by
  have sorted := pairwise_insertionSort r items
  have otherSorted := pairwise_insertionSort r other
  have same := (perm_insertionSort r other).trans (permuted.trans (perm_insertionSort r items).symm)
  refine same.eq_of_pairwise ?_ otherSorted sorted
  intro first second member otherMember less greater
  have inItems : first ∈ items := permuted.mem_iff.mp ((mem_insertionSort r).mp member)
  have alsoIn : second ∈ items := (mem_insertionSort r).mp otherMember
  by_contra differs
  have symmetric : Std.Symm fun first second => ¬(r first second ∧ r second first) :=
    ⟨fun _ _ untied tied => untied tied.symm⟩
  exact apart.forall inItems alsoIn differs ⟨less, greater⟩

theorem pair_sublist_asymm {first second : α} (distinct : items.Nodup)
    (sublist : [first, second].Sublist items) : ¬[second, first].Sublist items := by
  induction items with
  | nil => exact fun reversed => absurd reversed.length_le (by simp)
  | cons head rest inductionHypothesis =>
      intro reversed
      obtain ⟨fresh, nodup⟩ := nodup_cons.mp distinct
      rw [sublist_cons_iff] at sublist reversed
      obtain inRest | ⟨tail, same, inRest⟩ := sublist
      · obtain otherRest | ⟨other, otherSame, -⟩ := reversed
        · exact inductionHypothesis nodup inRest otherRest
        · obtain ⟨rfl, -⟩ := cons.inj otherSame
          exact fresh (inRest.subset (mem_cons_of_mem _ mem_cons_self))
      · obtain ⟨rfl, rfl⟩ := cons.inj same
        obtain otherRest | ⟨other, otherSame, -⟩ := reversed
        · exact fresh (otherRest.subset (mem_cons_of_mem _ mem_cons_self))
        · obtain ⟨rfl, -⟩ := cons.inj otherSame
          exact fresh (inRest.subset mem_cons_self)

/-- Reversing the list swaps equal elements, also in the sorted list. -/
theorem insertionSort_reverse_ne {first second : α} (distinct : items.Nodup)
    (sublist : [first, second].Sublist items) (tied : r first second ∧ r second first) :
    items.reverse.insertionSort r ≠ items.insertionSort r := by
  intro same
  have inOrder := pair_sublist_insertionSort tied.1 sublist
  have reversed : [second, first].Sublist items.reverse := by
    simpa using sublist.reverse
  have outOfOrder := pair_sublist_insertionSort tied.2 reversed
  rw [same] at outOfOrder
  have nodup : (items.insertionSort r).Nodup := (perm_insertionSort r items).nodup_iff.mpr distinct
  exact pair_sublist_asymm nodup inOrder outOfOrder

end StableSort

end List
