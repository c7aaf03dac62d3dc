import Mathlib.Algebra.BigOperators.Group.List.Basic
import Mathlib.Algebra.Ring.Int.Defs
import Mathlib.Order.Defs.LinearOrder
import Mathlib.Order.Lattice
import Mathlib.Tactic.Tauto

/-!
Sums of the amounts of each key of a list, as an association list with increasing keys.
-/

namespace GroupedSum

variable {κ : Type} [LinearOrder κ]

/-- Add an amount to the key's entry. -/
def insert (key : κ) (amount : ℤ) : List (κ × ℤ) → List (κ × ℤ)
  | [] => [(key, amount)]
  | head :: tail =>
      if key = head.1 then (key, head.2 + amount) :: tail
      else if key < head.1 then (key, amount) :: head :: tail
      else head :: insert key amount tail

def ofList (entries : List (κ × ℤ)) : List (κ × ℤ) :=
  entries.foldr (fun entry groups => insert entry.1 entry.2 groups) []

/-- The sum of the amounts that the list has for a key. -/
def total (entries : List (κ × ℤ)) (key : κ) : ℤ :=
  (entries.map fun entry => if entry.1 = key then entry.2 else 0).sum

@[simp] theorem total_nil (key : κ) : total [] key = 0 := rfl

@[simp] theorem total_cons (entry : κ × ℤ) (entries : List (κ × ℤ)) (key : κ) :
    total (entry :: entries) key = (if entry.1 = key then entry.2 else 0) + total entries key := by
  simp [total]

theorem total_append (first second : List (κ × ℤ)) (key : κ) :
    total (first ++ second) key = total first key + total second key := by
  simp [total]

theorem total_eq_zero {entries : List (κ × ℤ)} {key : κ}
    (absent : ∀ entry ∈ entries, entry.1 ≠ key) : total entries key = 0 := by
  induction entries with
  | nil => rfl
  | cons head tail inductionHypothesis =>
      have differs : head.1 ≠ key := absent head List.mem_cons_self
      have rest := inductionHypothesis fun entry inTail =>
        absent entry (List.mem_cons_of_mem head inTail)
      simp [differs, rest]

theorem total_insert (key : κ) (amount : ℤ) (groups : List (κ × ℤ)) (wanted : κ) :
    total (insert key amount groups) wanted =
      (if key = wanted then amount else 0) + total groups wanted := by
  induction groups with
  | nil => simp [insert]
  | cons head tail inductionHypothesis =>
      by_cases same : key = head.1
      · simp only [insert, same, if_true, total_cons]
        split <;> omega
      · by_cases before : key < head.1
        · simp only [insert, same, before, if_true, if_false, total_cons]
        · simp only [insert, same, before, if_false, total_cons, inductionHypothesis]
          omega

@[simp] theorem total_ofList (entries : List (κ × ℤ)) (key : κ) :
    total (ofList entries) key = total entries key := by
  induction entries with
  | nil => rfl
  | cons head tail inductionHypothesis =>
      change total (insert head.1 head.2 (ofList tail)) key = _
      rw [total_insert, inductionHypothesis, total_cons]

theorem mem_keys_insert {key wanted : κ} {amount : ℤ} {groups : List (κ × ℤ)} :
    wanted ∈ (insert key amount groups).map Prod.fst ↔
      wanted = key ∨ wanted ∈ groups.map Prod.fst := by
  induction groups with
  | nil => simp [insert]
  | cons head tail inductionHypothesis =>
      by_cases same : key = head.1
      · simp [insert, same]
      · by_cases before : key < head.1
        · simp [insert, same, before]
        · simp only [insert, same, before, if_false, List.map_cons, List.mem_cons,
            inductionHypothesis]
          tauto

theorem mem_keys_ofList {wanted : κ} {entries : List (κ × ℤ)} :
    wanted ∈ (ofList entries).map Prod.fst ↔ wanted ∈ entries.map Prod.fst := by
  induction entries with
  | nil => rfl
  | cons head tail inductionHypothesis =>
      change wanted ∈ (insert head.1 head.2 (ofList tail)).map Prod.fst ↔ _
      rw [mem_keys_insert, inductionHypothesis, List.map_cons, List.mem_cons]

theorem sorted_insert {key : κ} {amount : ℤ} {groups : List (κ × ℤ)}
    (sorted : (groups.map Prod.fst).Pairwise (· < ·)) :
    ((insert key amount groups).map Prod.fst).Pairwise (· < ·) := by
  induction groups with
  | nil => simp [insert]
  | cons head tail inductionHypothesis =>
      rw [List.map_cons, List.pairwise_cons] at sorted
      by_cases same : key = head.1
      · simp only [insert, same, if_true, List.map_cons, List.pairwise_cons]
        exact sorted
      · by_cases before : key < head.1
        · simp only [insert, same, before, if_true, if_false, List.map_cons, List.pairwise_cons]
          refine ⟨fun other membership => ?_, sorted⟩
          rcases List.mem_cons.mp membership with rfl | inTail
          · exact before
          · exact before.trans (sorted.1 other inTail)
        · simp only [insert, same, before, if_false, List.map_cons, List.pairwise_cons]
          refine ⟨fun other membership => ?_, inductionHypothesis sorted.2⟩
          rcases mem_keys_insert.mp membership with rfl | inTail
          · exact lt_of_le_of_ne (not_lt.mp before) fun equal => same equal.symm
          · exact sorted.1 other inTail

theorem nodup_ofList (entries : List (κ × ℤ)) : ((ofList entries).map Prod.fst).Nodup := by
  have sorted : ((ofList entries).map Prod.fst).Pairwise (· < ·) := by
    induction entries with
    | nil => exact List.Pairwise.nil
    | cons head tail inductionHypothesis => exact sorted_insert inductionHypothesis
  exact sorted.imp fun less => less.ne

section Maps

variable {α : Type} {items : List α} {key : α → κ} {amount : α → ℤ} {wanted : κ}

@[simp] theorem total_zero : total (items.map fun item => (key item, 0)) wanted = 0 := by
  induction items with
  | nil => rfl
  | cons head tail inductionHypothesis => simp [inductionHypothesis]

@[simp] theorem total_neg : total (items.map fun item => (key item, -amount item)) wanted =
    -total (items.map fun item => (key item, amount item)) wanted := by
  induction items with
  | nil => rfl
  | cons head tail inductionHypothesis =>
      simp only [List.map_cons, total_cons, inductionHypothesis]
      split <;> omega

/-- Entries without an amount do not count. -/
theorem total_filter_ne_zero :
    total ((items.filter fun item => amount item ≠ 0).map fun item => (key item, amount item))
      wanted = total (items.map fun item => (key item, amount item)) wanted := by
  induction items with
  | nil => rfl
  | cons head tail inductionHypothesis =>
      by_cases empty : amount head = 0
      · simpa [empty] using inductionHypothesis
      · simpa [empty] using inductionHypothesis

end Maps

theorem total_nonneg {entries : List (κ × ℤ)} (nonneg : ∀ entry ∈ entries, 0 ≤ entry.2) (key : κ) :
    0 ≤ total entries key := by
  induction entries with
  | nil => exact Int.le_refl 0
  | cons head tail inductionHypothesis =>
      have first : 0 ≤ head.2 := nonneg head List.mem_cons_self
      have rest := inductionHypothesis fun entry inTail =>
        nonneg entry (List.mem_cons_of_mem head inTail)
      rw [total_cons]
      split <;> omega

/-- With positive amounts the total of a key covers each of its entries. -/
theorem le_total_of_mem {entries : List (κ × ℤ)} (nonneg : ∀ entry ∈ entries, 0 ≤ entry.2)
    {entry : κ × ℤ} (membership : entry ∈ entries) : entry.2 ≤ total entries entry.1 := by
  induction entries with
  | nil => simp at membership
  | cons head tail inductionHypothesis =>
      have restNonneg : ∀ other ∈ tail, 0 ≤ other.2 := fun other inTail =>
        nonneg other (List.mem_cons_of_mem head inTail)
      have first : 0 ≤ head.2 := nonneg head List.mem_cons_self
      have rest := total_nonneg restNonneg entry.1
      rw [total_cons]
      rcases List.mem_cons.mp membership with rfl | inTail
      · simp only [if_true]
        omega
      · have below := inductionHypothesis restNonneg inTail
        split <;> omega

/-- With distinct keys the total of a key is the amount of its only entry. -/
theorem total_of_mem {entries : List (κ × ℤ)} (distinct : (entries.map Prod.fst).Nodup)
    {entry : κ × ℤ} (membership : entry ∈ entries) : total entries entry.1 = entry.2 := by
  induction entries with
  | nil => simp at membership
  | cons head tail inductionHypothesis =>
      rw [List.map_cons, List.nodup_cons] at distinct
      rcases List.mem_cons.mp membership with rfl | inTail
      · have rest : total tail entry.1 = 0 := total_eq_zero fun other others equal =>
          distinct.1 (equal ▸ List.mem_map_of_mem others)
        simp [rest]
      · have differs : head.1 ≠ entry.1 := fun equal =>
          distinct.1 (equal ▸ List.mem_map_of_mem inTail)
        simp [differs, inductionHypothesis distinct.2 inTail]

end GroupedSum
