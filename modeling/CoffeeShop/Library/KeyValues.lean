import Mathlib.Data.List.Basic
import Mathlib.Data.List.Infix

/-!
Pairs of a key and a value that are joined without an escape.

Such a text may be read in several ways.  A marker, which is a key between its two
separators, cannot overlap another one, so the reading is unique when no value holds one.
-/

namespace KeyValues

variable {α : Type} {amp eq : α}

/-- `&key=`. -/
def marker (amp eq : α) (key : List α) : List α := amp :: (key ++ [eq])

def render (amp eq : α) (fields : List (List α × List α)) : List α :=
  fields.flatMap fun field => marker amp eq field.1 ++ field.2

section Infix

variable {tail other before after rest later : List α}

/-- What begins with the separator and holds no other one ends before the next one. -/
theorem cut (single : amp ∉ tail) (nonempty : before ≠ [])
    (same : (amp :: tail) ++ after = before ++ ((amp :: other) ++ rest)) :
    ∃ middle, before = (amp :: tail) ++ middle ∧ after = middle ++ ((amp :: other) ++ rest) := by
  obtain ⟨middle, isBefore, isAfter⟩ | ⟨middle, isTail, isRest⟩ := List.append_eq_append_iff.mp same
  · exact ⟨middle, isBefore, isAfter⟩
  · cases middle with
    | nil =>
        rw [List.append_nil] at isTail
        exact ⟨[], by rw [List.append_nil, isTail], isRest.symm⟩
    | cons head middle =>
        obtain rfl := (List.cons.inj isRest).1
        cases before with
        | nil => exact absurd rfl nonempty
        | cons first before =>
            have inner := (List.cons.inj isTail).2
            exact absurd (inner ▸ List.mem_append_right before List.mem_cons_self) single

theorem infix_cut (single : amp ∉ tail) (otherSingle : amp ∉ other)
    (found : (amp :: tail) <:+: before ++ ((amp :: other) ++ after)) :
    (amp :: tail) <:+: before ∨ tail <+: other ++ after ∨ (amp :: tail) <:+: after := by
  obtain ⟨start, finish, same⟩ := found
  rw [List.append_assoc] at same
  obtain ⟨middle, isBefore, isFound⟩ | ⟨middle, isStart, isAfter⟩ := List.append_eq_append_iff.mp same
  · by_cases empty : middle = []
    · rw [empty, List.nil_append, List.cons_append, List.cons_append] at isFound
      exact .inr (.inl ⟨finish, (List.cons.inj isFound).2⟩)
    · obtain ⟨more, rfl, -⟩ := cut single empty isFound
      exact .inl ⟨start, more, by rw [isBefore, List.append_assoc]⟩
  · by_cases empty : middle = []
    · rw [empty, List.nil_append, List.cons_append, List.cons_append] at isAfter
      exact .inr (.inl ⟨finish, (List.cons.inj isAfter).2.symm⟩)
    · obtain ⟨more, -, rfl⟩ := cut otherSingle empty isAfter
      exact .inr (.inr ⟨more, finish, List.append_assoc ..⟩)

/-- Two markers are at one place, or each of them is in what the other one leaves. -/
theorem meet (single : amp ∉ tail)
    (same : before ++ ((amp :: tail) ++ after) = rest ++ ((amp :: tail) ++ later)) :
    before = rest ∧ after = later ∨
      (amp :: tail) <:+: after ∧ (amp :: tail) <:+: rest ∨
      (amp :: tail) <:+: before ∧ (amp :: tail) <:+: later := by
  obtain ⟨middle, isRest, isAfter⟩ | ⟨middle, isBefore, isLater⟩ := List.append_eq_append_iff.mp same
  · by_cases empty : middle = []
    · rw [empty, List.append_nil] at isRest
      rw [empty, List.nil_append] at isAfter
      exact .inl ⟨isRest.symm, List.append_cancel_left isAfter⟩
    · obtain ⟨more, rfl, rfl⟩ := cut single empty isAfter
      exact .inr (.inl ⟨⟨more, later, List.append_assoc ..⟩,
        ⟨before, more, by rw [isRest, List.append_assoc]⟩⟩)
  · by_cases empty : middle = []
    · rw [empty, List.append_nil] at isBefore
      rw [empty, List.nil_append] at isLater
      exact .inl ⟨isBefore, (List.append_cancel_left isLater).symm⟩
    · obtain ⟨more, rfl, rfl⟩ := cut single empty isLater
      exact .inr (.inr ⟨⟨rest, more, by rw [isBefore, List.append_assoc]⟩,
        ⟨more, after, List.append_assoc ..⟩⟩)

/-- A marker that is neither before nor after divides the text. -/
theorem divide (single : amp ∉ tail) (notBefore : ¬(amp :: tail) <:+: before)
    (notAfter : ¬(amp :: tail) <:+: after)
    (same : before ++ ((amp :: tail) ++ after) = rest ++ ((amp :: tail) ++ later)) :
    before = rest ∧ after = later := by
  obtain equal | ⟨isAfter, -⟩ | ⟨isBefore, -⟩ := meet single same
  · exact equal
  · exact absurd isAfter notAfter
  · exact absurd isBefore notBefore

/-- The last of the markers divides the text. -/
theorem divide_last (single : amp ∉ tail) (notAfter : ¬(amp :: tail) <:+: after)
    (notLater : ¬(amp :: tail) <:+: later)
    (same : before ++ ((amp :: tail) ++ after) = rest ++ ((amp :: tail) ++ later)) :
    before = rest ∧ after = later := by
  obtain equal | ⟨isAfter, -⟩ | ⟨-, isLater⟩ := meet single same
  · exact equal
  · exact absurd isAfter notAfter
  · exact absurd isLater notLater

end Infix

/-- A key without separators. -/
def IsKey (amp eq : α) (key : List α) : Prop := amp ∉ key ∧ eq ∉ key

theorem IsKey.single {key : List α} (isKey : IsKey amp eq key) (differs : amp ≠ eq) :
    amp ∉ key ++ [eq] := by
  rw [List.mem_append, List.mem_singleton]
  exact fun member => member.elim isKey.1 differs

theorem eq_of_append_cons {first second rest other : List α} (notIn : eq ∉ first)
    (notInSecond : eq ∉ second) (same : first ++ eq :: rest = second ++ eq :: other) :
    first = second ∧ rest = other := by
  obtain ⟨middle, rfl, isRest⟩ | ⟨middle, rfl, isOther⟩ := List.append_eq_append_iff.mp same
  · cases middle with
    | nil => exact ⟨(List.append_nil _).symm, (List.cons.inj isRest).2⟩
    | cons head middle =>
        obtain rfl := (List.cons.inj isRest).1
        exact absurd (List.mem_append_right first List.mem_cons_self) notInSecond
  · cases middle with
    | nil => exact ⟨List.append_nil _, (List.cons.inj isOther).2.symm⟩
    | cons head middle =>
        obtain rfl := (List.cons.inj isOther).1
        exact absurd (List.mem_append_right second List.mem_cons_self) notIn

theorem IsKey.eq_of_prefix {key other after : List α} (isKey : IsKey amp eq key)
    (otherKey : IsKey amp eq other) (found : key ++ [eq] <+: (other ++ [eq]) ++ after) :
    key = other := by
  obtain ⟨rest, same⟩ := found
  rw [List.append_assoc, List.append_assoc, List.singleton_append, List.singleton_append] at same
  exact (eq_of_append_cons isKey.2 otherKey.2 same).1

theorem render_cons (field : List α × List α) (fields : List (List α × List α)) :
    render amp eq (field :: fields) = marker amp eq field.1 ++ (field.2 ++ render amp eq fields) := by
  rw [render, List.flatMap_cons, List.append_assoc, render]

/-- Values without their own markers are read back from the end. -/
theorem render_injective_last {value other : List α} {fields others : List (List α × List α)}
    (differs : amp ≠ eq) (sameKeys : others.map Prod.fst = fields.map Prod.fst)
    (keys : ∀ field ∈ fields, IsKey amp eq field.1)
    (unmarked : ∀ field ∈ fields, ¬marker amp eq field.1 <:+: field.2)
    (otherUnmarked : ∀ field ∈ others, ¬marker amp eq field.1 <:+: field.2)
    (same : value ++ render amp eq fields = other ++ render amp eq others) :
    value = other ∧ fields = others := by
  induction fields generalizing value other others with
  | nil =>
      obtain rfl := List.map_eq_nil_iff.mp sameKeys
      exact ⟨by simpa [render] using same, rfl⟩
  | cons field fields inductionHypothesis =>
      obtain ⟨next, rest, rfl, sameKey, sameRest⟩ := List.map_eq_cons_iff.mp sameKeys
      obtain ⟨key, content⟩ := field
      obtain ⟨nextKey, nextContent⟩ := next
      dsimp only at sameKey
      subst sameKey
      rw [render_cons, render_cons, ← List.append_assoc, ← List.append_assoc, ← List.append_assoc,
        ← List.append_assoc] at same
      obtain ⟨sameHead, rfl⟩ := inductionHypothesis sameRest
        (fun field member => keys field (List.mem_cons_of_mem _ member))
        (fun field member => unmarked field (List.mem_cons_of_mem _ member))
        (fun field member => otherUnmarked field (List.mem_cons_of_mem _ member)) same
      rw [List.append_assoc, List.append_assoc] at sameHead
      obtain ⟨rfl, rfl⟩ := divide_last ((keys _ List.mem_cons_self).single differs)
        (unmarked _ List.mem_cons_self) (otherUnmarked (nextKey, nextContent) List.mem_cons_self)
        sameHead
      exact ⟨rfl, rfl⟩

/-- No marker of the keys is in the value. -/
def Unmarked (amp eq : α) (keys : List (List α)) (value : List α) : Prop :=
  ∀ key ∈ keys, ¬marker amp eq key <:+: value

theorem not_infix_render {key value : List α} {fields : List (List α × List α)} (differs : amp ≠ eq)
    (isKey : IsKey amp eq key) (keys : ∀ field ∈ fields, IsKey amp eq field.1)
    (new : ∀ field ∈ fields, key ≠ field.1) (notIn : ¬marker amp eq key <:+: value)
    (notInFields : ∀ field ∈ fields, ¬marker amp eq key <:+: field.2) :
    ¬marker amp eq key <:+: value ++ render amp eq fields := by
  induction fields generalizing value with
  | nil =>
      rw [render, List.flatMap_nil, List.append_nil]
      exact notIn
  | cons field fields inductionHypothesis =>
      intro found
      rw [render_cons] at found
      have fieldKey := keys field List.mem_cons_self
      obtain inValue | isPrefix | inRest :=
        infix_cut (isKey.single differs) (fieldKey.single differs) found
      · exact notIn inValue
      · exact new field List.mem_cons_self (isKey.eq_of_prefix fieldKey isPrefix)
      · exact inductionHypothesis (fun next member => keys next (List.mem_cons_of_mem _ member))
          (fun next member => new next (List.mem_cons_of_mem _ member))
          (notInFields field List.mem_cons_self)
          (fun next member => notInFields next (List.mem_cons_of_mem _ member)) inRest

/-- Values without markers are read back in one way only. -/
theorem render_injective {value other : List α} {fields others : List (List α × List α)}
    (differs : amp ≠ eq) (sameKeys : others.map Prod.fst = fields.map Prod.fst)
    (keys : ∀ field ∈ fields, IsKey amp eq field.1) (distinct : (fields.map Prod.fst).Nodup)
    (unmarked : Unmarked amp eq (fields.map Prod.fst) value)
    (unmarkedFields : ∀ field ∈ fields, Unmarked amp eq (fields.map Prod.fst) field.2)
    (same : value ++ render amp eq fields = other ++ render amp eq others) :
    value = other ∧ fields = others := by
  induction fields generalizing value other others with
  | nil =>
      obtain rfl := List.map_eq_nil_iff.mp sameKeys
      exact ⟨by simpa [render] using same, rfl⟩
  | cons field fields inductionHypothesis =>
      obtain ⟨next, rest, rfl, sameKey, sameRest⟩ := List.map_eq_cons_iff.mp sameKeys
      obtain ⟨key, content⟩ := field
      obtain ⟨nextKey, nextContent⟩ := next
      dsimp only at sameKey
      subst sameKey
      rw [render_cons, render_cons] at same
      obtain ⟨fresh, distinctRest⟩ := List.nodup_cons.mp distinct
      have isKey := keys _ List.mem_cons_self
      have later := fun field member => keys field (List.mem_cons_of_mem _ member)
      have notAfter := not_infix_render differs isKey later
        (fun field member same => fresh (same ▸ List.mem_map_of_mem member))
        (unmarkedFields _ List.mem_cons_self _ List.mem_cons_self)
        fun field member => unmarkedFields field (List.mem_cons_of_mem _ member) _
          List.mem_cons_self
      obtain ⟨rfl, sameTail⟩ := divide (isKey.single differs)
        (unmarked _ List.mem_cons_self) notAfter same
      obtain ⟨rfl, rfl⟩ := inductionHypothesis sameRest later distinctRest
        (fun key member => unmarkedFields _ List.mem_cons_self key (List.mem_cons_of_mem _ member))
        (fun field member key isIn => unmarkedFields field (List.mem_cons_of_mem _ member) key
          (List.mem_cons_of_mem _ isIn)) sameTail
      exact ⟨rfl, rfl⟩

end KeyValues
