import CoffeeShop.Library.Calendar
import CoffeeShop.Store.Basic

/-!
The pickup times that are offered, and the check of a requested one.

The shop keeps the time of Vietnam, seven hours ahead of UTC all year.
-/

namespace CoffeeShop

open Calendar Transaction

structure PickupSchedule where
  capacity : Nat
  openMinute : Nat
  closeMinute : Nat
  leadMinutes : Nat
  daysAhead : Nat

/-- What the environment is checked for. -/
structure PickupSchedule.IsAligned (schedule : PickupSchedule) : Prop where
  openMinute : schedule.openMinute % 15 = 0
  closeMinute : schedule.closeMinute % 15 = 0
  opens : schedule.openMinute < schedule.closeMinute
  closes : schedule.closeMinute ≤ 1440

namespace OnlinePickup

variable {σ : Type}

def slotMs : Int := 15 * 60 * 1000

def dayMs : Int := 24 * 60 * 60 * 1000

def vietnamOffsetMs : Int := 7 * 60 * 60 * 1000

theorem dayMs_eq : dayMs = 86400000 := rfl

theorem vietnamOffsetMs_eq : vietnamOffsetMs = 25200000 := rfl

def utcHours (date : Instant) : Int := date / 3600000 % 24

def utcMinutes (date : Instant) : Int := date / 60000 % 60

def utcSeconds (date : Instant) : Int := date / 1000 % 60

def utcMilliseconds (date : Instant) : Int := date % 1000

def assertPickupAt (pickupAt : Instant) (schedule : Option PickupSchedule) (now : Instant) :
    Tx σ Failure Unit := do
  let schedule ← orFail schedule (.conflict "Scheduled pickup is not enabled.")
  let localMinute := (utcHours pickupAt * 60 + utcMinutes pickupAt + 420) % 1440
  require (¬(pickupAt < now + schedule.leadMinutes * 60000 ∨
      pickupAt > now + schedule.daysAhead * dayMs ∨
      localMinute < schedule.openMinute ∨
      localMinute ≥ schedule.closeMinute ∨
      localMinute % 15 ≠ 0 ∨
      utcSeconds pickupAt ≠ 0 ∨
      utcMilliseconds pickupAt ≠ 0))
    (.conflict "Pickup time is outside available slots.")

/-- What the query is checked for: `z.iso.date()`. -/
def IsDate (date : String) : Prop := (readDate date.toList).isSome

/-- The `getTime` of the date at midnight, for the texts yyyy-mm-dd.  Those of another form do not
come this far. -/
def localMidnight (date : String) : Option Instant :=
  (parseDay date.toList).map fun day => day * dayMs - vietnamOffsetMs

/-- The minutes that the loop of `pickupSlotsForDate` runs through. -/
def slotMinutes (schedule : PickupSchedule) : List Nat :=
  List.range' schedule.openMinute ((schedule.closeMinute - schedule.openMinute + 14) / 15) 15

def pickupSlotsForDate (date : String) (schedule : PickupSchedule) (now : Instant) : List Instant :=
  match localMidnight date with
  | none => []
  | some localMidnight =>
      let earliest := now + schedule.leadMinutes * 60000
      let latest := now + schedule.daysAhead * dayMs
      ((slotMinutes schedule).map fun minute : Nat => localMidnight + minute * 60000).filter
        fun pickupAt => earliest ≤ pickupAt ∧ pickupAt ≤ latest

/-- The date of the instant in Vietnam. -/
def vietnamDay (date : Instant) : Date := dateOfDay ((date + vietnamOffsetMs) / dayMs)

def vietnamDate (date : Instant) : String := String.ofList (dateText (vietnamDay date))

section Slots

variable {schedule : PickupSchedule} {now pickupAt : Instant} {date : String}

theorem mem_slotMinutes {minute : Nat} :
    minute ∈ slotMinutes schedule ↔
      schedule.openMinute ≤ minute ∧ minute < schedule.closeMinute ∧
        (minute - schedule.openMinute) % 15 = 0 := by
  simp only [slotMinutes, List.mem_range']
  constructor
  · rintro ⟨index, small, rfl⟩
    lia
  · rintro ⟨low, high, aligned⟩
    exact ⟨(minute - schedule.openMinute) / 15, by lia, by lia⟩

theorem mem_pickupSlotsForDate :
    pickupAt ∈ pickupSlotsForDate date schedule now ↔
      ∃ day, parseDay date.toList = some day ∧ ∃ minute ∈ slotMinutes schedule,
        pickupAt = day * dayMs - vietnamOffsetMs + minute * 60000 ∧
          now + schedule.leadMinutes * 60000 ≤ pickupAt ∧
            pickupAt ≤ now + schedule.daysAhead * dayMs := by
  unfold pickupSlotsForDate localMidnight
  cases read : parseDay date.toList with
  | none => simp
  | some day =>
      simp only [Option.map_some, List.mem_filter, List.mem_map, decide_eq_true_eq,
        Option.some.injEq, exists_eq_left']
      constructor
      · rintro ⟨⟨minute, offered, rfl⟩, inTime⟩
        exact ⟨minute, offered, rfl, inTime⟩
      · rintro ⟨minute, offered, rfl, inTime⟩
        exact ⟨⟨minute, offered, rfl⟩, inTime⟩

/-- The text of a date with a year of four digits is read back. -/
theorem readDate_vietnamDate (low : 0 ≤ (vietnamDay pickupAt).year)
    (high : (vietnamDay pickupAt).year ≤ 9999) :
    readDate (vietnamDate pickupAt).toList = some (vietnamDay pickupAt) := by
  rw [vietnamDate, String.toList_ofList]
  exact readDate_dateText (dateOfDay_valid _) low high

/-- The slots of a date lie on its day. -/
theorem day_of_mem (closes : schedule.closeMinute ≤ 1440)
    (offered : pickupAt ∈ pickupSlotsForDate date schedule now) :
    parseDay date.toList = some ((pickupAt + vietnamOffsetMs) / dayMs) := by
  obtain ⟨day, read, minute, inTime, rfl, -⟩ := mem_pickupSlotsForDate.mp offered
  obtain ⟨-, high, -⟩ := mem_slotMinutes.mp inTime
  rw [read, dayMs_eq, vietnamOffsetMs_eq]
  congr 1
  lia

/-- The shifted clock shows the minute of the local day. -/
theorem localMinute_eq (time : Int) :
    (time / 3600000 % 24 * 60 + time / 60000 % 60 + 420) % 1440 =
      (time + 25200000) % 86400000 / 60000 := by
  omega

theorem commits_assertPickupAt {store after : σ} :
    Commits (assertPickupAt pickupAt (some schedule) now) store () after ↔
      (now + schedule.leadMinutes * 60000 ≤ pickupAt ∧
        pickupAt ≤ now + schedule.daysAhead * dayMs ∧
        schedule.openMinute ≤ (pickupAt + vietnamOffsetMs) % dayMs / 60000 ∧
        (pickupAt + vietnamOffsetMs) % dayMs / 60000 < schedule.closeMinute ∧
        (pickupAt + vietnamOffsetMs) % dayMs / 60000 % 15 = 0 ∧ pickupAt % 60000 = 0) ∧
      after = store := by
  have minute : (utcHours pickupAt * 60 + utcMinutes pickupAt + 420) % 1440 =
      (pickupAt + vietnamOffsetMs) % dayMs / 60000 := by
    rw [dayMs_eq, vietnamOffsetMs_eq]
    exact localMinute_eq pickupAt
  have whole : utcSeconds pickupAt = 0 ∧ utcMilliseconds pickupAt = 0 ↔ pickupAt % 60000 = 0 := by
    unfold utcSeconds utcMilliseconds
    lia
  simp only [assertPickupAt, commits_bind, commits_orFail, commits_require, Option.some.injEq]
  constructor
  · rintro ⟨_, _, ⟨rfl, rfl⟩, inside, rfl⟩
    rw [minute] at inside
    push Not at inside
    obtain ⟨early, late, opens, closes, aligned, seconds, milliseconds⟩ := inside
    exact ⟨⟨early, late, opens, closes, aligned, whole.mp ⟨seconds, milliseconds⟩⟩, rfl⟩
  · rintro ⟨⟨early, late, opens, closes, aligned, exact_⟩, rfl⟩
    obtain ⟨seconds, milliseconds⟩ := whole.mpr exact_
    refine ⟨schedule, _, ⟨rfl, rfl⟩, ?_, rfl⟩
    rw [minute]
    push Not
    exact ⟨early, late, opens, closes, aligned, seconds, milliseconds⟩

theorem accepts_iff (aligned : schedule.IsAligned) (low : 0 ≤ (vietnamDay pickupAt).year)
    (high : (vietnamDay pickupAt).year ≤ 9999) (store : σ) :
    Commits (assertPickupAt pickupAt (some schedule) now) store () store ↔
      pickupAt ∈ pickupSlotsForDate (vietnamDate pickupAt) schedule now := by
  have day : dayOfDate (vietnamDay pickupAt) = (pickupAt + vietnamOffsetMs) / dayMs :=
    dayOfDate_dateOfDay _
  have opening := aligned.openMinute
  rw [commits_assertPickupAt, mem_pickupSlotsForDate,
    parseDay_of_readDate (readDate_vietnamDate low high)]
  simp only [and_true, Option.some.injEq, exists_eq_left', day]
  constructor
  · rintro ⟨early, late, opens, closes, onGrid, exact_⟩
    refine ⟨((pickupAt + vietnamOffsetMs) % dayMs / 60000).toNat, ?_, ?_, early, late⟩
    · rw [mem_slotMinutes]
      lia
    · simp only [dayMs_eq, vietnamOffsetMs_eq] at *
      lia
  · rintro ⟨minute, offered, same, early, late⟩
    obtain ⟨opens, closes, onGrid⟩ := mem_slotMinutes.mp offered
    have bounded := aligned.closes
    have minutes : (pickupAt + vietnamOffsetMs) % dayMs / 60000 = minute := by
      simp only [dayMs_eq, vietnamOffsetMs_eq] at *
      lia
    rw [minutes]
    refine ⟨early, late, by lia, by lia, by lia, ?_⟩
    simp only [dayMs_eq, vietnamOffsetMs_eq] at *
    lia

/-- What an interval leaves of an arithmetic progression. -/
theorem isChain_filter_range' {step : Nat} (positive : 0 < step) (start earliest latest : Int)
    (first count : Nat) :
    (((List.range' first count step).map fun minute : Nat => start + minute * 60000).filter
      fun slot => earliest ≤ slot ∧ slot ≤ latest).IsChain
        fun before after : Int => after = before + step * 60000 := by
  induction count generalizing first with
  | zero => exact .nil
  | succ count inductionHypothesis =>
      rw [List.range'_succ, List.map_cons, List.filter_cons]
      split
      · rename_i inTime
        simp only [decide_eq_true_eq] at inTime
        cases count with
        | zero => exact .singleton _
        | succ count =>
            have rest := inductionHypothesis (first + step)
            rw [List.range'_succ, List.map_cons, List.filter_cons] at rest ⊢
            split
            · rename_i next
              rw [if_pos next] at rest
              refine .cons_cons ?_ rest
              push_cast
              ring
            · rename_i late
              simp only [decide_eq_true_eq, not_and, not_le] at late
              have ended : latest < start + ((first + step : Nat) : Int) * 60000 := by
                apply late
                push_cast
                have grows : (0 : Int) ≤ step * 60000 := by positivity
                linarith
              have none : ((List.range' (first + step + step) count step).map
                  fun minute : Nat => start + minute * 60000).filter
                    (fun slot => earliest ≤ slot ∧ slot ≤ latest) = [] := by
                rw [List.filter_eq_nil_iff]
                intro slot member
                obtain ⟨minute, inRange, rfl⟩ := List.mem_map.mp member
                obtain ⟨index, -, rfl⟩ := List.mem_range'.mp inRange
                simp only [decide_eq_true_eq, not_and, not_le]
                intro _
                have later : first + step ≤ first + step + step + step * index := by
                  have nonneg := Nat.zero_le (step * index)
                  lia
                have cast : ((first + step : Nat) : Int) ≤
                    ((first + step + step + step * index : Nat) : Int) := by exact_mod_cast later
                linarith
              rw [none]
              exact .singleton _
      · exact inductionHypothesis (first + step)

theorem slots_apart (date : String) (schedule : PickupSchedule) (now : Instant) :
    (pickupSlotsForDate date schedule now).IsChain fun before after => after = before + slotMs := by
  unfold pickupSlotsForDate
  split
  · exact .nil
  · exact isChain_filter_range' (Nat.zero_lt_succ 14) _ _ _ _ _

theorem slots_increase (date : String) (schedule : PickupSchedule) (now : Instant) :
    (pickupSlotsForDate date schedule now).Pairwise (· < ·) := by
  apply List.isChain_iff_pairwise.mp
  refine (slots_apart date schedule now).imp ?_
  intro before after next
  rw [next]
  exact Int.lt_add_of_pos_right before (by decide)

theorem slots_disjoint (closes : schedule.closeMinute ≤ 1440) {other : String} (isDate : IsDate date)
    (otherIsDate : IsDate other) (differs : date ≠ other)
    (offered : pickupAt ∈ pickupSlotsForDate date schedule now) :
    pickupAt ∉ pickupSlotsForDate other schedule now := by
  intro again
  obtain ⟨day, read⟩ := Option.isSome_iff_exists.mp isDate
  obtain ⟨day', read'⟩ := Option.isSome_iff_exists.mp otherIsDate
  obtain ⟨valid, text⟩ := dateText_of_readDate read
  obtain ⟨valid', text'⟩ := dateText_of_readDate read'
  have own := (parseDay_of_readDate read).symm.trans (day_of_mem closes offered)
  have own' := (parseDay_of_readDate read').symm.trans (day_of_mem closes again)
  have same : day = day' :=
    dayOfDate_injective valid valid' (Option.some.inj (own.trans own'.symm))
  apply differs
  apply String.toList_injective
  rw [← text, ← text', same]

end Slots

/-- A pickup time is accepted exactly when it is one of the slots that its own date offers; the
slots of a date follow each other at 15 minutes, and no instant is a slot of two dates. -/
theorem pickupSlots_accepted {schedule : PickupSchedule} (aligned : schedule.IsAligned)
    (now : Instant) :
    (∀ pickupAt : Instant, 0 ≤ (vietnamDay pickupAt).year → (vietnamDay pickupAt).year ≤ 9999 →
      ∀ store : σ, (Commits (assertPickupAt pickupAt (some schedule) now) store () store ↔
        pickupAt ∈ pickupSlotsForDate (vietnamDate pickupAt) schedule now)) ∧
    (∀ date, (pickupSlotsForDate date schedule now).Pairwise (· < ·) ∧
      (pickupSlotsForDate date schedule now).IsChain
        fun before after => after = before + slotMs) ∧
    (∀ date other, IsDate date → IsDate other → date ≠ other →
      ∀ pickupAt ∈ pickupSlotsForDate date schedule now,
        pickupAt ∉ pickupSlotsForDate other schedule now) := by
  refine ⟨?_, ?_, ?_⟩
  · intro pickupAt low high store
    exact accepts_iff aligned low high store
  · intro date
    exact ⟨slots_increase date schedule now, slots_apart date schedule now⟩
  · intro date other isDate otherIsDate differs pickupAt offered
    exact slots_disjoint aligned.closes isDate otherIsDate differs offered

/-- From 07:00 to 22:00, at least 45 minutes and at most seven days ahead. -/
def sampleSchedule : PickupSchedule where
  capacity := 4
  openMinute := 420
  closeMinute := 1320
  leadMinutes := 45
  daysAhead := 7

theorem isAligned_sample : sampleSchedule.IsAligned := by
  constructor
  · decide
  · decide
  · decide
  · decide

/-- At noon (UTC) of 27 September 2026, the first slot of the next day is accepted, and it is none of
the day after. -/
theorem pickupSlots_accepted_sample :
    (1790553600000 : Instant) ∈
      pickupSlotsForDate (vietnamDate 1790553600000) sampleSchedule 1790510400000 ∧
    (1790553600000 : Instant) ∉
      pickupSlotsForDate "2026-09-29" sampleSchedule 1790510400000 := by
  obtain ⟨accepted, -, disjoint⟩ := pickupSlots_accepted (σ := Unit) isAligned_sample 1790510400000
  have offered := (accepted 1790553600000 (by decide +kernel) (by decide +kernel) ()).mp
    (commits_assertPickupAt.mpr ⟨by decide +kernel, rfl⟩)
  refine ⟨offered, disjoint _ _ ?_ ?_ ?_ _ offered⟩
  · unfold IsDate
    decide +kernel
  · unfold IsDate
    decide +kernel
  · decide +kernel

end OnlinePickup

end CoffeeShop
