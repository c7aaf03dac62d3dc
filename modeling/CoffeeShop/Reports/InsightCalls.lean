import CoffeeShop.Reports.BusinessInsights
import Mathlib.Data.List.Nodup
import Mathlib.Data.List.Pairwise

/-!
Calls of the provider are within the budget and are not repeated while an outcome is unknown.
-/

namespace CoffeeShop.BusinessInsights

variable {Snapshot Suggestions Analysis : Type} {limit : Nat}
  {build : Snapshot → Option Suggestions → Analysis} {noInvoices : Snapshot → Bool}

/-- The run has not called the provider yet. -/
def Progress.isEarly : Progress Snapshot Suggestions Analysis → Bool
  | .picked => true
  | .checking _ => true
  | .capturing => true
  | .saving _ => true
  | .starting _ => true
  | .started _ => true
  | .granted _ _ => true
  | .claimed _ _ => true
  | _ => false

/-- The run has claimed its insight and knows of no outcome that is recorded. -/
def Progress.holds : Progress Snapshot Suggestions Analysis → Bool
  | .claimed _ _ => true
  | .calling _ => true
  | .resetting _ _ => true
  | _ => false

/-- The day of a grant that is not used yet. -/
def Progress.day? : Progress Snapshot Suggestions Analysis → Option Nat
  | .granted _ day => some day
  | .claimed _ day => some day
  | _ => none

/-- One run has computed both parts of the result. -/
def Made (build : Snapshot → Option Suggestions → Analysis)
    (server : Server Snapshot Suggestions Analysis)
    (result : BusinessInsightResult Snapshot Analysis) : Prop :=
  ∃ produced ∈ server.results, result.snapshot = produced.snapshot ∧
    result.analysis = build produced.snapshot produced.suggestions

/-- What a run may rely on. -/
structure Consistent (build : Snapshot → Option Suggestions → Analysis)
    (server : Server Snapshot Suggestions Analysis) (run : Id)
    (current : Run Snapshot Suggestions Analysis) : Prop where
  uncalled : current.progress.isEarly = true → ∀ call ∈ server.calls, call.run ≠ run
  granted : ∀ day, current.progress.day? = some day → (run, day) ∈ server.grants
  holds : current.progress.holds = true → server.claims current.insight = some run
  pending : current.progress.holds = true →
    ∀ call ∈ server.calls, call.run = run → call.outcome = none
  produced : ∀ snapshot suggestions, current.progress = .completing snapshot suggestions →
    Made build server { snapshot, analysis := build snapshot suggestions }
  made : ∀ result, current.progress = .completed result → Made build server result

/-- What the log knows of a call. -/
structure CallFacts (server : Server Snapshot Suggestions Analysis) (call : ProviderCall) :
    Prop where
  granted : (call.run, call.day) ∈ server.grants
  claimed : call.outcome ≠ some .reset → server.claims call.insight = some call.run

/-- The counter of the day, which does not expire before the day ends. -/
structure Budget (limit : Nat) (server : Server Snapshot Suggestions Analysis) (day : Nat) :
    Prop where
  bounded : (server.grants.map Prod.snd).count day ≤ limit
  unset : server.budgets day = none → (server.grants.map Prod.snd).count day = 0
  counter : ∀ counter, server.budgets day = some counter →
    counter.count = (server.grants.map Prod.snd).count day ∧
      day * 86400000 + 172800000 ≤ counter.expiresAt

/-- A row with the parts of one result when it is completed. -/
def RowMade (build : Snapshot → Option Suggestions → Analysis)
    (server : Server Snapshot Suggestions Analysis) (row : BusinessInsight Snapshot Analysis) :
    Prop :=
  row.status = .completed → ∃ result, Made build server result ∧
    row.snapshot = some result.snapshot ∧ row.analysis = some result.analysis

structure Invariant (limit : Nat) (build : Snapshot → Option Suggestions → Analysis)
    (server : Server Snapshot Suggestions Analysis) : Prop where
  unused : ∀ run, server.nextRun ≤ run →
    server.runs run = none ∧ ∀ call ∈ server.calls, call.run ≠ run
  runs : ∀ run current, server.runs run = some current → Consistent build server run current
  calls : ∀ call ∈ server.calls, CallFacts server call
  single : (server.calls.map ProviderCall.run).Nodup
  ordered : server.calls.Pairwise fun earlier later =>
    earlier.insight = later.insight → earlier.outcome = some .reset
  claims : ∀ id row, server.insights id = some row →
    (row.providerStartedAt = none ↔ server.claims id = none)
  unclaimed : ∀ id, server.insights id = none → server.claims id = none
  budgets : ∀ day, Budget limit server day
  rows : ∀ id row, server.insights id = some row → RowMade build server row
  jobs : ∀ id job result, server.jobs id = some job → job.returnvalue = some result →
    Made build server result

namespace Invariant

variable {server before after : Server Snapshot Suggestions Analysis} {run id : Id}

theorem runs_moved {next : Option (Run Snapshot Suggestions Analysis)} {other : Id}
    {current : Run Snapshot Suggestions Analysis}
    (running : (server.moved run next).runs other = some current) :
    other = run ∧ next = some current ∨ other ≠ run ∧ server.runs other = some current := by
  dsimp only [Server.moved] at running
  by_cases same : other = run
  · rw [same, Function.update_self] at running
    exact .inl ⟨same, running⟩
  · rw [Function.update_of_ne same] at running
    exact .inr ⟨same, running⟩

theorem moved (invariant : Invariant limit build server)
    {next : Option (Run Snapshot Suggestions Analysis)} (known : run < server.nextRun)
    (consistent : ∀ current, next = some current → Consistent build server run current) :
    Invariant limit build (server.moved run next) := by
  refine { invariant with unused := ?_, runs := ?_, calls := ?_, budgets := ?_ }
  · intro other unused
    refine ⟨?_, (invariant.unused other unused).2⟩
    have differs : other ≠ run := by
      rintro rfl
      exact absurd known (Nat.not_lt.mpr unused)
    dsimp only [Server.moved]
    rw [Function.update_of_ne differs]
    exact (invariant.unused other unused).1
  · intro other current running
    have kept : Consistent build server other current := by
      obtain ⟨rfl, new⟩ | ⟨-, old⟩ := runs_moved running
      · exact consistent current new
      · exact invariant.runs other current old
    exact ⟨kept.uncalled, kept.granted, kept.holds, kept.pending, kept.produced, kept.made⟩
  · intro call member
    exact ⟨(invariant.calls call member).granted, (invariant.calls call member).claimed⟩
  · intro day
    exact ⟨(invariant.budgets day).bounded, (invariant.budgets day).unset,
      (invariant.budgets day).counter⟩

theorem lt_nextRun (invariant : Invariant limit build server)
    {current : Run Snapshot Suggestions Analysis} (running : server.runs run = some current) :
    run < server.nextRun := by
  by_contra unused
  exact nomatch (invariant.unused run (Nat.le_of_not_lt unused)).1.symm.trans running

theorem insights_changed
    {change : BusinessInsight Snapshot Analysis → BusinessInsight Snapshot Analysis}
    {other : Id} {row : BusinessInsight Snapshot Analysis}
    (found : (server.changed id change).insights other = some row) :
    ∃ old, server.insights other = some old ∧
      (other = id ∧ row = change old ∨ other ≠ id ∧ row = old) := by
  dsimp only [Server.changed] at found
  by_cases same : other = id
  · rw [same, Function.update_self] at found
    obtain ⟨old, known, rfl⟩ := Option.map_eq_some_iff.mp found
    exact ⟨old, same ▸ known, .inl ⟨same, rfl⟩⟩
  · rw [Function.update_of_ne same] at found
    exact ⟨row, found, .inr ⟨same, rfl⟩⟩

theorem insights_changed_none
    {change : BusinessInsight Snapshot Analysis → BusinessInsight Snapshot Analysis} {other : Id}
    (found : (server.changed id change).insights other = none) : server.insights other = none := by
  dsimp only [Server.changed] at found
  by_cases same : other = id
  · rw [same, Function.update_self] at found
    rw [same]
    exact Option.map_eq_none_iff.mp found
  · rwa [Function.update_of_ne same] at found

/-- A row changes and keeps its mark of a call. -/
theorem changed (invariant : Invariant limit build server)
    {change : BusinessInsight Snapshot Analysis → BusinessInsight Snapshot Analysis}
    (marks : ∀ row, (change row).providerStartedAt = row.providerStartedAt)
    (made : ∀ row, RowMade build server row → RowMade build server (change row)) :
    Invariant limit build (server.changed id change) := by
  refine { invariant with
    runs := ?_, calls := ?_, claims := ?_, unclaimed := ?_, budgets := ?_, rows := ?_ }
  · intro other current running
    have kept := invariant.runs other current running
    exact ⟨kept.uncalled, kept.granted, kept.holds, kept.pending, kept.produced, kept.made⟩
  · intro call member
    exact ⟨(invariant.calls call member).granted, (invariant.calls call member).claimed⟩
  · intro other row found
    obtain ⟨old, known, ⟨rfl, rfl⟩ | ⟨-, rfl⟩⟩ := insights_changed found
    · rw [marks]
      exact invariant.claims other old known
    · exact invariant.claims other row known
  · intro other none
    exact invariant.unclaimed other (insights_changed_none none)
  · intro day
    exact ⟨(invariant.budgets day).bounded, (invariant.budgets day).unset,
      (invariant.budgets day).counter⟩
  · intro other row found
    obtain ⟨old, known, ⟨rfl, rfl⟩ | ⟨-, rfl⟩⟩ := insights_changed found
    · exact made old (invariant.rows other old known)
    · exact invariant.rows other row known

theorem inserted (invariant : Invariant limit build server)
    {row : BusinessInsight Snapshot Analysis} (unknown : server.insights id = none)
    (unmarked : row.providerStartedAt = none) (made : RowMade build server row) :
    Invariant limit build (server.inserted id row) := by
  have insights (other : Id) : (server.inserted id row).insights other =
      if other = id then some row else server.insights other := Function.update_apply ..
  refine { invariant with
    runs := ?_, calls := ?_, claims := ?_, unclaimed := ?_, budgets := ?_, rows := ?_ }
  · intro other current running
    have kept := invariant.runs other current running
    exact ⟨kept.uncalled, kept.granted, kept.holds, kept.pending, kept.produced, kept.made⟩
  · intro call member
    exact ⟨(invariant.calls call member).granted, (invariant.calls call member).claimed⟩
  · intro other current found
    rw [insights] at found
    by_cases same : other = id
    · rw [if_pos same] at found
      obtain rfl := Option.some.inj found
      exact iff_of_true unmarked (invariant.unclaimed other (same ▸ unknown))
    · rw [if_neg same] at found
      exact invariant.claims other current found
  · intro other found
    rw [insights] at found
    by_cases same : other = id
    · rw [if_pos same] at found
      exact nomatch found
    · rw [if_neg same] at found
      exact invariant.unclaimed other found
  · intro day
    exact ⟨(invariant.budgets day).bounded, (invariant.budgets day).unset,
      (invariant.budgets day).counter⟩
  · intro other current found
    rw [insights] at found
    by_cases same : other = id
    · rw [if_pos same] at found
      obtain rfl := Option.some.inj found
      exact made
    · rw [if_neg same] at found
      exact invariant.rows other current found

theorem withJob (invariant : Invariant limit build server) {job : Option (Job Snapshot Analysis)}
    (made : ∀ content result, job = some content → content.returnvalue = some result →
      Made build server result) : Invariant limit build (server.withJob id job) := by
  refine { invariant with runs := ?_, calls := ?_, budgets := ?_, jobs := ?_ }
  · intro other current running
    have kept := invariant.runs other current running
    exact ⟨kept.uncalled, kept.granted, kept.holds, kept.pending, kept.produced, kept.made⟩
  · intro call member
    exact ⟨(invariant.calls call member).granted, (invariant.calls call member).claimed⟩
  · intro day
    exact ⟨(invariant.budgets day).bounded, (invariant.budgets day).unset,
      (invariant.budgets day).counter⟩
  · intro other content result found returned
    dsimp only [Server.withJob] at found
    by_cases same : other = id
    · rw [same, Function.update_self] at found
      exact made content result found returned
    · rw [Function.update_of_ne same] at found
      exact invariant.jobs other content result found returned

theorem grantedTo (invariant : Invariant limit build server)
    (within : readCounter server.clock (server.budgets (utcDay server.clock)) < limit) :
    Invariant limit build (server.grantedTo run) := by
  refine { invariant with runs := ?_, calls := ?_, budgets := ?_ }
  · intro other current running
    have kept := invariant.runs other current running
    exact ⟨kept.uncalled, fun day unspent => List.mem_cons_of_mem _ (kept.granted day unspent),
      kept.holds, kept.pending, kept.produced, kept.made⟩
  · intro call member
    obtain ⟨granted, claimed⟩ := invariant.calls call member
    exact ⟨List.mem_cons_of_mem _ granted, claimed⟩
  · intro day
    obtain ⟨bounded, unset, counter⟩ := invariant.budgets day
    have grants : (server.grantedTo run).grants.map Prod.snd =
      utcDay server.clock :: server.grants.map Prod.snd := rfl
    have budgets : (server.grantedTo run).budgets day = if day = utcDay server.clock then
        some (increment server.clock (server.budgets (utcDay server.clock))) else
        server.budgets day := Function.update_apply ..
    by_cases today : day = utcDay server.clock
    · subst today
      -- the counter has not expired yet
      have reads : readCounter server.clock (server.budgets (utcDay server.clock)) =
          (server.grants.map Prod.snd).count (utcDay server.clock) := by
        cases found : server.budgets (utcDay server.clock) with
        | none => exact (unset found).symm
        | some current =>
            obtain ⟨same, live⟩ := counter current found
            have unexpired : server.clock < current.expiresAt := by
              unfold utcDay at live
              lia
            rw [readCounter, Option.elim_some, if_pos unexpired, same]
      rw [reads] at within
      refine ⟨?_, ?_, ?_⟩
      · rw [grants, List.count_cons_self]
        exact within
      · rw [budgets, if_pos rfl]
        exact nofun
      · intro next isNext
        rw [budgets, if_pos rfl] at isNext
        obtain rfl := Option.some.inj isNext
        rw [grants, List.count_cons_self, increment, reads]
        refine ⟨rfl, ?_⟩
        unfold utcDay
        dsimp only
        omega
    · have other : ((server.grantedTo run).grants.map Prod.snd).count day =
          (server.grants.map Prod.snd).count day := by
        rw [grants, List.count_cons_of_ne (Ne.symm today)]
      rw [if_neg today] at budgets
      exact ⟨other ▸ bounded, fun none => other ▸ unset (budgets ▸ none), fun next isNext =>
        other ▸ counter next (budgets ▸ isNext)⟩

theorem claimedBy (invariant : Invariant limit build server)
    {row : BusinessInsight Snapshot Analysis} (found : server.insights id = some row)
    (unmarked : row.providerStartedAt = none) :
    Invariant limit build (server.claimedBy id run) := by
  have free : server.claims id = none := (invariant.claims id row found).mp unmarked
  have claims (other : Id) : (server.claimedBy id run).claims other =
      if other = id then some run else server.claims other := Function.update_apply ..
  have unclaimedBy {other holder : Id} (held : server.claims other = some holder) :
      (server.claimedBy id run).claims other = some holder := by
    have differs : other ≠ id := by
      rintro rfl
      exact nomatch free.symm.trans held
    rw [claims, if_neg differs]
    exact held
  refine { invariant with
    runs := ?_, calls := ?_, claims := ?_, unclaimed := ?_, budgets := ?_, rows := ?_ }
  · intro other current running
    have kept := invariant.runs other current running
    exact ⟨kept.uncalled, kept.granted, fun holding => unclaimedBy (kept.holds holding),
      kept.pending, kept.produced, kept.made⟩
  · intro call member
    obtain ⟨granted, claimed⟩ := invariant.calls call member
    exact ⟨granted, fun open_ => unclaimedBy (claimed open_)⟩
  · intro other current known
    rw [claims]
    obtain ⟨old, was, ⟨same, rfl⟩ | ⟨differs, rfl⟩⟩ := insights_changed known
    · rw [if_pos same]
      exact iff_of_false nofun nofun
    · rw [if_neg differs]
      exact invariant.claims other current was
  · intro other unknown
    have before := insights_changed_none unknown
    have differs : other ≠ id := by
      rintro rfl
      exact nomatch before.symm.trans found
    rw [claims, if_neg differs]
    exact invariant.unclaimed other before
  · intro day
    exact ⟨(invariant.budgets day).bounded, (invariant.budgets day).unset,
      (invariant.budgets day).counter⟩
  · intro other current known
    obtain ⟨old, was, ⟨-, rfl⟩ | ⟨-, rfl⟩⟩ := insights_changed known
    · exact invariant.rows other old was
    · exact invariant.rows other current was

theorem called (invariant : Invariant limit build server) {day : Nat} (known : run < server.nextRun)
    (claimed : server.claims id = some run) (granted : (run, day) ∈ server.grants)
    (first : ∀ call ∈ server.calls, call.run ≠ run)
    (late : ∀ current, server.runs run = some current → current.progress.isEarly = false) :
    Invariant limit build (server.called run id day) := by
  have calls {call : ProviderCall} (member : call ∈ (server.called run id day).calls) :
      call ∈ server.calls ∨ call = { run, insight := id, day, outcome := none } := by
    simpa [Server.called] using member
  refine { invariant with
    unused := ?_, runs := ?_, calls := ?_, single := ?_, ordered := ?_, budgets := ?_ }
  · intro other unused
    refine ⟨(invariant.unused other unused).1, ?_⟩
    intro call member
    obtain old | rfl := calls member
    · exact (invariant.unused other unused).2 call old
    · rintro rfl
      exact absurd known (Nat.not_lt.mpr unused)
  · intro other current running
    have kept := invariant.runs other current running
    refine ⟨?_, kept.granted, kept.holds, ?_, kept.produced, kept.made⟩
    · intro early call member
      obtain old | rfl := calls member
      · exact kept.uncalled early call old
      · rintro rfl
        exact nomatch (late current running).symm.trans early
    · intro holding call member
      obtain old | rfl := calls member
      · exact kept.pending holding call old
      · exact fun _ => rfl
  · intro call member
    obtain old | rfl := calls member
    · exact ⟨(invariant.calls call old).granted, (invariant.calls call old).claimed⟩
    · exact ⟨granted, fun _ => claimed⟩
  · have fresh : run ∉ server.calls.map ProviderCall.run := by
      intro member
      obtain ⟨call, old, same⟩ := List.mem_map.mp member
      exact first call old same
    dsimp only [Server.called]
    rw [List.map_append]
    apply List.nodup_append'.mpr
    exact ⟨invariant.single, List.nodup_singleton run, List.disjoint_singleton.mpr fresh⟩
  · dsimp only [Server.called]
    apply List.pairwise_append.mpr
    refine ⟨invariant.ordered, List.pairwise_singleton .., ?_⟩
    intro earlier old later new same
    obtain rfl := List.mem_singleton.mp new
    -- the claim of this run says that no earlier call is open
    by_contra unknown
    have holder := (invariant.calls earlier old).claimed unknown
    rw [same, claimed] at holder
    exact first earlier old (Option.some.inj holder).symm
  · intro day
    exact ⟨(invariant.budgets day).bounded, (invariant.budgets day).unset,
      (invariant.budgets day).counter⟩

theorem concluded (invariant : Invariant limit build server) {outcome : CallOutcome}
    (idle : ∀ current, server.runs run = some current → current.progress.holds = false) :
    Invariant limit build (server.concluded run outcome) := by
  have calls {call : ProviderCall} (member : call ∈ (server.concluded run outcome).calls) :
      ∃ old ∈ server.calls, call.run = old.run ∧ call.insight = old.insight ∧
        call.day = old.day ∧
        (call.outcome = old.outcome ∨ old.outcome = none ∧ old.run = run) := by
    obtain ⟨old, was, rfl⟩ := List.mem_map.mp member
    refine ⟨old, was, ?_⟩
    split_ifs with condition
    · exact ⟨rfl, rfl, rfl, .inr condition.symm⟩
    · exact ⟨rfl, rfl, rfl, .inl rfl⟩
  have runs : (server.concluded run outcome).calls.map ProviderCall.run =
      server.calls.map ProviderCall.run := by
    dsimp only [Server.concluded]
    rw [List.map_map]
    apply List.map_congr_left
    intro call _
    dsimp only [Function.comp]
    split_ifs <;> rfl
  refine { invariant with
    unused := ?_, runs := ?_, calls := ?_, single := ?_, ordered := ?_, budgets := ?_ }
  · intro other unused
    refine ⟨(invariant.unused other unused).1, ?_⟩
    intro call member
    obtain ⟨old, was, same, -⟩ := calls member
    rw [same]
    exact (invariant.unused other unused).2 old was
  · intro other current running
    have kept := invariant.runs other current running
    refine ⟨?_, kept.granted, kept.holds, ?_, kept.produced, kept.made⟩
    · intro early call member
      obtain ⟨old, was, same, -⟩ := calls member
      rw [same]
      exact kept.uncalled early old was
    · intro holding call member isRun
      obtain ⟨old, was, same, -, -, kept' | ⟨-, mine⟩⟩ := calls member
      · rw [kept']
        exact kept.pending holding old was (same ▸ isRun)
      · rw [← isRun, same, mine] at running
        exact nomatch (idle current running).symm.trans holding
  · intro call member
    obtain ⟨old, was, sameRun, sameInsight, sameDay, result⟩ := calls member
    obtain ⟨granted, claimed⟩ := invariant.calls old was
    refine ⟨by rw [sameRun, sameDay]; exact granted, ?_⟩
    intro open_
    rw [sameRun, sameInsight]
    apply claimed
    obtain kept | ⟨pending, -⟩ := result
    · rwa [← kept]
    · rw [pending]
      exact nofun
  · rw [runs]
    exact invariant.single
  · dsimp only [Server.concluded]
    apply List.pairwise_map.mpr
    refine invariant.ordered.imp ?_
    intro earlier later ordered same
    have insights (call : ProviderCall) : (if call.run = run ∧ call.outcome = none then
        { call with outcome := some outcome } else call).insight = call.insight := by
      split_ifs <;> rfl
    rw [insights, insights] at same
    have known := ordered same
    rw [if_neg fun condition => nomatch condition.2.symm.trans known]
    exact known
  · intro day
    exact ⟨(invariant.budgets day).bounded, (invariant.budgets day).unset,
      (invariant.budgets day).counter⟩

/-- No call on the insight is open and no run holds it. -/
theorem released (invariant : Invariant limit build server)
    (closed : ∀ call ∈ server.calls, call.insight = id → call.outcome = some .reset)
    (idle : ∀ other current, server.runs other = some current → current.insight = id →
      current.progress.holds = false) :
    Invariant limit build
      { server.changed id fun row => { row with providerStartedAt := none } with
        claims := Function.update server.claims id none } := by
  have claims (other : Id) : Function.update server.claims id none other =
      if other = id then none else server.claims other := Function.update_apply ..
  refine { invariant with
    runs := ?_, calls := ?_, claims := ?_, unclaimed := ?_, budgets := ?_, rows := ?_ }
  · intro other current running
    have kept := invariant.runs other current running
    refine ⟨kept.uncalled, kept.granted, ?_, kept.pending, kept.produced, kept.made⟩
    intro holding
    dsimp only
    rw [claims, if_neg fun same => nomatch (idle other current running same).symm.trans holding]
    exact kept.holds holding
  · intro call member
    obtain ⟨granted, claimed⟩ := invariant.calls call member
    refine ⟨granted, ?_⟩
    intro open_
    dsimp only
    rw [claims, if_neg fun same => open_ (closed call member same)]
    exact claimed open_
  · intro other current known
    dsimp only
    rw [claims]
    obtain ⟨old, was, ⟨same, rfl⟩ | ⟨differs, rfl⟩⟩ := insights_changed known
    · rw [if_pos same]
    · rw [if_neg differs]
      exact invariant.claims other current was
  · intro other unknown
    dsimp only
    rw [claims]
    split_ifs
    · rfl
    · exact invariant.unclaimed other (insights_changed_none unknown)
  · intro day
    exact ⟨(invariant.budgets day).bounded, (invariant.budgets day).unset,
      (invariant.budgets day).counter⟩
  · intro other current known
    obtain ⟨old, was, ⟨-, rfl⟩ | ⟨-, rfl⟩⟩ := insights_changed known
    · exact invariant.rows other old was
    · exact invariant.rows other current was

theorem reset (invariant : Invariant limit build server) (holder : server.claims id = some run)
    (pending : ∀ call ∈ server.calls, call.run = run → call.outcome = none)
    (idle : ∀ current, server.runs run = some current → current.progress.holds = false) :
    Invariant limit build (server.reset id run) := by
  unfold Server.reset
  split_ifs
  · have concluded : Invariant limit build (server.concluded run .reset) :=
      invariant.concluded idle
    refine concluded.released ?_ ?_
    · intro call member isInsight
      obtain ⟨old, was, rfl⟩ := List.mem_map.mp member
      split_ifs at isInsight ⊢ with condition
      · rfl
      · -- an open call would be the one of this run
        by_contra unknown
        have same := (invariant.calls old was).claimed unknown
        rw [isInsight, holder] at same
        have mine := (Option.some.inj same).symm
        exact condition ⟨mine, pending old was mine⟩
    · intro other current running isInsight
      by_contra holding
      have same := (invariant.runs other current running).holds (Bool.not_eq_false _ ▸ holding)
      rw [isInsight, holder] at same
      obtain rfl := Option.some.inj same
      exact holding (idle current running)
  · exact invariant

theorem made_complete {result : BusinessInsightResult Snapshot Analysis}
    (made : Made build server result) {row : BusinessInsight Snapshot Analysis}
    (before : RowMade build server row) : RowMade build server (complete result row) := by
  unfold complete
  split_ifs
  · exact fun _ => ⟨result, made, rfl, rfl⟩
  · exact before

theorem completedBy (invariant : Invariant limit build server)
    {result : BusinessInsightResult Snapshot Analysis} (made : Made build server result)
    (idle : ∀ current, server.runs run = some current → current.progress.holds = false) :
    Invariant limit build (server.completedBy id run result) := by
  unfold Server.completedBy
  split_ifs
  · refine (invariant.changed ?_ fun row => made_complete made).concluded idle
    intro row
    unfold complete
    split_ifs <;> rfl
  · exact invariant

theorem produced (invariant : Invariant limit build server) {snapshot : Snapshot}
    {suggestions : Option Suggestions} :
    Invariant limit build (server.produced run snapshot suggestions) := by
  have mono {result : BusinessInsightResult Snapshot Analysis} (made : Made build server result) :
      Made build (server.produced run snapshot suggestions) result := by
    obtain ⟨produced, member, parts⟩ := made
    exact ⟨produced, List.mem_cons_of_mem _ member, parts⟩
  refine { invariant with runs := ?_, calls := ?_, budgets := ?_, rows := ?_, jobs := ?_ }
  · intro other current running
    have kept := invariant.runs other current running
    exact ⟨kept.uncalled, kept.granted, kept.holds, kept.pending,
      fun snapshot suggestions completing => mono (kept.produced snapshot suggestions completing),
      fun result completed => mono (kept.made result completed)⟩
  · intro call member
    exact ⟨(invariant.calls call member).granted, (invariant.calls call member).claimed⟩
  · intro day
    exact ⟨(invariant.budgets day).bounded, (invariant.budgets day).unset,
      (invariant.budgets day).counter⟩
  · intro other row found completed
    obtain ⟨result, made, parts⟩ := invariant.rows other row found completed
    exact ⟨result, mono made, parts⟩
  · intro other job result found returned
    exact mono (invariant.jobs other job result found returned)

/-- A run that has not reached its grant and has no result. -/
theorem moved_early (invariant : Invariant limit build server)
    {current next : Run Snapshot Suggestions Analysis} (running : server.runs run = some current)
    (early : current.progress.isEarly = true) (day : next.progress.day? = none)
    (holds : next.progress.holds = false)
    (completing : ∀ snapshot suggestions, next.progress ≠ .completing snapshot suggestions)
    (completed : ∀ result, next.progress ≠ .completed result) :
    Invariant limit build (server.moved run (some next)) := by
  refine invariant.moved (invariant.lt_nextRun running) ?_
  rintro current' ⟨⟩
  have free : next.progress.holds ≠ true := by rw [holds]; exact Bool.false_ne_true
  exact {
    uncalled := fun _ => (invariant.runs run current running).uncalled early
    granted := fun _ unspent => nomatch day.symm.trans unspent
    holds := fun holding => absurd holding free
    pending := fun holding => absurd holding free
    produced := fun _ _ same => absurd same (completing _ _)
    made := fun _ same => absurd same (completed _) }

theorem moved_failing (invariant : Invariant limit build server)
    {current next : Run Snapshot Suggestions Analysis} (running : server.runs run = some current)
    {errorCode : String} {unrecoverable : Bool}
    (failing : next.progress = .failing errorCode unrecoverable) :
    Invariant limit build (server.moved run (some next)) := by
  refine invariant.moved (invariant.lt_nextRun running) ?_
  rintro current' ⟨⟩
  refine ⟨?_, ?_, ?_, ?_, ?_, ?_⟩ <;> rw [failing] <;> exact nofun

theorem moved_none (invariant : Invariant limit build server)
    {current : Run Snapshot Suggestions Analysis} (running : server.runs run = some current) :
    Invariant limit build (server.moved run none) :=
  invariant.moved (invariant.lt_nextRun running) nofun

theorem runs_moved_self {next current : Run Snapshot Suggestions Analysis}
    (running : (server.moved run (some next)).runs run = some current) : current = next := by
  obtain ⟨-, same⟩ | ⟨differs, -⟩ := runs_moved running
  · exact (Option.some.inj same).symm
  · exact absurd rfl differs

theorem reset_moved {next : Option (Run Snapshot Suggestions Analysis)} :
    (server.reset id run).moved run next = (server.moved run next).reset id run := by
  unfold Server.reset
  split_ifs with processing other other
  · rfl
  · exact absurd processing other
  · exact absurd other processing
  · rfl

theorem completedBy_moved {next : Option (Run Snapshot Suggestions Analysis)}
    {result : BusinessInsightResult Snapshot Analysis} :
    (server.completedBy id run result).moved run next =
      (server.moved run next).completedBy id run result := by
  unfold Server.completedBy
  split_ifs with isOpen other other
  · rfl
  · exact absurd isOpen other
  · exact absurd other isOpen
  · rfl

theorem failed (invariant : Invariant limit build server) (errorCode : String) (terminal : Bool) :
    Invariant limit build (server.changed id (fail errorCode terminal)) := by
  refine invariant.changed ?_ ?_
  · intro row
    unfold fail
    split_ifs <;> rfl
  · intro row made
    unfold fail
    by_cases isOpen : BusinessInsights.isOpen row = true
    · rw [if_pos isOpen]
      cases terminal with
      | false => exact nofun
      | true => exact nofun
    · rw [if_neg isOpen]
      exact made

theorem runStep (invariant : Invariant limit build before)
    {current : Run Snapshot Suggestions Analysis} (running : before.runs run = some current)
    (taken : RunStep limit build noInvoices before run current after) :
    Invariant limit build after := by
  have consistent := invariant.runs run current running
  have known := invariant.lt_nextRun running
  cases taken with
  | @findCompleted row snapshot analysis picked found status hasSnapshot hasAnalysis =>
      refine invariant.moved known ?_
      rintro next ⟨⟩
      obtain ⟨result, made, sameSnapshot, sameAnalysis⟩ :=
        invariant.rows current.insight row found status
      obtain rfl := Option.some.inj (hasSnapshot.symm.trans sameSnapshot)
      obtain rfl := Option.some.inj (hasAnalysis.symm.trans sameAnalysis)
      refine ⟨nofun, nofun, nofun, nofun, nofun, ?_⟩
      rintro result' ⟨⟩
      exact made
  | findFailed => exact invariant.moved_none running
  | findOpen picked =>
      exact invariant.moved_early running (by rw [picked]; rfl) rfl rfl nofun nofun
  | record picked unknown =>
      have stored : Invariant limit build
          (before.inserted current.insight (recorded current.data none)) :=
        invariant.inserted unknown rfl nofun
      exact stored.moved_early running (by rw [picked]; rfl) rfl rfl nofun nofun
  | refuse => exact invariant.moved_failing running rfl
  | @proceed row checking =>
      have early : current.progress.isEarly = true := by rw [checking]; rfl
      cases knownSnapshot current.data row with
      | none => exact invariant.moved_early running early rfl rfl nofun nofun
      | some snapshot => exact invariant.moved_early running early rfl rfl nofun nofun
  | capture snapshot capturing =>
      exact invariant.moved_early running (by rw [capturing]; rfl) rfl rfl nofun nofun
  | @save snapshot saving =>
      have stored : Invariant limit build (before.withJob current.insight
          ((before.jobs current.insight).map fun job =>
            { job with data := { current.data with snapshot := some snapshot } })) := by
        refine invariant.withJob ?_
        intro content result isJob returned
        obtain ⟨job, found, rfl⟩ := Option.map_eq_some_iff.mp isJob
        exact invariant.jobs _ job result found returned
      exact stored.moved_early running (by rw [saving]; rfl) rfl rfl nofun nofun
  | @start snapshot starting =>
      have stored : Invariant limit build
          (before.changed current.insight (start snapshot)) := by
        refine invariant.changed ?_ ?_
        · intro row
          unfold BusinessInsights.start
          split_ifs <;> rfl
        · intro row made
          unfold BusinessInsights.start
          split_ifs
          · exact nofun
          · exact made
      exact stored.moved_early running (by rw [starting]; rfl) rfl rfl nofun nofun
  | @withoutInvoices snapshot started =>
      have added : Invariant limit build (before.produced run snapshot none) := invariant.produced
      refine added.moved known ?_
      rintro next ⟨⟩
      refine ⟨nofun, nofun, nofun, nofun, ?_, nofun⟩
      rintro _ _ ⟨⟩
      exact ⟨_, List.mem_cons_self .., rfl, rfl⟩
  | grant started sold within =>
      refine (invariant.grantedTo within).moved known ?_
      rintro next ⟨⟩
      have uncalled := consistent.uncalled (by rw [started]; rfl)
      refine ⟨fun _ => uncalled, ?_, nofun, nofun, nofun, nofun⟩
      rintro day ⟨⟩
      exact List.mem_cons_self ..
  | spent => exact invariant.moved_failing running rfl
  | claim granted found allowed =>
      have unmarked := (Bool.and_eq_true_iff.mp allowed).2
      refine (invariant.claimedBy found (Option.isNone_iff_eq_none.mp unmarked)).moved known ?_
      rintro next ⟨⟩
      have uncalled := consistent.uncalled (by rw [granted]; rfl)
      refine ⟨fun _ => uncalled, ?_, ?_, ?_, nofun, nofun⟩
      · rintro day ⟨⟩
        exact consistent.granted _ (by rw [granted]; rfl)
      · exact fun _ => Function.update_self ..
      · exact fun _ call member mine => absurd mine (uncalled call member)
  | unclaimed => exact invariant.moved_failing running rfl
  | @call snapshot day claimed =>
      have first := consistent.uncalled (by rw [claimed]; rfl)
      have holder := consistent.holds (by rw [claimed]; rfl)
      have moved : Invariant limit build
          (before.moved run (some { current with progress := .calling snapshot })) := by
        refine invariant.moved known ?_
        rintro next ⟨⟩
        exact ⟨nofun, nofun, fun _ => holder,
          fun _ call member mine => absurd mine (first call member), nofun, nofun⟩
      refine moved.called known holder (consistent.granted day (by rw [claimed]; rfl)) first ?_
      intro next isNext
      rw [runs_moved_self isNext]
      rfl
  | @answer snapshot suggestions calling =>
      have added : Invariant limit build (before.produced run snapshot (some suggestions)) :=
        invariant.produced
      refine added.moved known ?_
      rintro next ⟨⟩
      refine ⟨nofun, nofun, nofun, nofun, ?_, nofun⟩
      rintro _ _ ⟨⟩
      exact ⟨_, List.mem_cons_self .., rfl, rfl⟩
  | error errorCode unrecoverable calling =>
      refine invariant.moved known ?_
      rintro next ⟨⟩
      exact ⟨nofun, nofun, fun _ => consistent.holds (by rw [calling]; rfl),
        fun _ => consistent.pending (by rw [calling]; rfl), nofun, nofun⟩
  | @reset errorCode unrecoverable resetting =>
      have moved : Invariant limit build (before.moved run
          (some { current with progress := .failing errorCode unrecoverable })) :=
        invariant.moved_failing running rfl
      rw [reset_moved]
      refine moved.reset (consistent.holds (by rw [resetting]; rfl))
        (consistent.pending (by rw [resetting]; rfl)) ?_
      intro next isNext
      rw [runs_moved_self isNext]
      rfl
  | @complete snapshot suggestions completing =>
      have made := consistent.produced snapshot suggestions completing
      have moved : Invariant limit build (before.moved run (some { current with
          progress := .completed { snapshot, analysis := build snapshot suggestions } })) := by
        refine invariant.moved known ?_
        rintro next ⟨⟩
        refine ⟨nofun, nofun, nofun, nofun, nofun, ?_⟩
        rintro result ⟨⟩
        exact made
      rw [completedBy_moved]
      refine moved.completedBy made ?_
      intro next isNext
      rw [runs_moved_self isNext]
      rfl
  | @done result completed =>
      have stored : Invariant limit build (before.withJob current.insight
          ((before.jobs current.insight).map fun job =>
            { job with returnvalue := some result })) := by
        refine invariant.withJob ?_
        intro content result' isJob returned
        obtain ⟨job, found, rfl⟩ := Option.map_eq_some_iff.mp isJob
        obtain rfl := Option.some.inj returned
        exact consistent.made _ completed
      exact stored.moved_none running
  | interrupt => exact invariant.moved_failing running rfl
  | @fail errorCode unrecoverable failing =>
      exact (invariant.failed errorCode _).moved_none running
  | crash => exact invariant.moved_none running

theorem delivered (invariant : Invariant limit build server)
    {current : Run Snapshot Suggestions Analysis} (picked : current.progress = .picked) :
    Invariant limit build { server.moved server.nextRun (some current) with
      nextRun := server.nextRun + 1 } := by
  refine { invariant with unused := ?_, runs := ?_, calls := ?_, budgets := ?_ }
  · intro run unused
    have unusedBefore : server.nextRun ≤ run := Nat.le_of_lt unused
    refine ⟨?_, (invariant.unused run unusedBefore).2⟩
    dsimp only [Server.moved]
    rw [Function.update_of_ne (Nat.ne_of_gt unused)]
    exact (invariant.unused run unusedBefore).1
  · intro run other running
    obtain ⟨rfl, new⟩ | ⟨-, old⟩ := runs_moved running
    · obtain rfl := Option.some.inj new
      have uncalled := (invariant.unused server.nextRun (Nat.le_refl _)).2
      refine ⟨fun _ => uncalled, ?_, ?_, ?_, ?_, ?_⟩ <;> rw [picked] <;> exact nofun
    · have kept := invariant.runs run other old
      exact ⟨kept.uncalled, kept.granted, kept.holds, kept.pending, kept.produced, kept.made⟩
  · intro call member
    exact ⟨(invariant.calls call member).granted, (invariant.calls call member).claimed⟩
  · intro day
    exact ⟨(invariant.budgets day).bounded, (invariant.budgets day).unset,
      (invariant.budgets day).counter⟩

theorem step (invariant : Invariant limit build before)
    (taken : Step limit build noInvoices before after) : Invariant limit build after := by
  -- the clock, the admissions and the requests do not matter
  have same {next : Server Snapshot Suggestions Analysis}
      (insights : next.insights = before.insights)
      (jobs : next.jobs = before.jobs) (budgets : next.budgets = before.budgets)
      (runs : next.runs = before.runs) (nextRun : next.nextRun = before.nextRun)
      (claims : next.claims = before.claims) (grants : next.grants = before.grants)
      (calls : next.calls = before.calls) (results : next.results = before.results) :
      Invariant limit build next := by
    obtain ⟨⟩ := before
    obtain ⟨⟩ := next
    cases insights; cases jobs; cases budgets; cases runs; cases nextRun; cases claims
    cases grants; cases calls; cases results
    exact {
      unused := invariant.unused
      runs := fun run current running =>
        have kept := invariant.runs run current running
        ⟨kept.uncalled, kept.granted, kept.holds, kept.pending, kept.produced, kept.made⟩
      calls := fun call member =>
        ⟨(invariant.calls call member).granted, (invariant.calls call member).claimed⟩
      single := invariant.single
      ordered := invariant.ordered
      claims := invariant.claims
      unclaimed := invariant.unclaimed
      budgets := fun day => ⟨(invariant.budgets day).bounded, (invariant.budgets day).unset,
        (invariant.budgets day).counter⟩
      rows := invariant.rows
      jobs := invariant.jobs }
  cases taken with
  | tick => exact same rfl rfl rfl rfl rfl rfl rfl rfl rfl
  | admission => exact same rfl rfl rfl rfl rfl rfl rfl rfl rfl
  | admitAgain => exact same rfl rfl rfl rfl rfl rfl rfl rfl rfl
  | create admitted unknown => exact invariant.inserted unknown rfl nofun
  | dispatch =>
      refine invariant.withJob ?_
      rintro content result ⟨⟩
      exact nofun
  | forget => exact invariant.withJob nofun
  | @recover id job result unknown found returned =>
      have made := invariant.jobs id job result found returned
      exact invariant.inserted unknown rfl fun _ => ⟨result, made, rfl, rfl⟩
  | @deliver id job attemptsMade found =>
      exact invariant.delivered rfl
  | process running taken => exact invariant.runStep running taken
  | jobFailed id errorCode => exact invariant.failed errorCode true

theorem steps (invariant : Invariant limit build before)
    (taken : Steps limit build noInvoices before after) : Invariant limit build after := by
  induction taken with
  | refl => exact invariant
  | tail _ last ih => exact ih.step last

theorem calls_le (invariant : Invariant limit build server) (day : Nat) :
    (server.calls.filter fun call => call.day = day).length ≤ limit := by
  -- each of the calls has a grant of its own
  let grant (call : ProviderCall) : Id × Nat := (call.run, call.day)
  have nodup : ((server.calls.filter fun call => call.day = day).map grant).Nodup := by
    apply List.Nodup.of_map Prod.fst
    rw [List.map_map]
    exact invariant.single.sublist (List.filter_sublist.map ProviderCall.run)
  have granted : (server.calls.filter fun call => call.day = day).map grant ⊆
      server.grants.filter fun grant => grant.2 = day := by
    intro pair member
    obtain ⟨call, isCall, rfl⟩ := List.mem_map.mp member
    obtain ⟨called, onDay⟩ := List.mem_filter.mp isCall
    exact List.mem_filter.mpr ⟨(invariant.calls call called).granted, onDay⟩
  calc (server.calls.filter fun call => call.day = day).length
      = ((server.calls.filter fun call => call.day = day).map grant).length :=
        (List.length_map _).symm
    _ ≤ (server.grants.filter fun grant => grant.2 = day).length :=
        (List.subperm_of_subset nodup granted).length_le
    _ = (server.grants.map Prod.snd).count day := by
        rw [List.count, List.countP_map, List.countP_eq_length_filter]
        rfl
    _ ≤ limit := (invariant.budgets day).bounded

end Invariant

theorem kept_changed {server : Server Snapshot Suggestions Analysis} {id other : Id}
    {row : BusinessInsight Snapshot Analysis}
    {change : BusinessInsight Snapshot Analysis → BusinessInsight Snapshot Analysis}
    (found : server.insights id = some row) (kept : id = other → change row = row) :
    (server.changed other change).insights id = some row := by
  dsimp only [Server.changed]
  rw [Function.update_apply]
  split_ifs with same
  · rw [← same, found, Option.map_some, kept same]
  · exact found

theorem kept_inserted {server : Server Snapshot Suggestions Analysis} {id other : Id}
    {row new : BusinessInsight Snapshot Analysis} (found : server.insights id = some row)
    (unknown : server.insights other = none) :
    (server.inserted other new).insights id = some row := by
  have differs : id ≠ other := by
    rintro rfl
    exact nomatch unknown.symm.trans found
  dsimp only [Server.inserted]
  rw [Function.update_of_ne differs]
  exact found

section Closed

variable {before after : Server Snapshot Suggestions Analysis} {id : Id}
  {row : BusinessInsight Snapshot Analysis}

theorem RunStep.kept {run : Id} {current : Run Snapshot Suggestions Analysis}
    (taken : RunStep limit build noInvoices before run current after)
    (found : before.insights id = some row) (closed : isOpen row = false) :
    after.insights id = some row := by
  have notProcessing : row.status ≠ .processing := by
    intro processing
    unfold isOpen at closed
    rw [processing] at closed
    exact nomatch closed
  cases taken with
  | record _ unknown => exact kept_inserted found unknown
  | start => exact kept_changed found fun _ => if_neg (Bool.eq_false_iff.mp closed)
  | @claim _ _ current _ known allowed =>
      refine kept_changed found ?_
      intro same
      rw [same, known] at found
      obtain rfl := Option.some.inj found
      exact absurd (of_decide_eq_true (Bool.and_eq_true_iff.mp allowed).1) notProcessing
  | reset =>
      dsimp only [Server.moved]
      unfold Server.reset
      split_ifs with processing
      · refine kept_changed found ?_
        intro same
        rw [← same, found, Option.any_some] at processing
        exact absurd (of_decide_eq_true processing) notProcessing
      · exact found
  | complete =>
      dsimp only [Server.moved]
      unfold Server.completedBy
      split_ifs
      · exact kept_changed found fun _ => if_neg (Bool.eq_false_iff.mp closed)
      · exact found
  | fail => exact kept_changed found fun _ => if_neg (Bool.eq_false_iff.mp closed)
  | _ => exact found

theorem Step.kept (taken : Step limit build noInvoices before after)
    (found : before.insights id = some row) (closed : isOpen row = false) :
    after.insights id = some row := by
  cases taken with
  | create _ unknown => exact kept_inserted found unknown
  | recover unknown => exact kept_inserted found unknown
  | process _ taken => exact taken.kept found closed
  | jobFailed => exact kept_changed found fun _ => if_neg (Bool.eq_false_iff.mp closed)
  | _ => exact found

theorem Steps.kept (taken : Steps limit build noInvoices before after)
    (found : before.insights id = some row) (closed : isOpen row = false) :
    after.insights id = some row := by
  induction taken with
  | refl => exact found
  | tail _ last ih => exact last.kept ih closed

end Closed

/-- Nothing is stored and no job runs. -/
structure Server.Initial (server : Server Snapshot Suggestions Analysis) : Prop where
  insights : ∀ id, server.insights id = none
  jobs : ∀ id, server.jobs id = none
  budgets : ∀ day, server.budgets day = none
  runs : ∀ run, server.runs run = none
  claims : ∀ id, server.claims id = none
  grants : server.grants = []
  calls : server.calls = []

theorem Server.Initial.invariant {server : Server Snapshot Suggestions Analysis}
    (start : server.Initial) : Invariant limit build server where
  unused run _ := by
    refine ⟨start.runs run, ?_⟩
    rw [start.calls]
    exact nofun
  runs run current running := nomatch (start.runs run).symm.trans running
  calls call member := by
    rw [start.calls] at member
    exact nomatch member
  single := by
    rw [start.calls]
    exact List.nodup_nil
  ordered := by
    rw [start.calls]
    exact List.Pairwise.nil
  claims id row found := nomatch (start.insights id).symm.trans found
  unclaimed id _ := start.claims id
  budgets day := by
    refine ⟨?_, ?_, fun counter found => nomatch (start.budgets day).symm.trans found⟩
    · rw [start.grants]
      exact Nat.zero_le limit
    · intro
      rw [start.grants]
      rfl
  rows id row found := nomatch (start.insights id).symm.trans found
  jobs id job _ found := nomatch (start.jobs id).symm.trans found

/-- `generate` is under way. -/
def Progress.isCalling : Progress Snapshot Suggestions Analysis → Bool
  | .calling _ => true
  | _ => false

theorem Progress.holds_of_isCalling {progress : Progress Snapshot Suggestions Analysis}
    (calling : progress.isCalling = true) : progress.holds = true := by
  cases progress with
  | calling => rfl
  | _ => exact nomatch calling

/-- Of calls of the provider: the daily limit, no overlap, none after an unknown outcome. -/
theorem Server.Initial.providerCalls {initial server : Server Snapshot Suggestions Analysis}
    (start : initial.Initial) (taken : Steps limit build noInvoices initial server) :
    (∀ day, (server.calls.filter fun call => call.day = day).length ≤ limit) ∧
      (∀ run other current next, server.runs run = some current →
        server.runs other = some next →
        current.insight = next.insight → current.progress.isCalling = true →
        next.progress.isCalling = true → run = other) ∧
      (server.calls.Pairwise fun earlier later =>
        earlier.insight = later.insight → earlier.outcome = some .reset) ∧
      (∀ later, Steps limit build noInvoices server later → ∀ id row,
        server.insights id = some row → row.status = .completed ∨ row.status = .failed →
        later.insights id = some row) ∧
      ∀ id row, server.insights id = some row → row.status = .completed →
        ∃ produced ∈ server.results, row.snapshot = some produced.snapshot ∧
          row.analysis = some (build produced.snapshot produced.suggestions) := by
  have invariant : Invariant limit build server := start.invariant.steps taken
  refine ⟨invariant.calls_le, ?_, invariant.ordered, ?_, ?_⟩
  · intro run other current next running runningToo same calling callingToo
    have holder := (invariant.runs run current running).holds (Progress.holds_of_isCalling calling)
    have holderToo :=
      (invariant.runs other next runningToo).holds (Progress.holds_of_isCalling callingToo)
    rw [same, holderToo] at holder
    exact (Option.some.inj holder).symm
  · intro later takenLater id row found terminal
    refine Steps.kept takenLater found ?_
    unfold isOpen
    obtain completed | failed := terminal
    · rw [completed]
      rfl
    · rw [failed]
      rfl
  · intro id row found completed
    obtain ⟨result, ⟨produced, member, snapshot, analysis⟩, hasSnapshot, hasAnalysis⟩ :=
      invariant.rows id row found completed
    rw [snapshot] at hasSnapshot
    rw [analysis] at hasAnalysis
    exact ⟨produced, member, hasSnapshot, hasAnalysis⟩

section Sample

/-- A server on the first day of its clock. -/
def Server.blank : Server String Unit (String × Bool) where
  clock := 0
  insights _ := none
  jobs _ := none
  admissions _ := none
  requests _ := none
  budgets _ := none
  creating := []
  runs _ := none
  nextRun := 0
  claims _ := none
  grants := []
  calls := []
  results := []

theorem Server.blank_initial : Server.blank.Initial where
  insights _ := rfl
  jobs _ := rfl
  budgets _ := rfl
  runs _ := rfl
  claims _ := rfl
  grants := rfl
  calls := rfl

/-- Two calls a day. -/
abbrev SampleSteps :
    Server String Unit (String × Bool) → Server String Unit (String × Bool) → Prop :=
  Steps 2 (fun snapshot suggestions => (snapshot, suggestions.isSome)) fun _ => false

/-- An insight is delivered to two workers.  The first is refused by the provider and crashes, and
the second goes on to the answer. -/
theorem Server.blank_answered : ∃ server, SampleSteps Server.blank server ∧
    server.calls.map (fun call => (call.run, call.outcome)) =
      [(0, some .reset), (1, some .completed)] ∧
    (server.insights 7).any (fun row => row.status = .completed) := by
  let data : BusinessInsightJobData String :=
    { requestHash := "", requestedAt := 0, promptVersion, snapshot := none }
  have admitted : SampleSteps Server.blank _ :=
    .single (@Step.admission _ _ _ _ _ _ _ 7 data rfl rfl rfl rfl rfl nofun Nat.two_pos)
  have created : SampleSteps Server.blank _ :=
    admitted.tail (.create (List.mem_singleton.mpr rfl) rfl rfl)
  have dispatched : SampleSteps Server.blank _ :=
    created.tail (@Step.dispatch _ _ _ _ _ _ _ 7 _ rfl rfl (by decide) rfl)
  have delivered : SampleSteps Server.blank _ :=
    dispatched.tail (@Step.deliver _ _ _ _ _ _ _ 7 _ 0 rfl)
  have found : SampleSteps Server.blank _ :=
    delivered.tail (@Step.process _ _ _ _ _ _ _ 0 _ _ rfl (.findOpen rfl rfl rfl))
  have captured : SampleSteps Server.blank _ :=
    ((found.tail (@Step.process _ _ _ _ _ _ _ 0 _ _ rfl (.proceed rfl rfl))).tail
      (@Step.process _ _ _ _ _ _ _ 0 _ _ rfl (.capture "sales" rfl))).tail
      (@Step.process _ _ _ _ _ _ _ 0 _ _ rfl (.save rfl))
  have started : SampleSteps Server.blank _ :=
    captured.tail (@Step.process _ _ _ _ _ _ _ 0 _ _ rfl (.start rfl))
  have granted : SampleSteps Server.blank _ :=
    started.tail (@Step.process _ _ _ _ _ _ _ 0 _ _ rfl (.grant rfl rfl Nat.two_pos))
  -- The second worker takes the job while the first one has not called yet.
  have joined : SampleSteps Server.blank _ :=
    (granted.tail (@Step.deliver _ _ _ _ _ _ _ 7 _ 1 rfl)).tail
      (@Step.process _ _ _ _ _ _ _ 1 _ _ rfl (.findOpen rfl rfl rfl))
  have startedToo : SampleSteps Server.blank _ :=
    (joined.tail (@Step.process _ _ _ _ _ _ _ 1 _ _ rfl (.proceed rfl rfl))).tail
      (@Step.process _ _ _ _ _ _ _ 1 _ _ rfl (.start rfl))
  have grantedToo : SampleSteps Server.blank _ :=
    startedToo.tail (@Step.process _ _ _ _ _ _ _ 1 _ _ rfl (.grant rfl rfl (by decide +kernel)))
  have called : SampleSteps Server.blank _ :=
    (grantedToo.tail (@Step.process _ _ _ _ _ _ _ 0 _ _ rfl (.claim rfl rfl rfl))).tail
      (@Step.process _ _ _ _ _ _ _ 0 _ _ rfl (.call rfl))
  have crashed : SampleSteps Server.blank _ :=
    ((called.tail (@Step.process _ _ _ _ _ _ _ 0 _ _ rfl
      (.error "AI_PROVIDER_UNAVAILABLE" false rfl))).tail
      (@Step.process _ _ _ _ _ _ _ 0 _ _ rfl (.reset rfl))).tail
      (@Step.process _ _ _ _ _ _ _ 0 _ _ rfl .crash)
  have answered : SampleSteps Server.blank _ :=
    ((crashed.tail (@Step.process _ _ _ _ _ _ _ 1 _ _ rfl (.claim rfl rfl rfl))).tail
      (@Step.process _ _ _ _ _ _ _ 1 _ _ rfl (.call rfl))).tail
      (@Step.process _ _ _ _ _ _ _ 1 _ _ rfl (.answer () rfl))
  have completed : SampleSteps Server.blank _ :=
    answered.tail (@Step.process _ _ _ _ _ _ _ 1 _ _ rfl (.complete rfl))
  exact ⟨_, completed, rfl, rfl⟩

theorem Server.blank_providerCalls : ∃ server, SampleSteps Server.blank server ∧
    server.calls.length = 2 ∧
      (∀ day, (server.calls.filter fun call => call.day = day).length ≤ 2) ∧
      (server.calls.Pairwise fun earlier later =>
        earlier.insight = later.insight → earlier.outcome = some .reset) ∧
      ∃ row, server.insights 7 = some row ∧
        (∀ later, SampleSteps server later → later.insights 7 = some row) ∧
        ∃ produced ∈ server.results, row.snapshot = some produced.snapshot ∧
          row.analysis = some (produced.snapshot, produced.suggestions.isSome) := by
  obtain ⟨server, taken, calls, status⟩ := Server.blank_answered
  obtain ⟨perDay, -, ordered, kept, completed⟩ :=
    Server.Initial.providerCalls Server.blank_initial taken
  obtain ⟨row, found, isCompleted⟩ := (Option.any_eq_true _ _).mp status
  have ended := of_decide_eq_true isCompleted
  have two := congrArg List.length calls
  rw [List.length_map] at two
  exact ⟨server, taken, two, perDay, ordered, row, found,
    fun later steps => kept later steps 7 row found (.inl ended), completed 7 row found ended⟩

end Sample

end CoffeeShop.BusinessInsights
