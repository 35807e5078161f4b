import ViewerHost.Proofs.Subsystem.Calls

namespace ViewerHost

open Subsystems
open scoped List

namespace Scheduler

variable {call : Call} {e e' : Executor} {c c' : Scheduler} {submitted : List Schedule}
  {now clock : Instant} {projects : ProjectManager} {flow : Flow} {period : Option Duration}

/-! ## Schedules keep their numbers -/

structure Numbered (c : Scheduler) : Prop where
  distinct : (c.schedules.map (·.id)).Nodup
  below : ∀ s ∈ c.schedules, s.id < c.nextId
  positive : ∀ s ∈ c.schedules, ∀ period ∈ s.period, period.isPositive = true

structure Admits (c : Scheduler) (projects : ProjectManager) (flow : Flow)
    (period : Option Duration) : Prop where
  running : c.isShutDown = false
  known : projects.contains flow.project = true
  repeats : ∀ p ∈ period, p.isPositive = true

def listing (c : Scheduler) (flow : Flow) (firstRun : Instant) (period : Option Duration) :
    Scheduler :=
  { c with
    nextId := c.nextId + 1
    schedules := c.schedules ++ [⟨c.nextId, flow, firstRun, period⟩] }

theorem repeats_iff {period : Option Duration} :
    ¬(period.any fun p => !p.isPositive) = true ↔ ∀ p ∈ period, p.isPositive = true := by
  cases period with
  | none => simp
  | some p => simp

theorem add_admitted (sla : SlaManager) (firstRun : Instant)
    (admits : c.Admits projects flow period) :
    c.add projects sla flow firstRun period =
      match sla.addRule flow with
      | .error cause => (c.listing flow firstRun period, sla, .error cause)
      | .ok after => (c.listing flow firstRun period, after, .ok c.nextId) := by
  rw [add, if_neg (by simp [admits.running]), if_neg (by simp [admits.known]),
    if_neg (repeats_iff.mpr admits.repeats)]
  rfl

theorem add_barred (sla : SlaManager) (firstRun : Instant)
    (barred : ¬c.Admits projects flow period) :
    ∃ cause, cause ≠ Sla.stopped ∧
      c.add projects sla flow firstRun period = (c, sla, .error cause) := by
  -- The three faults that the scheduler finds, each in words of its own.
  unfold add
  split
  · exact ⟨stopped, by decide, rfl⟩
  · rename_i running
    split
    · exact ⟨.invalid _, nofun, rfl⟩
    · rename_i known
      split
      · exact ⟨.invalid _, nofun, rfl⟩
      · rename_i repeats
        refine absurd ⟨?_, ?_, repeats_iff.mp repeats⟩ barred
        · simpa using running
        · simpa using known

theorem add_cases (c : Scheduler) (projects : ProjectManager) (sla : SlaManager) (flow : Flow)
    (firstRun : Instant) (period : Option Duration) :
    (c.add projects sla flow firstRun period).1 = c ∨
      (∀ p ∈ period, p.isPositive = true) ∧
        (c.add projects sla flow firstRun period).1 = c.listing flow firstRun period := by
  by_cases admits : c.Admits projects flow period
  · refine Or.inr ⟨admits.repeats, ?_⟩
    rw [add_admitted sla firstRun admits]
    cases sla.addRule flow with
    | error cause => rfl
    | ok after => rfl
  · obtain ⟨cause, -, refused⟩ := add_barred sla firstRun admits
    exact Or.inl (congrArg Prod.fst refused)

theorem remaining_sublist (now clock : Instant) (e : Executor) (schedules : List Schedule) :
    (pass now clock (.own e) schedules).remaining.map kept <+ schedules.map kept := by
  rw [← kept_of_pass now clock e schedules]
  exact List.filter_sublist.map kept

theorem trigger_shrinks (c : Scheduler) (e : Executor) (now clock : Instant) :
    (c.trigger (.own e) now clock).1.schedules.map kept <+ c.schedules.map kept ∧
      (c.trigger (.own e) now clock).1.nextId = c.nextId := by
  cases running : c.isShutDown with
  | true =>
      rw [trigger_closed running]
      exact ⟨.refl _, rfl⟩
  | false =>
      cases whole : (pass now clock (.own e) c.schedules).outOfRange with
      | true =>
          rw [trigger_broken running whole, kept_of_pass]
          exact ⟨.refl _, rfl⟩
      | false =>
          rw [trigger_whole running whole]
          exact ⟨remaining_sublist now clock e c.schedules, rfl⟩

theorem effect_schedules (effect : Effect call e c e' c') :
    c'.schedules.map kept <+ c.schedules.map kept ∧ c'.nextId = c.nextId ∨
      ∃ s, s.id = c.nextId ∧ (∀ period ∈ s.period, period.isPositive = true) ∧
        c'.schedules = c.schedules ++ [s] ∧ c'.nextId = c.nextId + 1 := by
  cases effect with
  | added projects sla flow firstRun period =>
      rcases c.add_cases projects sla flow firstRun period with same | ⟨positive, listed⟩
      · rw [same]
        exact Or.inl ⟨.refl _, rfl⟩
      · rw [listed]
        exact Or.inr ⟨_, rfl, positive, rfl, rfl⟩
  | removed id => exact Or.inl ⟨List.filter_sublist.map kept, rfl⟩
  | @triggered now clock e e' c c' outcome ran =>
      have shrinks := c.trigger_shrinks e now clock
      rw [ran] at shrinks
      exact Or.inl shrinks
  | none => exact Or.inl ⟨.refl _, rfl⟩
  | submitted => exact Or.inl ⟨.refl _, rfl⟩
  | finished => exact Or.inl ⟨.refl _, rfl⟩
  | executorClosed => exact Or.inl ⟨.refl _, rfl⟩
  | schedulesClosed => exact Or.inl ⟨.refl _, rfl⟩

theorem exists_kept {schedules schedules' : List Schedule}
    (fewer : schedules'.map kept <+ schedules.map kept) {s : Schedule} (member : s ∈ schedules') :
    ∃ t ∈ schedules, t.id = s.id ∧ t.period = s.period := by
  obtain ⟨t, member', same⟩ := List.mem_map.mp (fewer.subset (List.mem_map_of_mem member))
  exact ⟨t, member', congrArg Prod.fst same, congrArg Prod.snd same⟩

theorem ids_sublist {schedules schedules' : List Schedule}
    (fewer : schedules'.map kept <+ schedules.map kept) :
    schedules'.map (·.id) <+ schedules.map (·.id) := by
  have ids := fewer.map Prod.fst
  rwa [List.map_map, List.map_map] at ids

theorem numbered_empty : Numbered .empty where
  distinct := List.nodup_nil
  below := fun _ member => absurd member List.not_mem_nil
  positive := fun _ member => absurd member List.not_mem_nil

theorem Numbered.effect (numbered : c.Numbered) (effect : Effect call e c e' c') : c'.Numbered := by
  rcases effect_schedules effect with ⟨fewer, sameId⟩ | ⟨s, id, positive, listed, nextId⟩
  · refine ⟨(ids_sublist fewer).nodup numbered.distinct, ?_, ?_⟩
    · intro s member
      obtain ⟨t, member', same, -⟩ := exists_kept fewer member
      rw [sameId, ← same]
      exact numbered.below t member'
    · intro s member
      obtain ⟨t, member', -, same⟩ := exists_kept fewer member
      rw [← same]
      exact numbered.positive t member'
  · refine ⟨?_, ?_, ?_⟩
    · rw [listed, List.map_append, List.nodup_append]
      refine ⟨numbered.distinct, by simp, ?_⟩
      intro old member new last
      obtain ⟨t, member', rfl⟩ := List.mem_map.mp member
      have below := numbered.below t member'
      have newest : new = c.nextId := by simpa [id] using last
      omega
    · intro t member
      rw [listed] at member
      rw [nextId]
      rcases List.mem_append.mp member with old | new
      · exact Nat.lt_succ_of_lt (numbered.below t old)
      · rw [List.mem_singleton.mp new, id]
        exact Nat.lt_succ_self _
    · intro t member
      rw [listed] at member
      rcases List.mem_append.mp member with old | new
      · exact numbered.positive t old
      · rw [List.mem_singleton.mp new]
        exact positive

/-! ## Schedules that run once -/

def onceIds (submitted : List Schedule) : List Nat :=
  (submitted.filter fun s => s.period.isNone).map (·.id)

theorem onceIds_append (first second : List Schedule) :
    onceIds (first ++ second) = onceIds first ++ onceIds second := by
  rw [onceIds, List.filter_append, List.map_append]
  rfl

theorem onceIds_sublist (submitted : List Schedule) : onceIds submitted <+ submitted.map (·.id) :=
  List.filter_sublist.map _

/-- What was submitted of the schedules that run once was submitted once and is gone. -/
structure Spent (submitted : List Schedule) (c : Scheduler) : Prop where
  once : (onceIds submitted).Nodup
  gone : ∀ id ∈ onceIds submitted, id ∉ c.schedules.map (·.id)
  below : ∀ id ∈ onceIds submitted, id < c.nextId

theorem Spent.effect (spent : Spent submitted c) (effect : Effect call e c e' c') :
    Spent submitted c' := by
  rcases effect_schedules effect with ⟨fewer, sameId⟩ | ⟨s, id, -, listed, nextId⟩
  · refine ⟨spent.once, ?_, ?_⟩
    · intro id member back
      exact spent.gone id member ((ids_sublist fewer).subset back)
    · intro id member
      rw [sameId]
      exact spent.below id member
  · refine ⟨spent.once, ?_, ?_⟩
    · intro id' member back
      have below := spent.below id' member
      rw [listed, List.map_append] at back
      rcases List.mem_append.mp back with old | new
      · exact spent.gone id' member old
      · have newest : id' = c.nextId := by simpa [id] using new
        omega
    · intro id' member
      rw [nextId]
      exact Nat.lt_succ_of_lt (spent.below id' member)

theorem started_sublist (now clock : Instant) (e : Executor) (schedules : List Schedule) :
    (pass now clock (.own e) schedules).started.map Prod.fst <+ schedules :=
  (started_isPrefix e schedules).sublist.trans (eligible_sublist e now schedules)

theorem mem_completed {id : Nat} (now clock : Instant) (e : Executor) (schedules : List Schedule) :
    id ∈ (pass now clock (.own e) schedules).completed ↔
      id ∈ onceIds ((pass now clock (.own e) schedules).started.map Prod.fst) := by
  simp [TriggerPass.completed, onceIds]

theorem Spent.whole (spent : Spent submitted c) (numbered : c.Numbered)
    (running : c.isShutDown = false)
    (whole : (pass now clock (.own e) c.schedules).outOfRange = false) :
    Spent (submitted ++ (pass now clock (.own e) c.schedules).started.map Prod.fst)
      (c.trigger (.own e) now clock).1 := by
  have listed := started_sublist now clock e c.schedules
  have known := (onceIds_sublist _).trans (listed.map (·.id))
  have shrinks := c.trigger_shrinks e now clock
  refine ⟨?_, ?_, ?_⟩
  -- Among themselves they differ by number; the earlier ones are not listed any more.
  · rw [onceIds_append, List.nodup_append]
    refine ⟨spent.once, known.nodup numbered.distinct, ?_⟩
    rintro id old _ new rfl
    exact spent.gone id old (known.subset new)
  · intro id member back
    rw [onceIds_append] at member
    rcases List.mem_append.mp member with old | new
    · exact spent.gone id old ((ids_sublist shrinks.1).subset back)
    · rw [trigger_whole running whole] at back
      obtain ⟨s, stays, rfl⟩ := List.mem_map.mp back
      have completed := (mem_completed now clock e c.schedules).mpr new
      have survives := (List.mem_filter.mp stays).2
      simp [completed] at survives
  · intro id member
    rw [onceIds_append] at member
    rw [shrinks.2]
    rcases List.mem_append.mp member with old | new
    · exact spent.below id old
    · obtain ⟨s, member', rfl⟩ := List.mem_map.mp (known.subset new)
      exact numbered.below s member'

/-! ## Counts -/

theorem executor_numbers (effect : Effect call e c e' c') : e.nextId ≤ e'.nextId := by
  cases effect with
  | @submitted clock flow id e e' c accepted =>
      unfold Executor.submit at accepted
      split at accepted
      · cases accepted
      · split at accepted
        · cases accepted
        · obtain ⟨-, rfl⟩ := Prod.mk.inj (Except.ok.inj accepted)
          exact Nat.le_succ _
  | @finished id e e' c accepted =>
      unfold Executor.finish at accepted
      split at accepted
      · obtain rfl := Except.ok.inj accepted
        exact Nat.le_refl _
      · cases accepted
  | @triggered now clock e e' c c' outcome ran =>
      obtain ⟨after, same, later⟩ := c.trigger_executor e now clock
      rw [ran] at same
      obtain rfl := ExecutorManager.own.inj same
      exact later
  | executorClosed =>
      unfold Executor.shutDown
      split
      · exact Nat.le_refl _
      · exact Nat.le_refl _
  | none => exact Nat.le_refl _
  | added => exact Nat.le_refl _
  | removed => exact Nat.le_refl _
  | schedulesClosed => exact Nat.le_refl _

theorem triggered_kept (effect : Effect call e c e' c')
    (other : ∀ now clock, call ≠ .triggerDue now clock) : c'.triggered = c.triggered := by
  cases effect with
  | added projects sla flow firstRun period =>
      rcases c.add_cases projects sla flow firstRun period with same | ⟨-, listed⟩
      · rw [same]
      · rw [listed]
        rfl
  | @triggered now clock e e' c c' outcome ran => exact absurd rfl (other now clock)
  | none => rfl
  | submitted => rfl
  | finished => rfl
  | removed => rfl
  | executorClosed => rfl
  | schedulesClosed => rfl

end Scheduler

end ViewerHost
