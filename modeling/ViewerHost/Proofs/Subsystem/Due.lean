import ViewerHost.Proofs.Subsystem.Executions

namespace ViewerHost

namespace Schedule

variable {s : Schedule} {now : Instant}

def caughtUp (s : Schedule) (now : Instant) : Schedule :=
  match s.follow now with
  | .ok after => after
  | .error last => last

theorem caughtUp_eq (s : Schedule) (now : Instant) :
    s.caughtUp now = { s with nextRun := (s.caughtUp now).nextRun } := by
  obtain ⟨run, moved | moved⟩ := s.follow_moves now
  · simp only [caughtUp, moved]
  · simp only [caughtUp, moved]

theorem caughtUp_firstAfter {period : Duration} (positive : period.isPositive = true)
    (repeats : s.period = some period) (due : s.isDue now = true) (names : ¬s.Overruns now) :
    FirstAfter now period s.nextRun (s.caughtUp now).nextRun := by
  cases caught : catchUp now period s.nextRun with
  | ok next =>
      simp only [caughtUp, follow_of_ok repeats caught]
      exact firstAfter_of_catchUp positive due caught
  | error last =>
      obtain ⟨runs, reached, stuck⟩ := (catchUp_eq_error_iff positive).mp caught
      exact absurd ⟨period, last, repeats, runs, reached, stuck⟩ names

end Schedule

namespace Scheduler

variable {now clock : Instant} {e : Executor} {c : Scheduler} {s : Schedule}
  {schedules : List Schedule}

theorem started_of_whole (whole : (pass now clock (.own e) schedules).outOfRange = false) :
    (pass now clock (.own e) schedules).started.map (·.1) = eligible e now schedules := by
  induction e, schedules using pass_induction now clock with
  | nil e => simp [pass, eligible]
  | waits e s rest waits ih =>
      rw [pass_waits waits] at whole ⊢
      rw [eligible_waits waits]
      exact ih whole
  | moves e s rest next n due free moves ih =>
      rw [pass_moves due free moves] at whole ⊢
      rw [eligible_due clock due free]
      exact congrArg (s :: ·) (ih whole)
  | overruns e s rest last n due free overruns =>
      rw [pass_overruns due free overruns] at whole
      cases whole

theorem schedules_of_whole (distinct : schedules.Nodup)
    (whole : (pass now clock (.own e) schedules).outOfRange = false) :
    (pass now clock (.own e) schedules).schedules =
      schedules.map fun s => if s ∈ eligible e now schedules then s.caughtUp now else s := by
  induction e, schedules using pass_induction now clock with
  | nil e => rfl
  | waits e s rest waits ih =>
      obtain ⟨other, distinct⟩ := List.nodup_cons.mp distinct
      rw [pass_waits waits] at whole ⊢
      rw [eligible_waits waits, List.map_cons,
        if_neg fun member => other ((eligible_sublist e now rest).subset member)]
      exact congrArg (s :: ·) (ih distinct whole)
  | moves e s rest next n due free moves ih =>
      obtain ⟨other, distinct⟩ := List.nodup_cons.mp distinct
      rw [pass_moves due free moves] at whole ⊢
      rw [eligible_due clock due free, List.map_cons, if_pos List.mem_cons_self]
      have moved : s.caughtUp now = next := by simp only [Schedule.caughtUp, moves]
      have rest' := ih distinct whole
      rw [moved]
      refine congrArg (next :: ·) (rest'.trans ?_)
      -- The schedule itself does not come up again.
      apply List.map_congr_left
      intro t member
      have different : t ≠ s := fun same => other (same ▸ member)
      simp only [List.mem_cons, different, false_or]
  | overruns e s rest last n due free overruns =>
      rw [pass_overruns due free overruns] at whole
      cases whole

theorem mem_completed_iff (distinct : (schedules.map (·.id)).Nodup)
    (whole : (pass now clock (.own e) schedules).outOfRange = false) (listed : s ∈ schedules) :
    s.id ∈ (pass now clock (.own e) schedules).completed ↔
      s ∈ eligible e now schedules ∧ s.period = none := by
  rw [mem_completed, started_of_whole whole, onceIds, List.mem_map]
  constructor
  · rintro ⟨t, member, same⟩
    obtain ⟨submitted, once⟩ := List.mem_filter.mp member
    have listed' := (eligible_sublist e now schedules).subset submitted
    obtain rfl := List.inj_on_of_nodup_map distinct listed' listed same
    exact ⟨submitted, Option.isNone_iff_eq_none.mp once⟩
  · rintro ⟨submitted, once⟩
    exact ⟨s, List.mem_filter.mpr ⟨submitted, Option.isNone_iff_eq_none.mpr once⟩, rfl⟩

theorem remaining_of_whole (distinct : (schedules.map (·.id)).Nodup)
    (whole : (pass now clock (.own e) schedules).outOfRange = false) :
    (pass now clock (.own e) schedules).remaining =
      schedules.filterMap fun s =>
        if s ∈ eligible e now schedules then s.period.map fun _ => s.caughtUp now else some s := by
  have gone := fun s => mem_completed_iff (s := s) distinct whole
  rw [TriggerPass.remaining, schedules_of_whole distinct.of_map whole, ← List.filterMap_eq_filter,
    List.filterMap_map]
  apply List.filterMap_congr
  intro s listed
  have sameId : (s.caughtUp now).id = s.id := by rw [s.caughtUp_eq]
  by_cases submitted : s ∈ eligible e now schedules
  · cases once : s.period with
    | none =>
        have completed := (gone s listed).mpr ⟨submitted, once⟩
        simp [submitted, sameId, completed, Option.guard]
    | some period =>
        have stays : s.id ∉ (pass now clock (.own e) schedules).completed := by
          rw [gone s listed, once]
          rintro ⟨-, ⟨⟩⟩
        simp [submitted, sameId, stays, Option.guard]
  · have stays : s.id ∉ (pass now clock (.own e) schedules).completed :=
      fun completed => submitted ((gone s listed).mp completed).1
    simp [submitted, stays, Option.guard]

theorem trigger_exact (numbered : c.Numbered) (running : c.isShutDown = false)
    (clock : Instant) (names : ∀ s ∈ eligible e now c.schedules, ¬s.Overruns now) :
    c.trigger (.own e) now clock =
      ({ c with
        schedules := c.schedules.filterMap fun s =>
          if s ∈ eligible e now c.schedules then s.period.map fun _ => s.caughtUp now else some s
        triggered := c.triggered + (eligible e now c.schedules).length },
        .own (e.startingAll clock ((eligible e now c.schedules).map (·.flow))),
        .ok (List.range' e.nextId (eligible e now c.schedules).length)) := by
  have whole : (pass now clock (.own e) c.schedules).outOfRange = false := by
    rw [← Bool.not_eq_true, outOfRange_iff now clock e c.schedules numbered.positive]
    rintro ⟨s, submitted, overruns⟩
    exact names s submitted overruns
  have started := started_of_whole whole
  have count : (pass now clock (.own e) c.schedules).started.length =
      (eligible e now c.schedules).length := by rw [← started, List.length_map]
  rw [trigger_whole running whole, remaining_of_whole numbered.distinct whole, executor_of_pass,
    ids_of_pass, count, ← started, List.map_map]
  rfl

end Scheduler

def ExecutorManager.own? : ExecutorManager → Option Executor
  | own e => some e
  | standIn _ _ _ => none

def ScheduleManager.basic? : ScheduleManager → Option Scheduler
  | basic c => some c
  | standIn _ => none

namespace Subsystems

open Scheduler ExecutorLog

variable {s initial : Subsystems} {settings : Settings} {e : Executor} {c : Scheduler}

theorem Own.after (own : s.Own e c) (numbered : c.Numbered) (calls : List Call) :
    ∃ e' c', (s.after calls).Own e' c' ∧ c'.Numbered := by
  induction calls generalizing s e c with
  | nil => exact ⟨e, c, own, numbered⟩
  | cons call calls ih =>
      obtain ⟨e', c', own', effect⟩ := own.exists_effect call
      exact ih own' (numbered.effect effect)

/-- A trigger that is refused changes nothing. One that can name the runs it comes to submits the
first of the due schedules, as many as the executor has room for, and gives their executions the
next identifiers. Of these schedules, the ones that run once are removed and the others wait for
their first run after `now`. -/
theorem due_schedules_submitted (built : (Assembly.run .standard settings).product = .ok initial)
    (calls : List Call) :
    let s := initial.after calls
    ∃ e c, s.executor.manager = .own e ∧ s.schedules.manager = .basic c ∧
      (c.isShutDown = true → ∀ now clock,
        s.triggerDue now clock = (s, .error (.refused (.shutDown "scheduler")))) ∧
      (c.isShutDown = false → ∀ now clock,
        let due := c.schedules.filter (·.nextRun.le now)
        let free := if e.isShutDown then 0 else e.maxConcurrent - e.running.length
        let k := min due.length free
        let first := due.take k
        let ids := List.range' e.nextId k
        (∀ schedule ∈ first, ¬schedule.Overruns now) →
        (∀ id ∈ ids, id ∉ issued (initial.executorLog calls)) ∧
        ∃ next : Schedule → Instant,
          (∀ schedule ∈ first, ∀ period ∈ schedule.period,
            Schedule.FirstAfter now period schedule.nextRun (next schedule)) ∧
          s.triggerDue now clock = ({ s with
            executor := { s.executor with manager := .own { e with
              nextId := e.nextId + k
              running := e.running ++ ids.zip (first.map (·.flow))
              lastSubmitted := if first = [] then e.lastSubmitted else some clock } }
            schedules := { s.schedules with manager := .basic { c with
              schedules := c.schedules.filterMap fun schedule =>
                if schedule ∈ first then
                  schedule.period.map fun _ => { schedule with nextRun := next schedule }
                else some schedule
              triggered := c.triggered + k } } }, .ok ids)) := by
  have fresh := Assembly.fresh_of_run built
  obtain ⟨e₀, configured, own₀⟩ := fresh.executor
  obtain ⟨limit, -, rfl⟩ := Executor.ofSettings_ok configured
  obtain ⟨e, c, own, numbered⟩ := Own.after ⟨own₀, fresh.schedules⟩ numbered_empty calls
  obtain ⟨e', own', ledger⟩ := ledger_after own₀ (.empty limit) calls
  obtain rfl : e = e' := ExecutorManager.own.inj (own.executor.symm.trans own')
  rw [List.append_nil] at ledger
  refine ⟨e, c, own.executor, own.schedules, ?_, ?_⟩
  · intro closed now clock
    rw [own.triggerDue, trigger_closed closed, ← own.executor, ← own.schedules]
    rfl
  · intro running now clock due free k first ids names
    have first_eq : first = eligible e now c.schedules := by
      simp only [first, k, Nat.min_comm due.length]
      exact List.take_eq_take_min.symm
    have count : first.length = k := by simp [first, k]
    refine ⟨?_, fun schedule => (schedule.caughtUp now).nextRun, ?_, ?_⟩
    · intro id given issued
      have old := ledger.fresh id issued
      have new := (List.mem_range'_1.mp given).1
      omega
    · intro schedule submitted period repeats
      have listed := List.mem_filter.mp (List.mem_of_mem_take submitted)
      have positive := numbered.positive schedule listed.1 period repeats
      exact Schedule.caughtUp_firstAfter positive repeats listed.2 (names schedule submitted)
    · have submits := trigger_exact numbered running clock (first_eq ▸ names)
      rw [own.triggerDue, submits, ← first_eq, count]
      simp only [Executor.startingAll, ← Schedule.caughtUp_eq, List.length_map, count,
        List.map_eq_nil_iff]
      rfl

theorem due_schedules_submitted_late :
    let start : Instant := ⟨1700000000, 0⟩
    let now : Instant := ⟨1700010000, 0⟩
    let calls : List Call := List.replicate 8 (.submit start ⟨"etl", "index"⟩) ++
      [.addSchedule ⟨"etl", "load"⟩ start none,
        .addSchedule ⟨"etl", "report"⟩ start (some (.ofMillis 3600000)),
        .addSchedule ⟨"etl", "clean"⟩ start none]
    let s := Sample.subsystems.after calls
    (Assembly.run .standard Sample.settings).product = .ok Sample.subsystems ∧
      (s.triggerDue now now).2 = .ok [9, 10] ∧
      (s.triggerDue now now).1.schedules.manager.schedules =
        [⟨2, ⟨"etl", "report"⟩, ⟨1700010800, 0⟩, some (.ofMillis 3600000)⟩,
          ⟨3, ⟨"etl", "clean"⟩, start, none⟩] := by
  have caught : Schedule.catchUp ⟨1700010000, 0⟩ (.ofMillis 3600000) ⟨1700000000, 0⟩ =
      .ok ⟨1700010800, 0⟩ := by
    have first : Schedule.Next (.ofMillis 3600000) ⟨1700000000, 0⟩ ⟨1700003600, 0⟩ := rfl
    have second : Schedule.Next (.ofMillis 3600000) ⟨1700003600, 0⟩ ⟨1700007200, 0⟩ := rfl
    have third : Schedule.Next (.ofMillis 3600000) ⟨1700007200, 0⟩ ⟨1700010800, 0⟩ := rfl
    rw [Schedule.catchUp_of_behind (by decide) (by decide) first,
      Schedule.catchUp_of_behind (by decide) (by decide) second,
      Schedule.catchUp_of_behind (by decide) (by decide) third]
    exact Schedule.catchUp_of_ahead (by decide)
  intro start now calls s
  refine ⟨Sample.built, ?_⟩
  let once : Schedule := ⟨1, ⟨"etl", "load"⟩, start, none⟩
  let hourly : Schedule := ⟨2, ⟨"etl", "report"⟩, start, some (.ofMillis 3600000)⟩
  let waiting : Schedule := ⟨3, ⟨"etl", "clean"⟩, start, none⟩
  obtain ⟨e, c, hosted, scheduled, -, submits⟩ := due_schedules_submitted Sample.built calls
  have executor : s.executor.manager.own? =
      some { Executor.ofLimit 10 with
        nextId := 9
        running := (List.range' 1 8).map fun id => (id, ⟨"etl", "index"⟩)
        lastSubmitted := some start } := by decide +kernel
  have scheduler : s.schedules.manager.basic? =
      some { Scheduler.empty with
        nextId := 4
        schedules := [once, hourly, waiting] } := by decide +kernel
  rw [hosted] at executor
  rw [scheduled] at scheduler
  obtain rfl := Option.some.inj executor
  obtain rfl := Option.some.inj scheduler
  have positive : ∀ period ∈ hourly.period, period.isPositive = true := by
    rintro period ⟨⟩
    decide
  have named : ∀ schedule ∈ [once, hourly], ¬schedule.Overruns now := by
    intro schedule member
    rcases List.mem_pair.mp member with rfl | rfl
    · rintro ⟨period, -, ⟨⟩, -⟩
    · rw [← Schedule.follow_eq_error_iff positive, Schedule.follow_of_ok rfl caught]
      rintro ⟨last, ⟨⟩⟩
  obtain ⟨-, next, first, result⟩ := submits rfl now now named
  have onward : next hourly = ⟨1700010800, 0⟩ :=
    Schedule.firstAfter_unique (first hourly (by decide) _ rfl)
      (Schedule.firstAfter_of_catchUp (by decide) (by decide) caught)
  rw [result]
  refine ⟨rfl, ?_⟩
  rw [← onward]
  rfl

end Subsystems

end ViewerHost
