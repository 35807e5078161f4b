import Mathlib.Data.List.Nodup
import ViewerHost.Proofs.Subsystem.Triggers

/-!
The executions of the host's executor over a run of calls on the subsystems. An identifier is given
out once. Its execution runs until it is finished or the executor is shut down, and there are never
more of them than the settings allow. What was submitted is running or finished; from a shutdown on
it is finished or was given up by the shutdown.
-/

namespace ViewerHost

open Scheduler

inductive ExecutorEvent where
  | started (id : Nat) (flow : Flow)
  | finished (id : Nat)
  | shutDown
deriving DecidableEq

namespace ExecutorEvent

def ofSchedule (start : Schedule × Nat) : ExecutorEvent := .started start.2 start.1.flow

end ExecutorEvent

/-! Logs of executors have the latest event first. -/

namespace ExecutorLog

variable {log : List ExecutorEvent} {event : ExecutorEvent} {id : Nat} {flow : Flow}

def issued (log : List ExecutorEvent) : List Nat :=
  log.filterMap fun
    | .started id _ => some id
    | _ => none

/-- The execution was started, and since then neither finished nor given up by a shutdown. -/
def UnderWay (log : List ExecutorEvent) (id : Nat) (flow : Flow) : Prop :=
  ∃ later earlier, log = later ++ .started id flow :: earlier ∧
    .finished id ∉ later ∧ .shutDown ∉ later

theorem underWay_cons :
    UnderWay (event :: log) id flow ↔
      event = .started id flow ∨
        event ≠ .finished id ∧ event ≠ .shutDown ∧ UnderWay log id flow := by
  constructor
  · rintro ⟨later, earlier, split, unfinished, open'⟩
    cases later with
    | nil => exact Or.inl (List.cons.inj split).1
    | cons latest later =>
        obtain ⟨rfl, rfl⟩ := List.cons.inj split
        rw [List.mem_cons, not_or] at unfinished open'
        exact Or.inr ⟨Ne.symm unfinished.1, Ne.symm open'.1, later, earlier, rfl, unfinished.2,
          open'.2⟩
  · rintro (rfl | ⟨other, running, later, earlier, rfl, unfinished, open'⟩)
    · exact ⟨[], log, rfl, List.not_mem_nil, List.not_mem_nil⟩
    · refine ⟨event :: later, earlier, rfl, ?_, ?_⟩
      · exact fun member => (List.mem_cons.mp member).elim (other ·.symm) unfinished
      · exact fun member => (List.mem_cons.mp member).elim (running ·.symm) open'

theorem mem_issued_iff : id ∈ issued log ↔ ∃ flow, .started id flow ∈ log := by
  rw [issued, List.mem_filterMap]
  constructor
  · rintro ⟨event, member, same⟩
    cases event with
    | started id' flow =>
        obtain rfl := Option.some.inj same
        exact ⟨flow, member⟩
    | finished => cases same
    | shutDown => cases same
  · rintro ⟨flow, member⟩
    exact ⟨_, member, rfl⟩

theorem UnderWay.started_mem (underWay : UnderWay log id flow) : .started id flow ∈ log := by
  obtain ⟨later, earlier, rfl, -⟩ := underWay
  exact List.mem_append_right later List.mem_cons_self

theorem UnderWay.mem_issued (underWay : UnderWay log id flow) : id ∈ issued log :=
  mem_issued_iff.mpr ⟨flow, underWay.started_mem⟩

end ExecutorLog

namespace Executor

open ExecutorLog

variable {e e' : Executor} {id limit n : Nat} {log : List ExecutorEvent} {clock now : Instant}
  {flow : Flow} {schedules : List Schedule}

theorem isRunning_iff : e.isRunning id = true ↔ id ∈ e.running.map Prod.fst := by
  simp [isRunning]

theorem finish_isOk_iff : (∃ after, e.finish id = .ok after) ↔ id ∈ e.running.map Prod.fst := by
  rw [← isRunning_iff, finish]
  by_cases running : e.isRunning id = true
  · rw [if_pos running]
    exact iff_of_true ⟨_, rfl⟩ running
  · rw [if_neg running]
    refine iff_of_false ?_ running
    rintro ⟨after, ⟨⟩⟩

theorem finish_ok (accepted : e.finish id = .ok e') :
    id ∈ e.running.map Prod.fst ∧
      e' = { e with finished := e.finished + 1, running := e.running.filter (·.1 != id) } := by
  refine ⟨finish_isOk_iff.mp ⟨e', accepted⟩, ?_⟩
  unfold finish at accepted
  split at accepted
  · exact (Except.ok.inj accepted).symm
  · cases accepted

theorem slots_pos_iff :
    0 < e.slots ↔ e.isShutDown = false ∧ e.running.length < e.maxConcurrent := by
  unfold slots
  cases e.isShutDown with
  | true => simp
  | false =>
      rw [if_neg Bool.false_ne_true, Nat.sub_pos_iff_lt]
      exact (and_iff_right rfl).symm

theorem submit_ok (accepted : e.submit clock flow = .ok (id, e')) :
    0 < e.slots ∧ id = e.nextId ∧ e' = e.starting clock flow := by
  cases room : e.slots with
  | zero =>
      obtain ⟨cause, refused⟩ : ∃ cause, e.submit clock flow = .error cause := submit_full room
      rw [refused] at accepted
      cases accepted
  | succ n =>
      rw [submit_free room] at accepted
      obtain ⟨rfl, rfl⟩ := Prod.mk.inj (Except.ok.inj accepted)
      exact ⟨Nat.succ_pos n, rfl, rfl⟩

theorem shutDown_of_closed (closed : e.isShutDown = true) : e.shutDown = e := if_pos closed

theorem shutDown_eq (idle : e.isShutDown = true → e.running = []) :
    e.shutDown = { e with isShutDown := true, running := [] } := by
  cases closed : e.isShutDown with
  | true =>
      have nothing := idle closed
      rw [shutDown_of_closed closed]
      cases e
      simp_all
  | false => rw [shutDown, if_neg (by simp [closed])]

theorem length_filter_running {running : List (Nat × Flow)}
    (distinct : (running.map Prod.fst).Nodup) (member : id ∈ running.map Prod.fst) :
    (running.filter (·.1 != id)).length + 1 = running.length := by
  have once : running.countP (·.1 == id) = 1 := by
    rw [← List.count_eq_one_of_mem distinct member, List.count, List.countP_map]
    rfl
  have split := running.length_eq_countP_add_countP (·.1 == id)
  simp only [bne, ← List.countP_eq_length_filter, Bool.not_eq_true, Bool.decide_eq_false] at split ⊢
  omega

/-- How the state of an executor agrees with the log of what it has done. -/
structure Ledger (limit : Nat) (log : List ExecutorEvent) (e : Executor) : Prop where
  limited : e.maxConcurrent = limit
  room : e.running.length ≤ limit
  distinct : (e.running.map Prod.fst).Nodup
  once : (issued log).Nodup
  fresh : ∀ id ∈ issued log, id < e.nextId
  underWay : ∀ id flow, (id, flow) ∈ e.running ↔ UnderWay log id flow
  ended : ∀ id, .finished id ∈ log → id < e.nextId ∧ id ∉ e.running.map Prod.fst
  balance : e.isShutDown = false → e.nextId = e.running.length + e.finished + 1
  closed : e.isShutDown = true ↔ .shutDown ∈ log
  idle : e.isShutDown = true → e.running = []

namespace Ledger

theorem empty (limit : Nat) : Ledger limit [] (ofLimit limit) where
  limited := rfl
  room := Nat.zero_le limit
  distinct := List.nodup_nil
  once := List.nodup_nil
  fresh := fun _ member => absurd member List.not_mem_nil
  underWay := by simp [ofLimit, UnderWay]
  ended := fun _ member => absurd member List.not_mem_nil
  balance := fun _ => rfl
  closed := by simp [ofLimit]
  idle := fun _ => rfl

theorem nextId_not_running (ledger : Ledger limit log e) : e.nextId ∉ e.running.map Prod.fst := by
  intro member
  obtain ⟨⟨id, flow⟩, member, same⟩ := List.mem_map.mp member
  have below := ledger.fresh id ((ledger.underWay id flow).mp member).mem_issued
  dsimp only at same
  omega

theorem starting (ledger : Ledger limit log e) (room : 0 < e.slots) (clock : Instant)
    (flow : Flow) :
    Ledger limit (.started e.nextId flow :: log) (e.starting clock flow) := by
  obtain ⟨running, free⟩ := slots_pos_iff.mp room
  have limited := ledger.limited
  have balance := ledger.balance running
  constructor
  case limited => exact limited
  case room =>
    simp only [Executor.starting, List.length_append, List.length_singleton]
    omega
  case distinct =>
    rw [Executor.starting, List.map_append, List.nodup_append]
    refine ⟨ledger.distinct, List.nodup_singleton _, ?_⟩
    rintro old member new last rfl
    have newest : old = e.nextId := by simpa using last
    exact ledger.nextId_not_running (newest ▸ member)
  case once =>
    refine List.nodup_cons.mpr ⟨?_, ledger.once⟩
    intro member
    exact Nat.lt_irrefl _ (ledger.fresh _ member)
  case fresh =>
    intro id member
    rcases List.mem_cons.mp member with rfl | member
    · exact Nat.lt_succ_self _
    · exact Nat.lt_succ_of_lt (ledger.fresh id member)
  case underWay =>
    intro id given
    rw [underWay_cons, Executor.starting, List.mem_append, ledger.underWay]
    simp [eq_comm, or_comm]
  case ended =>
    intro id member
    obtain ⟨below, away⟩ := ledger.ended id (by simpa using member)
    refine ⟨Nat.lt_succ_of_lt below, ?_⟩
    rw [Executor.starting, List.map_append, List.mem_append, not_or]
    exact ⟨away, by simpa using Nat.ne_of_lt below⟩
  case balance =>
    intro _
    simp only [Executor.starting, List.length_append, List.length_singleton]
    omega
  case closed => simpa [Executor.starting] using ledger.closed
  case idle =>
    intro closed
    rw [Executor.starting, running] at closed
    cases closed

theorem finish (ledger : Ledger limit log e) (accepted : e.finish id = .ok e') :
    Ledger limit (.finished id :: log) e' := by
  obtain ⟨member, rfl⟩ := finish_ok accepted
  have fewer := length_filter_running ledger.distinct member
  have room := ledger.room
  constructor
  case limited => exact ledger.limited
  case room =>
    dsimp only
    omega
  case distinct => exact (List.filter_sublist.map Prod.fst).nodup ledger.distinct
  case once => exact ledger.once
  case fresh => exact ledger.fresh
  case underWay =>
    intro other flow
    rw [underWay_cons, List.mem_filter, ledger.underWay, and_comm]
    simp [@eq_comm _ other]
  case ended =>
    intro other finished
    have away : other ∈ (e.running.filter (·.1 != id)).map Prod.fst → other ≠ id := by
      rintro back rfl
      obtain ⟨execution, kept, same⟩ := List.mem_map.mp back
      simp [same] at kept
    rcases List.mem_cons.mp finished with same | earlier
    · obtain rfl := ExecutorEvent.finished.inj same
      obtain ⟨⟨id, flow⟩, running, rfl⟩ := List.mem_map.mp member
      exact ⟨ledger.fresh id ((ledger.underWay id flow).mp running).mem_issued,
        fun back => away back rfl⟩
    · obtain ⟨below, gone⟩ := ledger.ended other earlier
      exact ⟨below, fun back => gone ((List.filter_sublist.map Prod.fst).subset back)⟩
  case balance =>
    intro running
    have balance := ledger.balance running
    dsimp only
    omega
  case closed => simpa using ledger.closed
  case idle =>
    intro closed
    rw [ledger.idle closed] at member
    cases member

theorem shutDown (ledger : Ledger limit log e) : Ledger limit (.shutDown :: log) e.shutDown := by
  rw [shutDown_eq ledger.idle]
  constructor
  case limited => exact ledger.limited
  case room => exact Nat.zero_le limit
  case distinct => exact List.nodup_nil
  case once => exact ledger.once
  case fresh => exact ledger.fresh
  case underWay =>
    intro id flow
    simp [underWay_cons]
  case ended =>
    intro id member
    exact ⟨(ledger.ended id (by simpa using member)).1, List.not_mem_nil⟩
  case balance => rintro ⟨⟩
  case closed => simp
  case idle => exact fun _ => rfl

theorem balanced (ledger : Ledger limit log e) (running : e.isShutDown = false) :
    e.stats.submitted = e.stats.running + e.stats.finished := by
  have balance := ledger.balance running
  simp only [stats]
  omega

theorem finish_isOk_iff (ledger : Ledger limit log e) :
    (∃ after, e.finish id = .ok after) ↔
      ∃ flow later earlier, log = later ++ .started id flow :: earlier ∧
        .finished id ∉ log ∧ .shutDown ∉ later := by
  rw [Executor.finish_isOk_iff]
  constructor
  · intro member
    have unfinished := fun finished => (ledger.ended id finished).2 member
    obtain ⟨⟨id, flow⟩, running, rfl⟩ := List.mem_map.mp member
    obtain ⟨later, earlier, split, -, open'⟩ := (ledger.underWay id flow).mp running
    exact ⟨flow, later, earlier, split, unfinished, open'⟩
  · rintro ⟨flow, later, earlier, rfl, unfinished, open'⟩
    have since : .finished id ∉ later := fun finished => unfinished (List.mem_append_left _ finished)
    exact List.mem_map_of_mem ((ledger.underWay id flow).mpr ⟨later, earlier, rfl, since, open'⟩)

theorem pass (ledger : Ledger limit log e) :
    ∃ after, (Scheduler.pass now clock (.own e) schedules).executor = .own after ∧
      Ledger limit
        ((Scheduler.pass now clock (.own e) schedules).started.reverse.map .ofSchedule ++ log)
        after := by
  induction e, schedules using Scheduler.pass_induction now clock generalizing log with
  | nil e => exact ⟨e, rfl, ledger⟩
  | waits e s rest waits ih =>
      rw [Scheduler.pass_waits waits]
      exact ih ledger
  | moves e s rest next n due free moves ih =>
      have room : 0 < e.slots := free ▸ Nat.succ_pos n
      obtain ⟨after, same, onward⟩ := ih (ledger.starting room clock s.flow)
      -- What the rest of the pass starts comes later, and so stands before this start in the log.
      rw [Scheduler.pass_moves due free moves]
      refine ⟨after, same, ?_⟩
      rw [TriggerPass.starting, List.reverse_cons, List.map_append, List.append_assoc]
      exact onward
  | overruns e s rest last n due free overruns =>
      have room : 0 < e.slots := free ▸ Nat.succ_pos n
      rw [Scheduler.pass_overruns due free overruns]
      exact ⟨_, rfl, ledger.starting room clock s.flow⟩

end Ledger

end Executor

namespace Subsystems

variable {s : Subsystems} {e : Executor} {limit : Nat} {log : List ExecutorEvent}

def startedBy (s : Subsystems) (now clock : Instant) : List (Schedule × Nat) :=
  match s.schedules.manager with
  | .basic c => if c.isShutDown then [] else (pass now clock s.executor.manager c.schedules).started
  | .standIn _ => []

def executorEvents (s : Subsystems) : Call → List ExecutorEvent
  | .submit clock flow =>
    match s.submit clock flow with
    | .ok (id, _) => [.started id flow]
    | .error _ => []
  | .finish id =>
    match s.finish id with
    | .ok _ => [.finished id]
    | .error _ => []
  | .triggerDue now clock => (s.startedBy now clock).reverse.map .ofSchedule
  | .close .executor => [.shutDown]
  | _ => []

def executorLog (s : Subsystems) : List Call → List ExecutorEvent
  | [] => []
  | call :: calls => (s.perform call).executorLog calls ++ s.executorEvents call

inductive ExecutorStep (e : Executor) : List ExecutorEvent → ExecutorManager → Prop where
  | unmoved : ExecutorStep e [] (.own e)
  | submitted {clock : Instant} {flow : Flow} {id : Nat} {e' : Executor} :
      e.submit clock flow = .ok (id, e') → ExecutorStep e [.started id flow] (.own e')
  | finished {id : Nat} {e' : Executor} :
      e.finish id = .ok e' → ExecutorStep e [.finished id] (.own e')
  | triggered (now clock : Instant) (schedules : List Schedule) :
      ExecutorStep e ((pass now clock (.own e) schedules).started.reverse.map .ofSchedule)
        (pass now clock (.own e) schedules).executor
  | closed : ExecutorStep e [.shutDown] (.own e.shutDown)

theorem trigger_executor_eq {c : Scheduler} {m : ExecutorManager} {now clock : Instant}
    (running : c.isShutDown = false) :
    (c.trigger m now clock).2.1 = (pass now clock m c.schedules).executor := by
  cases whole : (pass now clock m c.schedules).outOfRange with
  | true => rw [trigger_broken running whole]
  | false => rw [trigger_whole running whole]

theorem executorStep_trigger (own : s.executor.manager = .own e) (now clock : Instant) :
    ExecutorStep e (s.executorEvents (.triggerDue now clock))
      (s.perform (.triggerDue now clock)).executor.manager := by
  simp only [executorEvents, startedBy, perform, triggerDue, own]
  cases s.schedules.manager with
  | standIn other => exact .unmoved
  | basic c =>
      cases running : c.isShutDown with
      | true =>
          simp only [ScheduleManager.trigger, trigger_closed running, running, if_true]
          exact .unmoved
      | false =>
          simp only [ScheduleManager.trigger, trigger_executor_eq running, running,
            Bool.false_eq_true, if_false]
          exact .triggered now clock c.schedules

theorem executorStep (own : s.executor.manager = .own e) (call : Call) :
    ExecutorStep e (s.executorEvents call) (s.perform call).executor.manager := by
  cases call with
  | submit clock flow =>
      simp only [executorEvents, perform, submit, own, ExecutorManager.submit]
      cases accepted : e.submit clock flow with
      | error cause => exact own ▸ .unmoved
      | ok product => exact .submitted accepted
  | finish id =>
      simp only [executorEvents, perform, finish, own, ExecutorManager.finish]
      cases accepted : e.finish id with
      | error cause => exact own ▸ .unmoved
      | ok after => exact .finished accepted
  | addRule flow =>
      rw [perform, addRule]
      cases s.sla.manager.addRule flow <;> exact own ▸ .unmoved
  | check =>
      rw [perform, check]
      cases s.sla.manager.check s.executor.manager.running <;> exact own ▸ .unmoved
  | addSchedule flow firstRun period => exact own ▸ .unmoved
  | removeSchedule id => exact own ▸ .unmoved
  | triggerDue now clock => exact executorStep_trigger own now clock
  | close role =>
      cases role with
      | executor =>
          simp only [executorEvents, perform, close, own, ExecutorManager.shutDown]
          exact .closed
      | users => exact own ▸ .unmoved
      | projects => exact own ▸ .unmoved
      | sla => exact own ▸ .unmoved
      | schedules => exact own ▸ .unmoved

theorem ExecutorStep.ledger {events : List ExecutorEvent} {m : ExecutorManager}
    (step : ExecutorStep e events m) (ledger : e.Ledger limit log) :
    ∃ after, m = .own after ∧ after.Ledger limit (events ++ log) := by
  cases step with
  | unmoved => exact ⟨e, rfl, ledger⟩
  | submitted accepted =>
      obtain ⟨room, rfl, rfl⟩ := Executor.submit_ok accepted
      exact ⟨_, rfl, ledger.starting room _ _⟩
  | finished accepted => exact ⟨_, rfl, ledger.finish accepted⟩
  | triggered now clock schedules => exact ledger.pass
  | closed => exact ⟨_, rfl, ledger.shutDown⟩

theorem ExecutorStep.of_closed {events : List ExecutorEvent} {m : ExecutorManager}
    (step : ExecutorStep e events m) (closed : e.isShutDown = true) (idle : e.running = []) :
    m = .own e := by
  cases step with
  | unmoved => rfl
  | submitted accepted =>
      obtain ⟨room, -⟩ := Executor.submit_ok accepted
      rw [Executor.slots_pos_iff, closed] at room
      cases room.1
  | finished accepted =>
      obtain ⟨member, -⟩ := Executor.finish_ok accepted
      rw [idle] at member
      cases member
  | triggered now clock schedules =>
      have full : e.slots = 0 := if_pos closed
      rw [executor_of_full full]
  | closed => rw [Executor.shutDown_of_closed closed]

theorem ledger_after (own : s.executor.manager = .own e) (ledger : e.Ledger limit log)
    (calls : List Call) :
    ∃ e', (s.after calls).executor.manager = .own e' ∧
      e'.Ledger limit (s.executorLog calls ++ log) := by
  induction calls generalizing s e log with
  | nil => exact ⟨e, own, ledger⟩
  | cons call calls ih =>
      obtain ⟨e', own', ledger'⟩ := (executorStep own call).ledger ledger
      rw [executorLog, List.append_assoc]
      exact ih own' ledger'

theorem after_of_closed (own : s.executor.manager = .own e) (closed : e.isShutDown = true)
    (idle : e.running = []) (calls : List Call) : (s.after calls).executor.manager = .own e := by
  induction calls generalizing s with
  | nil => exact own
  | cons call calls ih => exact ih ((executorStep own call).of_closed closed idle)

theorem after_close (own : s.executor.manager = .own e)
    (idle : e.isShutDown = true → e.running = []) (calls : List Call) :
    ((s.perform (.close .executor)).after calls).executor.manager =
      .own { e with isShutDown := true, running := [] } := by
  apply after_of_closed
  · simp only [perform, close, own, ExecutorManager.shutDown, Executor.shutDown_eq idle]
  · rfl
  · rfl

theorem shutDown_mem_executorEvents_iff {call : Call} :
    .shutDown ∈ s.executorEvents call ↔ call = .close .executor := by
  cases call with
  | submit clock flow =>
      rw [executorEvents]
      cases s.submit clock flow <;> simp
  | finish id =>
      rw [executorEvents]
      cases s.finish id <;> simp
  | triggerDue now clock => simp [executorEvents, ExecutorEvent.ofSchedule]
  | close role => cases role <;> simp [executorEvents]
  | addRule | check | addSchedule | removeSchedule => simp [executorEvents]

theorem shutDown_mem_executorLog_iff {calls : List Call} :
    .shutDown ∈ s.executorLog calls ↔ .close .executor ∈ calls := by
  induction calls generalizing s with
  | nil => simp [executorLog]
  | cons call calls ih =>
      rw [executorLog, List.mem_append, ih, shutDown_mem_executorEvents_iff, List.mem_cons, or_comm,
        eq_comm]

theorem finish_isOk_iff (own : s.executor.manager = .own e) {id : Nat} :
    (∃ after, s.finish id = .ok after) ↔ ∃ after, e.finish id = .ok after := by
  simp only [finish, own, ExecutorManager.finish]
  cases e.finish id with
  | error cause =>
      apply iff_of_false
      · rintro ⟨after, ⟨⟩⟩
      · rintro ⟨after, ⟨⟩⟩
  | ok after => exact iff_of_true ⟨_, rfl⟩ ⟨_, rfl⟩

open ExecutorLog

/-- In every state the executor runs no more executions than the settings allow, each under an
identifier that was given out once. What it has submitted is running or finished until it is shut
down, and from then on finished or given up at the shutdown. An execution can be finished once, as
long as no shutdown has come between; a call that is refused changes nothing. -/
theorem executions_accounted {settings : Settings} {initial : Executor}
    (configured : Executor.ofSettings settings = .ok initial)
    (own : s.executor.manager = .own initial) (calls : List Call) :
    ∃ e, (s.after calls).executor.manager = .own e ∧
      e.stats.running ≤ initial.maxConcurrent ∧
      (∀ id flow, (id, flow) ∈ e.running → id < e.nextId ∧
        .started id flow ∈ s.executorLog calls ∧ (issued (s.executorLog calls)).count id = 1) ∧
      (.close .executor ∉ calls → e.stats.submitted = e.stats.running + e.stats.finished) ∧
      (∀ before further, calls = before ++ .close .executor :: further →
        .close .executor ∉ before →
        ∃ earlier, (s.after before).executor.manager = .own earlier ∧
          e.stats.submitted = earlier.stats.submitted ∧
          e.stats.finished = earlier.stats.finished ∧
          e.stats.submitted = e.stats.finished + earlier.stats.running) ∧
      (∀ id, (∃ after, (s.after calls).finish id = .ok after) ↔
        ∃ flow later earlier, s.executorLog calls = later ++ .started id flow :: earlier ∧
          .finished id ∉ s.executorLog calls ∧ .shutDown ∉ later) ∧
      (∀ clock flow cause, (s.after calls).submit clock flow = .error cause →
        (s.after calls).perform (.submit clock flow) = s.after calls) ∧
      ∀ id cause, (s.after calls).finish id = .error cause →
        (s.after calls).perform (.finish id) = s.after calls := by
  obtain ⟨limit, -, rfl⟩ := Executor.ofSettings_ok configured
  have accounts := fun calls => ledger_after own (.empty limit) calls
  simp only [List.append_nil] at accounts
  obtain ⟨e, own', ledger⟩ := accounts calls
  refine ⟨e, own', ledger.room, ?_, ?_, ?_, ?_, ?_, ?_⟩
  · intro id flow running
    have underWay := (ledger.underWay id flow).mp running
    have once := List.count_eq_one_of_mem ledger.once underWay.mem_issued
    exact ⟨ledger.fresh id underWay.mem_issued, underWay.started_mem, once⟩
  · intro unclosed
    apply ledger.balanced
    rw [← Bool.not_eq_true, ledger.closed, shutDown_mem_executorLog_iff]
    exact unclosed
  · rintro before further rfl unclosed
    obtain ⟨earlier, own₁, ledger₁⟩ := accounts before
    have running : earlier.isShutDown = false := by
      rw [← Bool.not_eq_true, ledger₁.closed, shutDown_mem_executorLog_iff]
      exact unclosed
    have same := after_close own₁ ledger₁.idle further
    rw [after, List.foldl_append] at own'
    obtain rfl := ExecutorManager.own.inj (own'.symm.trans same)
    refine ⟨earlier, own₁, rfl, rfl, ?_⟩
    rw [Nat.add_comm]
    exact ledger₁.balanced running
  · intro id
    rw [finish_isOk_iff own', ledger.finish_isOk_iff]
  · intro clock flow cause refused
    rw [perform, refused]
    rfl
  · intro id cause refused
    rw [perform, refused]
    rfl

theorem executions_accounted_given_up :
    let before := Sample.calls (.ofMillis 3600000) ++ [.finish 1]
    Executor.ofSettings Sample.settings = .ok (.ofLimit 10) ∧
      Sample.subsystems.executor.manager = .own (.ofLimit 10) ∧
      ∃ e, (Sample.subsystems.after (before ++ [.close .executor, .finish 2])).executor.manager =
          .own e ∧
        e.stats.finished = 1 ∧ e.stats.submitted = e.stats.finished + 1 := by
  intro before
  have configured : Executor.ofSettings Sample.settings = .ok (.ofLimit 10) := rfl
  have hosted : Sample.subsystems.executor.manager = .own (.ofLimit 10) := rfl
  obtain ⟨e, own, -, -, -, closed, -⟩ :=
    executions_accounted configured hosted (before ++ [.close .executor, .finish 2])
  have unclosed : .close .executor ∉ before := by simp [before, Sample.calls]
  obtain ⟨earlier, own₁, -, finished, submitted⟩ := closed before [.finish 2] rfl unclosed
  have counts : (Sample.subsystems.after before).executor.manager.stats.running = 1 ∧
      (Sample.subsystems.after before).executor.manager.stats.finished = 1 := by
    obtain ⟨after, ran, hosted₁⟩ := Sample.run_hour
    have same : Sample.subsystems.after (Sample.calls Sample.hour) = after :=
      congrArg History.subsystems ran
    have last : Sample.subsystems.after before = after.perform (.finish 1) := by
      rw [← same]
      rfl
    rw [last, perform, finish, hosted₁]
    exact ⟨rfl, rfl⟩
  rw [own₁] at counts
  refine ⟨configured, hosted, e, own, finished.trans counts.2, ?_⟩
  rw [submitted]
  exact congrArg (e.stats.finished + ·) counts.1

end Subsystems

end ViewerHost
