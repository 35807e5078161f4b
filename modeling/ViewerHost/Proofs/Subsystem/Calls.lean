import ViewerHost.Proofs.Subsystem.Pass
import ViewerHost.Subsystem.Operations

namespace ViewerHost

inductive Call where
  | submit (clock : Instant) (flow : Flow)
  | finish (id : Nat)
  | addRule (flow : Flow)
  | check
  | addSchedule (flow : Flow) (firstRun : Instant) (period : Option Duration)
  | removeSchedule (id : Nat)
  | triggerDue (now clock : Instant)
  | close (role : Role)

namespace Subsystems

variable {s : Subsystems} {e e' : Executor} {c c' : Scheduler}

def settle (s : Subsystems) : Except SubsystemError Subsystems → Subsystems
  | .ok after => after
  | .error _ => s

def perform (s : Subsystems) : Call → Subsystems
  | .submit clock flow => s.settle ((s.submit clock flow).map Prod.snd)
  | .finish id => s.settle (s.finish id)
  | .addRule flow => s.settle (s.addRule flow)
  | .check => s.settle (s.check.map Prod.snd)
  | .addSchedule flow firstRun period => (s.addSchedule flow firstRun period).1
  | .removeSchedule id => (s.removeSchedule id).1
  | .triggerDue now clock => (s.triggerDue now clock).1
  | .close role => (s.close role).1

def after (s : Subsystems) (calls : List Call) : Subsystems := calls.foldl perform s

theorem perform_cases (s : Subsystems) (call : Call) :
    (∃ role, call = .close role) ∨ ∃ executor sla schedules, s.perform call = { s with
      executor := { s.executor with manager := executor }
      sla := { s.sla with manager := sla }
      schedules := { s.schedules with manager := schedules } } := by
  have unmoved : ∃ executor sla schedules, s = { s with
      executor := { s.executor with manager := executor }
      sla := { s.sla with manager := sla }
      schedules := { s.schedules with manager := schedules } } :=
    ⟨s.executor.manager, s.sla.manager, s.schedules.manager, rfl⟩
  cases call with
  | submit clock flow =>
      rw [perform, submit]
      cases s.executor.manager.submit clock flow with
      | error cause => exact Or.inr unmoved
      | ok product => exact Or.inr ⟨product.2, s.sla.manager, s.schedules.manager, rfl⟩
  | finish id =>
      rw [perform, finish]
      cases s.executor.manager.finish id with
      | error cause => exact Or.inr unmoved
      | ok after => exact Or.inr ⟨after, s.sla.manager, s.schedules.manager, rfl⟩
  | addRule flow =>
      rw [perform, addRule]
      cases s.sla.manager.addRule flow with
      | error cause => exact Or.inr unmoved
      | ok after => exact Or.inr ⟨s.executor.manager, after, s.schedules.manager, rfl⟩
  | check =>
      rw [perform, check]
      cases s.sla.manager.check s.executor.manager.running with
      | error cause => exact Or.inr unmoved
      | ok product => exact Or.inr ⟨s.executor.manager, product.2, s.schedules.manager, rfl⟩
  | addSchedule flow firstRun period => exact Or.inr ⟨s.executor.manager, _, _, rfl⟩
  | removeSchedule id => exact Or.inr ⟨s.executor.manager, s.sla.manager, _, rfl⟩
  | triggerDue now clock => exact Or.inr ⟨_, s.sla.manager, _, rfl⟩
  | close role => exact Or.inl ⟨role, rfl⟩

structure Own (s : Subsystems) (e : Executor) (c : Scheduler) : Prop where
  executor : s.executor.manager = .own e
  schedules : s.schedules.manager = .basic c

inductive Effect : Call → Executor → Scheduler → Executor → Scheduler → Prop where
  | none (call : Call) (e : Executor) (c : Scheduler) : Effect call e c e c
  | submitted {clock : Instant} {flow : Flow} {id : Nat} {e e' : Executor} (c : Scheduler) :
      e.submit clock flow = .ok (id, e') → Effect (.submit clock flow) e c e' c
  | finished {id : Nat} {e e' : Executor} (c : Scheduler) :
      e.finish id = .ok e' → Effect (.finish id) e c e' c
  | added (projects : ProjectManager) (sla : SlaManager) (flow : Flow) (firstRun : Instant)
      (period : Option Duration) (e : Executor) (c : Scheduler) :
      Effect (.addSchedule flow firstRun period) e c e (c.add projects sla flow firstRun period).1
  | removed (id : Nat) (e : Executor) (c : Scheduler) :
      Effect (.removeSchedule id) e c e (c.remove id).1
  | triggered {now clock : Instant} {e e' : Executor} {c c' : Scheduler}
      {outcome : Except TriggerFailure (List Nat)} :
      c.trigger (.own e) now clock = (c', .own e', outcome) →
      Effect (.triggerDue now clock) e c e' c'
  | executorClosed (e : Executor) (c : Scheduler) : Effect (.close .executor) e c e.shutDown c
  | schedulesClosed (e : Executor) (c : Scheduler) : Effect (.close .schedules) e c e c.shutDown

theorem Own.triggerDue (own : s.Own e c) (now clock : Instant) :
    s.triggerDue now clock =
      ({ s with
        schedules := { s.schedules with manager := .basic (c.trigger (.own e) now clock).1 }
        executor := { s.executor with manager := (c.trigger (.own e) now clock).2.1 } },
        (c.trigger (.own e) now clock).2.2) := by
  rw [Subsystems.triggerDue, own.executor, own.schedules]
  rfl

theorem Own.perform_executor (own : s.Own e c) {call : Call}
    (outcome : Except SubsystemError Executor)
    (performed : s.perform call = s.settle (outcome.map fun after =>
      { s with executor := { s.executor with manager := .own after } }))
    (effect : ∀ after, outcome = .ok after → Effect call e c after c) :
    ∃ e', (s.perform call).Own e' c ∧ Effect call e c e' c := by
  rw [performed]
  cases outcome with
  | error cause => exact ⟨e, own, .none call e c⟩
  | ok after => exact ⟨after, ⟨rfl, own.schedules⟩, effect after rfl⟩

theorem Own.perform_submit (own : s.Own e c) (clock : Instant) (flow : Flow) :
    ∃ e', (s.perform (.submit clock flow)).Own e' c ∧ Effect (.submit clock flow) e c e' c := by
  refine own.perform_executor ((e.submit clock flow).map Prod.snd) ?_ ?_
  · simp only [perform, Subsystems.submit, own.executor, ExecutorManager.submit]
    cases e.submit clock flow with
    | error cause => rfl
    | ok product => rfl
  · intro after taken
    cases accepted : e.submit clock flow with
    | error cause =>
        rw [accepted] at taken
        cases taken
    | ok product =>
        rw [accepted] at taken
        obtain rfl := Except.ok.inj taken
        exact .submitted c accepted

theorem Own.perform_finish (own : s.Own e c) (id : Nat) :
    ∃ e', (s.perform (.finish id)).Own e' c ∧ Effect (.finish id) e c e' c := by
  refine own.perform_executor (e.finish id) ?_ ?_
  · simp only [perform, Subsystems.finish, own.executor, ExecutorManager.finish]
    cases e.finish id with
    | error cause => rfl
    | ok after => rfl
  · exact fun after accepted => .finished c accepted

theorem Own.perform_addRule (own : s.Own e c) (flow : Flow) : (s.perform (.addRule flow)).Own e c := by
  rw [perform, Subsystems.addRule]
  cases s.sla.manager.addRule flow with
  | error cause => exact own
  | ok after => exact ⟨own.executor, own.schedules⟩

theorem Own.perform_check (own : s.Own e c) : (s.perform .check).Own e c := by
  rw [perform, Subsystems.check]
  cases s.sla.manager.check s.executor.manager.running with
  | error cause => exact own
  | ok product => exact ⟨own.executor, own.schedules⟩

theorem Own.perform_close (own : s.Own e c) (role : Role) :
    ∃ e' c', (s.perform (.close role)).Own e' c' ∧ Effect (.close role) e c e' c' := by
  cases role with
  | executor =>
      refine ⟨e.shutDown, c, ⟨?_, own.schedules⟩, .executorClosed e c⟩
      simp only [perform, close, own.executor, ExecutorManager.shutDown]
  | schedules =>
      refine ⟨e, c.shutDown, ⟨own.executor, ?_⟩, .schedulesClosed e c⟩
      simp only [perform, close, own.schedules, ScheduleManager.shutDown]
  | users => exact ⟨e, c, ⟨own.executor, own.schedules⟩, .none _ e c⟩
  | projects => exact ⟨e, c, ⟨own.executor, own.schedules⟩, .none _ e c⟩
  | sla => exact ⟨e, c, ⟨own.executor, own.schedules⟩, .none _ e c⟩

theorem Own.perform_trigger (own : s.Own e c) (now clock : Instant) :
    ∃ e', (s.perform (.triggerDue now clock)).Own e' (c.trigger (.own e) now clock).1 ∧
      Effect (.triggerDue now clock) e c e' (c.trigger (.own e) now clock).1 := by
  obtain ⟨after, same, -⟩ := c.trigger_executor e now clock
  refine ⟨after, ?_, ?_⟩
  · rw [perform, own.triggerDue, same]
    exact ⟨rfl, rfl⟩
  · exact .triggered (by rw [← same])

theorem Own.exists_effect (own : s.Own e c) (call : Call) :
    ∃ e' c', (s.perform call).Own e' c' ∧ Effect call e c e' c' := by
  cases call with
  | submit clock flow =>
      obtain ⟨e', after, effect⟩ := own.perform_submit clock flow
      exact ⟨e', c, after, effect⟩
  | finish id =>
      obtain ⟨e', after, effect⟩ := own.perform_finish id
      exact ⟨e', c, after, effect⟩
  | addRule flow => exact ⟨e, c, own.perform_addRule flow, .none _ e c⟩
  | check => exact ⟨e, c, own.perform_check, .none _ e c⟩
  | addSchedule flow firstRun period =>
      refine ⟨e, _, ⟨own.executor, ?_⟩, .added s.projects.manager s.sla.manager flow firstRun
        period e c⟩
      simp only [Subsystems.perform, addSchedule, own.schedules, ScheduleManager.add]
  | removeSchedule id =>
      refine ⟨e, _, ⟨own.executor, ?_⟩, .removed id e c⟩
      simp only [Subsystems.perform, removeSchedule, own.schedules, ScheduleManager.remove]
  | triggerDue now clock =>
      obtain ⟨e', after, effect⟩ := own.perform_trigger now clock
      exact ⟨e', _, after, effect⟩
  | close role => exact own.perform_close role

end Subsystems

end ViewerHost
