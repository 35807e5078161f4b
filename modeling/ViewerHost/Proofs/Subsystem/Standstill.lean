import ViewerHost.Proofs.Subsystem.Directories
import ViewerHost.Proofs.Subsystem.Rules

namespace ViewerHost

def Call.removed : Call → List Nat
  | .removeSchedule id => [id]
  | _ => []

namespace Scheduler

def without (c : Scheduler) (ids : List Nat) : Scheduler :=
  { c with schedules := c.schedules.filter fun s => s.id ∉ ids }

theorem without_nil (c : Scheduler) : c.without [] = c := by simp [without]

theorem without_append (c : Scheduler) (ids others : List Nat) :
    c.without (ids ++ others) = (c.without ids).without others := by
  simp [without, List.filter_filter, Bool.and_comm]

theorem remove_eq_without (c : Scheduler) (id : Nat) : (c.remove id).1 = c.without [id] := by
  simp [remove, without, bne, Bool.beq_eq_decide_eq]

end Scheduler

namespace Subsystems

variable {s : Subsystems} {call : Call} {c : Scheduler} {settings : Settings}

structure Native (s : Subsystems) : Prop where
  users : ∃ store, s.users.manager = .memory store
  projects : ∃ store, s.projects.manager = .memory store
  executor : ∃ e limit log, s.executor.manager = .own e ∧ e.Ledger limit log
  sla : ∃ sla, s.sla.manager = .basic sla
  schedules : ∃ c, s.schedules.manager = .basic c

theorem native_of_fresh (fresh : Assembly.Fresh settings s) : s.Native := by
  obtain ⟨users, -, ofUsers⟩ := fresh.users
  obtain ⟨projects, -, ofProjects⟩ := fresh.projects
  obtain ⟨e, configured, own⟩ := fresh.executor
  obtain ⟨sla, -, ofSla⟩ := fresh.sla
  obtain ⟨limit, -, rfl⟩ := Executor.ofSettings_ok configured
  exact ⟨⟨users, ofUsers⟩, ⟨projects, ofProjects⟩, ⟨_, limit, [], own, .empty limit⟩,
    ⟨sla, ofSla⟩, ⟨_, fresh.schedules⟩⟩

theorem perform_memory
    (memory : (∃ store, s.users.manager = .memory store) ∧
      ∃ store, s.projects.manager = .memory store) (call : Call) :
    (∃ store, (s.perform call).users.manager = .memory store) ∧
      ∃ store, (s.perform call).projects.manager = .memory store := by
  obtain ⟨⟨users, ofUsers⟩, ⟨projects, ofProjects⟩⟩ := memory
  constructor
  · rcases users_closedBy.perform s call with same | shut
    · exact ⟨users, same.trans ofUsers⟩
    · exact ⟨users.shutDown, shut.trans (congrArg (·.shutDown.1) ofUsers)⟩
  · rcases projects_closedBy.perform s call with same | shut
    · exact ⟨projects, same.trans ofProjects⟩
    · exact ⟨projects.shutDown, shut.trans (congrArg (·.shutDown.1) ofProjects)⟩

theorem Native.perform (native : s.Native) (call : Call) : (s.perform call).Native := by
  obtain ⟨e, limit, log, own, ledger⟩ := native.executor
  obtain ⟨rules, ofSla⟩ := native.sla
  obtain ⟨c, ofSchedules⟩ := native.schedules
  obtain ⟨users, projects⟩ := perform_memory ⟨native.users, native.projects⟩ call
  obtain ⟨e', own', ledger'⟩ := (executorStep own call).ledger ledger
  obtain ⟨rules', ofSla', -⟩ := perform_rules ofSla call
  obtain ⟨-, c', ⟨-, ofSchedules'⟩, -⟩ := (Own.mk own ofSchedules).exists_effect call
  exact ⟨users, projects, ⟨e', limit, _, own', ledger'⟩, ⟨rules', ofSla'⟩, ⟨c', ofSchedules'⟩⟩

theorem Native.after (native : s.Native) (calls : List Call) : (s.after calls).Native := by
  induction calls generalizing s with
  | nil => exact native
  | cons call calls ih => exact ih (native.perform call)

structure Stopped (s : Subsystems) : Prop where
  users : ∃ store, s.users.manager = .memory store ∧ store.isShutDown = true
  projects : ∃ store, s.projects.manager = .memory store ∧ store.isShutDown = true
  executor : ∃ e, s.executor.manager = .own e ∧ e.isShutDown = true ∧ e.running = []
  sla : ∃ sla, s.sla.manager = .basic sla ∧ sla.isShutDown = true
  schedules : ∃ c, s.schedules.manager = .basic c ∧ c.isShutDown = true

theorem Native.closeAll (native : s.Native) : s.closeAll.subsystems.Stopped := by
  obtain ⟨users, ofUsers⟩ := native.users
  obtain ⟨projects, ofProjects⟩ := native.projects
  obtain ⟨e, limit, log, own, ledger⟩ := native.executor
  obtain ⟨sla, ofSla⟩ := native.sla
  obtain ⟨c, ofSchedules⟩ := native.schedules
  -- An executor that was shut down before is left as it is: it is idle by its ledger.
  have closed := Executor.shutDown_eq ledger.idle
  exact {
    users := ⟨users.shutDown, congrArg (·.shutDown.1) ofUsers, rfl⟩
    projects := ⟨projects.shutDown, congrArg (·.shutDown.1) ofProjects, rfl⟩
    executor := ⟨e.shutDown, congrArg (·.shutDown.1) own, by rw [closed], by rw [closed]⟩
    sla := ⟨sla.shutDown, congrArg (·.shutDown.1) ofSla, rfl⟩
    schedules := ⟨c.shutDown, congrArg (·.shutDown.1) ofSchedules, rfl⟩ }

/-- Subsystems that refuse all that starts, ends or watches an execution, or lets a user in. -/
structure Refusing (s : Subsystems) : Prop where
  submit : ∀ clock flow, s.submit clock flow = .error (.shutDown "executor")
  finish : ∀ id, s.finish id = .error (.invalid ("Execution " ++ toString id ++ " is not running"))
  addRule : ∀ flow, s.addRule flow = .error Sla.stopped
  check : s.check = .error Sla.stopped
  addSchedule : ∀ flow firstRun period,
    s.addSchedule flow firstRun period = (s, .error Scheduler.stopped)
  triggerDue : ∀ now clock, s.triggerDue now clock = (s, .error (.refused Scheduler.stopped))
  authenticate : ∀ name password,
    s.users.manager.authenticate name password = .error (.shutDown "user manager")

def scheduling (s : Subsystems) (c : Scheduler) : Subsystems :=
  { s with schedules := { s.schedules with manager := .basic c } }

theorem scheduling_self (own : s.schedules.manager = .basic c) : s.scheduling c = s := by
  rw [scheduling, ← own]

namespace Stopped

theorem refusing (stopped : s.Stopped) : s.Refusing := by
  obtain ⟨users, ofUsers, usersClosed⟩ := stopped.users
  obtain ⟨e, own, closed, idle⟩ := stopped.executor
  obtain ⟨sla, ofSla, slaClosed⟩ := stopped.sla
  obtain ⟨c, ofSchedules, schedulesClosed⟩ := stopped.schedules
  constructor
  case submit =>
    intro clock flow
    simp only [Subsystems.submit, own, ExecutorManager.submit, Executor.submit, closed, if_true]
    rfl
  case finish =>
    intro id
    simp only [Subsystems.finish, own, ExecutorManager.finish, Executor.finish, Executor.isRunning,
      idle]
    rfl
  case addRule =>
    intro flow
    simp only [Subsystems.addRule, ofSla, SlaManager.addRule, Sla.addRule, slaClosed, if_true]
    rfl
  case check =>
    simp only [Subsystems.check, ofSla, SlaManager.check, Sla.check, slaClosed, if_true]
    rfl
  case addSchedule =>
    intro flow firstRun period
    simp only [Subsystems.addSchedule, ofSchedules, ScheduleManager.add, Scheduler.add,
      schedulesClosed, if_true]
    rw [← ofSchedules]
  case triggerDue =>
    intro now clock
    simp only [Subsystems.triggerDue, ofSchedules, ScheduleManager.trigger,
      Scheduler.trigger_closed schedulesClosed]
    rw [← ofSchedules]
  case authenticate =>
    intro name password
    simp only [ofUsers, UserManager.authenticate, UserStore.authenticate, usersClosed, if_true]

theorem close (stopped : s.Stopped) (role : Role) : s.perform (.close role) = s := by
  cases role with
  | users =>
      obtain ⟨store, same, closed⟩ := stopped.users
      have kept : store.shutDown = store := by rw [UserStore.shutDown, ← closed]
      simp only [perform, Subsystems.close, same, UserManager.shutDown, kept]
      rw [← same]
  | projects =>
      obtain ⟨store, same, closed⟩ := stopped.projects
      have kept : store.shutDown = store := by rw [ProjectStore.shutDown, ← closed]
      simp only [perform, Subsystems.close, same, ProjectManager.shutDown, kept]
      rw [← same]
  | executor =>
      obtain ⟨e, same, closed, -⟩ := stopped.executor
      simp only [perform, Subsystems.close, same, ExecutorManager.shutDown,
        Executor.shutDown_of_closed closed]
      rw [← same]
  | sla =>
      obtain ⟨sla, same, closed⟩ := stopped.sla
      have kept : sla.shutDown = sla := by rw [Sla.shutDown, ← closed]
      simp only [perform, Subsystems.close, same, SlaManager.shutDown, kept]
      rw [← same]
  | schedules =>
      obtain ⟨c, same, closed⟩ := stopped.schedules
      have kept : c.shutDown = c := by rw [Scheduler.shutDown, ← closed]
      simp only [perform, Subsystems.close, same, ScheduleManager.shutDown, kept]
      rw [← same]

theorem perform_eq (stopped : s.Stopped) (other : ∀ id, call ≠ .removeSchedule id) :
    s.perform call = s := by
  have refusing := stopped.refusing
  cases call with
  | submit clock flow =>
      rw [perform, refusing.submit]
      rfl
  | finish id =>
      rw [perform, refusing.finish]
      rfl
  | addRule flow =>
      rw [perform, refusing.addRule]
      rfl
  | check =>
      rw [perform, refusing.check]
      rfl
  | addSchedule flow firstRun period => rw [perform, refusing.addSchedule]
  | triggerDue now clock => rw [perform, refusing.triggerDue]
  | close role => exact stopped.close role
  | removeSchedule id => exact absurd rfl (other id)

theorem perform (stopped : s.Stopped) (own : s.schedules.manager = .basic c) (call : Call) :
    s.perform call = s.scheduling (c.without call.removed) := by
  have still : s.scheduling (c.without []) = s := by
    rw [Scheduler.without_nil, scheduling_self own]
  cases call with
  | removeSchedule id =>
      rw [Call.removed, ← Scheduler.remove_eq_without]
      simp only [Subsystems.perform, removeSchedule, own, ScheduleManager.remove]
      rfl
  | _ =>
      refine Eq.trans (stopped.perform_eq ?_) still.symm
      intro id same
      cases same

theorem scheduling (stopped : s.Stopped) (closed : c.isShutDown = true) :
    (s.scheduling c).Stopped :=
  { stopped with schedules := ⟨c, rfl, closed⟩ }

theorem after (stopped : s.Stopped) (own : s.schedules.manager = .basic c) (calls : List Call) :
    s.after calls = s.scheduling (c.without (calls.flatMap Call.removed)) := by
  induction calls generalizing s c with
  | nil =>
      rw [List.flatMap_nil, Scheduler.without_nil, scheduling_self own]
      rfl
  | cons call calls ih =>
      obtain ⟨c', own', closed⟩ := stopped.schedules
      obtain rfl := ScheduleManager.basic.inj (own.symm.trans own')
      rw [Subsystems.after, List.foldl_cons, stopped.perform own, List.flatMap_cons,
        Scheduler.without_append]
      exact ih (stopped.scheduling closed) rfl

end Stopped

end Subsystems

end ViewerHost
