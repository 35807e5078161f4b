import ViewerHost.Proofs.Management.Registrations
import ViewerHost.Proofs.Server.Composition
import ViewerHost.Proofs.Subsystem.Release
import ViewerHost.Proofs.Subsystem.Standstill

namespace ViewerHost

namespace Server

variable {s : Server} {settings : Settings} {implementations : Implementations} {catalog : Catalog}
  {tree : FileTree} {context : Context}

def Assembled (settings : Settings) (implementations : Implementations) (s : Subsystems) : Prop :=
  ∃ initial calls, (Assembly.run implementations settings).product = .ok initial ∧
    s = initial.after calls

theorem Assembled.after {subsystems : Subsystems}
    (assembled : Assembled settings implementations subsystems) (further : List Call) :
    Assembled settings implementations (subsystems.after further) := by
  obtain ⟨initial, calls, built, rfl⟩ := assembled
  refine ⟨initial, calls ++ further, built, ?_⟩
  rw [Subsystems.after, Subsystems.after, Subsystems.after, List.foldl_append]

theorem assembled_of_start
    (composed : ((new settings implementations catalog).start tree).server.context = some context) :
    Assembled settings implementations context.subsystems := by
  rcases start_cases settings implementations catalog tree with
    ⟨tree', cause, ran⟩ | ⟨tree', cause, -, ran⟩ | ⟨config, tree', sessions, subsystems, built, ran⟩
  · rw [ran] at composed
    cases composed
  · rw [ran] at composed
    cases composed
  · rw [ran] at composed
    obtain rfl := Option.some.inj composed
    exact ⟨subsystems, [], built, rfl⟩

theorem takeDown_subsystems (context : Context) :
    (takeDown context).1.subsystems = context.subsystems.closeAll.subsystems := rfl

theorem assembled_after (calls : List ServerCall)
    (composed : ((new settings implementations catalog).after calls).context = some context) :
    Assembled settings implementations context.subsystems :=
  context_after
    (fun _ _ => assembled_of_start)
    (fun _ assembled => assembled.after (Role.buildOrder.reverse.map .close))
    (fun _ call assembled => assembled.after [call]) (fun _ _ assembled => assembled) calls composed

/-- A shutdown that is performed empties the management. On subsystems of the host's own kinds it is
final: whatever is called from then on, they refuse it, nothing runs, no count changes, and the
schedules are those that were there, without the ones that have been removed since. -/
theorem shutDown_is_final (settings : Settings) (catalog : Catalog) (calls : List ServerCall)
    (performed :
      ((new settings .standard catalog).after calls).shutDown.report.performed = true) :
    ∃ context,
      ((new settings .standard catalog).after calls).shutDown.server.context = some context ∧
      context.management.list = [] ∧
      ∀ further,
        let s := context.subsystems.after further
        s.Refusing ∧ s.executor.manager.running = [] ∧
        s.executor.manager.stats = context.subsystems.executor.manager.stats ∧
        s.sla.manager.stats = context.subsystems.sla.manager.stats ∧
        s.schedules.manager.stats.triggered =
          context.subsystems.schedules.manager.stats.triggered ∧
        s.schedules.manager.schedules =
          context.subsystems.schedules.manager.schedules.filter
            fun schedule => schedule.id ∉ further.flatMap Call.removed := by
  have running := performed_iff.mp performed
  obtain ⟨earlier, composed⟩ := (OnCourse.unstarted.after calls).running_context running
  obtain ⟨initial, made, built, same⟩ := assembled_after calls composed
  have native : earlier.subsystems.Native := by
    rw [same]
    exact (Subsystems.native_of_fresh (Assembly.fresh_of_run built)).after made
  have stopped := native.closeAll
  refine ⟨_, shutDown_context running composed, Bridge.unregisterAll_list _, ?_⟩
  intro further s
  obtain ⟨e, own, closed, idle⟩ := stopped.executor
  obtain ⟨c, schedules, schedulesClosed⟩ := stopped.schedules
  have closed' : (c.without (further.flatMap Call.removed)).isShutDown = true := schedulesClosed
  have still : s = earlier.subsystems.closeAll.subsystems.scheduling
      (c.without (further.flatMap Call.removed)) := stopped.after schedules further
  rw [takeDown_subsystems, schedules, still]
  refine ⟨(stopped.scheduling closed').refusing, ?_, rfl, rfl, rfl, rfl⟩
  exact (congrArg ExecutorManager.running own).trans idle

theorem shutDown_is_final_at_work :
    let flow : Flow := ⟨"etl", "load"⟩
    let server := (new Sample.settings .standard .standard).after
      [.start ⟨[], []⟩, .operate (.addSchedule flow ⟨1700000000, 0⟩ none),
        .operate (.submit ⟨1700000000, 0⟩ flow)]
    server.shutDown.report.performed = true ∧
      ∃ context, server.shutDown.server.context = some context ∧ context.management.list = [] ∧
        let s := context.subsystems.after
          [.triggerDue ⟨1700000000, 0⟩ ⟨1700000000, 0⟩, .finish 1, .removeSchedule 1]
        s.Refusing ∧ s.executor.manager.running = [] ∧ s.executor.manager.stats.submitted = 1 ∧
          s.executor.manager.stats.finished = 0 ∧ s.schedules.manager.schedules = [] := by
  intro flow server
  have performed : server.shutDown.report.performed = true :=
    performed_iff.mpr (by decide +kernel)
  obtain ⟨context, composed, empty, final⟩ := shutDown_is_final _ _ _ performed
  have left : server.shutDown.server.context.map (fun c =>
      (c.subsystems.executor.manager.stats.submitted, c.subsystems.executor.manager.stats.finished,
        c.subsystems.schedules.manager.schedules)) =
      some (1, 0, [⟨1, flow, ⟨1700000000, 0⟩, none⟩]) := by
    decide +kernel
  rw [composed, Option.map_some, Option.some_inj, Prod.mk.injEq, Prod.mk.injEq] at left
  obtain ⟨submitted, finished, schedules⟩ := left
  obtain ⟨refusing, idle, stats, -, -, kept⟩ := final
    [.triggerDue ⟨1700000000, 0⟩ ⟨1700000000, 0⟩, .finish 1, .removeSchedule 1]
  refine ⟨performed, context, composed, empty, refusing, idle, ?_, ?_, ?_⟩
  · rw [stats, submitted]
  · rw [stats, finished]
  · rw [kept, schedules]
    rfl

end Server

end ViewerHost
