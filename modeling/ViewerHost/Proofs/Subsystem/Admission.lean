import ViewerHost.Proofs.Subsystem.Standstill

namespace ViewerHost

open Scheduler Subsystems

namespace Subsystems

variable {s : Subsystems} {c : Scheduler} {sla : Sla} {flow : Flow} {firstRun : Instant}
  {period : Option Duration}

theorem addSchedule_barred (own : s.schedules.manager = .basic c) (firstRun : Instant)
    (barred : ¬c.Admits s.projects.manager flow period) :
    ∃ cause, cause ≠ Sla.stopped ∧ s.addSchedule flow firstRun period = (s, .error cause) := by
  obtain ⟨cause, other, refused⟩ := add_barred s.sla.manager firstRun barred
  refine ⟨cause, other, ?_⟩
  simp only [addSchedule, own, ScheduleManager.add, refused]
  rw [← own]

theorem addSchedule_unruled (own : s.schedules.manager = .basic c)
    (ruled : s.sla.manager = .basic sla) (closed : sla.isShutDown = true) (firstRun : Instant)
    (admits : c.Admits s.projects.manager flow period) :
    s.addSchedule flow firstRun period =
      (s.scheduling (c.listing flow firstRun period), .error Sla.stopped) := by
  have refused : s.sla.manager.addRule flow = .error Sla.stopped := by
    rw [ruled, SlaManager.addRule, Sla.addRule_eq_error_iff.mpr ⟨closed, rfl⟩]
    rfl
  simp only [addSchedule, own, ScheduleManager.add, add_admitted _ firstRun admits, refused]
  rfl

theorem addSchedule_ruled (own : s.schedules.manager = .basic c)
    (ruled : s.sla.manager = .basic sla) (running : sla.isShutDown = false) (firstRun : Instant)
    (admits : c.Admits s.projects.manager flow period) :
    (s.addSchedule flow firstRun period).2 = .ok c.nextId := by
  obtain ⟨after, added⟩ : Outcome.Succeeds (sla.addRule flow) :=
    Sla.addRule_succeeds_iff.mpr running
  have taken : s.sla.manager.addRule flow = .ok (.basic after) := by
    rw [ruled, SlaManager.addRule, added]
    rfl
  simp only [addSchedule, own, ScheduleManager.add, add_admitted _ firstRun admits, taken]

/-- A schedule that is refused leaves everything as it was, unless it is the rules that refuse it.
They do so exactly when they are shut down and the scheduler has found no fault; then the schedule
has been listed, under the next number, and nothing else has changed. -/
theorem refused_schedule_left {settings : Settings} {initial : Subsystems}
    (built : (Assembly.run .standard settings).product = .ok initial) (calls : List Call)
    (flow : Flow) (firstRun : Instant) (period : Option Duration) :
    let s := initial.after calls
    ∃ c sla, s.schedules.manager = .basic c ∧ s.sla.manager = .basic sla ∧
      (∀ cause, (s.addSchedule flow firstRun period).2 = .error cause → cause ≠ Sla.stopped →
        (s.addSchedule flow firstRun period).1 = s) ∧
      ((s.addSchedule flow firstRun period).2 = .error Sla.stopped ↔
        c.Admits s.projects.manager flow period ∧ sla.isShutDown = true) ∧
      ((s.addSchedule flow firstRun period).2 = .error Sla.stopped →
        (s.addSchedule flow firstRun period).1 = s.scheduling { c with
          nextId := c.nextId + 1
          schedules := c.schedules ++ [⟨c.nextId, flow, firstRun, period⟩] }) := by
  intro s
  have native : s.Native := (native_of_fresh (Assembly.fresh_of_run built)).after calls
  obtain ⟨c, own⟩ := native.schedules
  obtain ⟨sla, ruled⟩ := native.sla
  refine ⟨c, sla, own, ruled, ?_⟩
  by_cases admits : c.Admits s.projects.manager flow period
  · cases state : sla.isShutDown with
    | true =>
        rw [addSchedule_unruled own ruled state firstRun admits]
        refine ⟨?_, iff_of_true rfl ⟨admits, rfl⟩, fun _ => rfl⟩
        rintro cause ⟨⟩ other
        exact absurd rfl other
    | false =>
        have taken := addSchedule_ruled own ruled state firstRun admits
        rw [taken]
        exact ⟨nofun, iff_of_false nofun (by simp), nofun⟩
  · obtain ⟨cause, other, refused⟩ := addSchedule_barred own firstRun admits
    rw [refused]
    refine ⟨fun _ _ _ => rfl, iff_of_false ?_ fun ready => admits ready.1, ?_⟩
    · rintro ⟨⟩
      exact other rfl
    · rintro ⟨⟩
      exact absurd rfl other

theorem refused_schedule_left_unruled :
    (Assembly.run .standard Sample.settings).product = .ok Sample.subsystems ∧
      let s := Sample.subsystems.after [.close .sla]
      let flow : Flow := ⟨"etl", "load"⟩
      (s.addSchedule flow ⟨1700000000, 0⟩ none).2 = .error Sla.stopped ∧
        (s.addSchedule flow ⟨1700000000, 0⟩ none).1.schedules.manager.schedules =
          [⟨1, flow, ⟨1700000000, 0⟩, none⟩] ∧
        (s.addSchedule flow ⟨1700000000, 0⟩ (some ⟨0⟩)).1 = s := by
  refine ⟨Sample.built, ?_⟩
  intro s flow
  obtain ⟨c, sla, own, ruled, -, stopped, listed⟩ :=
    refused_schedule_left Sample.built [.close .sla] flow ⟨1700000000, 0⟩ none
  obtain ⟨-, -, -, -, kept, -, -⟩ :=
    refused_schedule_left Sample.built [.close .sla] flow ⟨1700000000, 0⟩ (some ⟨0⟩)
  obtain rfl : .empty = c := ScheduleManager.basic.inj own
  obtain rfl : (Sla.ofInterval 60000).shutDown = sla := SlaManager.basic.inj ruled
  have known : s.projects.manager.contains flow.project = true := by decide +kernel
  have refused := stopped.mpr ⟨⟨rfl, known, nofun⟩, rfl⟩
  refine ⟨refused, ?_, ?_⟩
  · rw [listed refused]
    rfl
  · refine kept (.invalid "Schedule period must be positive") ?_ nofun
    decide +kernel

theorem refused_schedule_runs :
    let s := Sample.subsystems.after [.close .sla]
    let start : Instant := ⟨1700000000, 0⟩
    let refused := s.addSchedule ⟨"etl", "load"⟩ start none
    s.schedules.manager.schedules = [] ∧ refused.2 = .error Sla.stopped ∧
      refused.1.schedules.manager.schedules = [⟨1, ⟨"etl", "load"⟩, start, none⟩] ∧
      refused.1.executor.manager.running = [] ∧
      (refused.1.triggerDue start start).1.executor.manager.running = [(1, ⟨"etl", "load"⟩)] := by
  decide +kernel

end Subsystems

end ViewerHost
