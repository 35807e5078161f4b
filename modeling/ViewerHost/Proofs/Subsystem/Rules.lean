import ViewerHost.Proofs.Subsystem.Executions

namespace ViewerHost

open Outcome

namespace Sla

variable {rules rules' : Sla} {flow : Flow} {running : List (Nat × Flow)} {watched : Nat}
  {cause : SubsystemError}

theorem addRule_eq_error_iff :
    rules.addRule flow = .error cause ↔ rules.isShutDown = true ∧ cause = stopped := by
  unfold addRule
  split
  · rename_i closed
    rw [Except.error.injEq, eq_comm]
    exact (and_iff_right closed).symm
  · rename_i running
    apply iff_of_false
    · split
      · nofun
      · nofun
    · exact fun closed => running closed.1

theorem addRule_succeeds_iff : Succeeds (rules.addRule flow) ↔ rules.isShutDown = false := by
  rw [← Bool.not_eq_true]
  cases added : rules.addRule flow with
  | error cause => simp [(addRule_eq_error_iff.mp added).1]
  | ok after =>
      refine iff_of_true (succeeds_ok after) fun closed => ?_
      have refused : rules.addRule flow = .error stopped := addRule_eq_error_iff.mpr ⟨closed, rfl⟩
      rw [added] at refused
      cases refused

theorem addRule_ok (added : rules.addRule flow = .ok rules') :
    rules'.isShutDown = rules.isShutDown ∧ rules'.watched = rules.watched ∧
      (flow ∈ rules.rules ∧ rules'.rules = rules.rules ∨
        flow ∉ rules.rules ∧ rules'.rules = rules.rules ++ [flow]) := by
  unfold addRule at added
  split at added
  · cases added
  · split at added
    · rename_i known
      obtain rfl := Except.ok.inj added
      exact ⟨rfl, rfl, Or.inl ⟨known, rfl⟩⟩
    · rename_i new
      obtain rfl := Except.ok.inj added
      exact ⟨rfl, rfl, Or.inr ⟨new, rfl⟩⟩

theorem check_eq_ok_iff : rules.check running = .ok (watched, rules') ↔
    rules.isShutDown = false ∧ watched = rules.countWatched running ∧
      rules' = { rules with watched } := by
  unfold check
  cases rules.isShutDown with
  | true => simp
  | false =>
      simp only [Bool.false_eq_true, if_false, Except.ok.injEq, Prod.mk.injEq, true_and]
      constructor
      · rintro ⟨rfl, rfl⟩
        exact ⟨rfl, rfl⟩
      · rintro ⟨rfl, rfl⟩
        exact ⟨rfl, rfl⟩

theorem check_succeeds_iff :
    Succeeds (rules.check running) ↔ rules.isShutDown = false := by
  constructor
  · rintro ⟨⟨watched, after⟩, given⟩
    exact (check_eq_ok_iff.mp given).1
  · intro open'
    exact ⟨_, check_eq_ok_iff.mpr ⟨open', rfl, rfl⟩⟩

end Sla

theorem Scheduler.add_sla (c : Scheduler) (projects : ProjectManager) (m : SlaManager) (flow : Flow)
    (firstRun : Instant) (period : Option Duration) :
    (∃ cause, (c.add projects m flow firstRun period).2 = (m, .error cause)) ∨
      ∃ after id, m.addRule flow = .ok after ∧
        (c.add projects m flow firstRun period).2 = (after, .ok id) := by
  by_cases admits : c.Admits projects flow period
  · rw [add_admitted m firstRun admits]
    cases m.addRule flow with
    | error cause => exact Or.inl ⟨cause, rfl⟩
    | ok after => exact Or.inr ⟨after, c.nextId, rfl, rfl⟩
  · obtain ⟨cause, -, refused⟩ := add_barred m firstRun admits
    rw [refused]
    exact Or.inl ⟨cause, rfl⟩

namespace Subsystems

variable {s initial : Subsystems} {call : Call} {calls : List Call} {rules rules' last : Sla}
  {flow : Flow}

def ruled (s : Subsystems) : Call → List Flow
  | .addRule flow =>
    match s.addRule flow with
    | .ok _ => [flow]
    | .error _ => []
  | .addSchedule flow firstRun period =>
    match (s.addSchedule flow firstRun period).2 with
    | .ok _ => [flow]
    | .error _ => []
  | _ => []

def ruleLog (s : Subsystems) : List Call → List Flow
  | [] => []
  | call :: calls => s.ruled call ++ (s.perform call).ruleLog calls

def Unchecked (s : Subsystems) (calls : List Call) : Prop :=
  ∀ before further, calls = before ++ .check :: further → ¬Succeeds (s.after before).check

theorem unchecked_nil : s.Unchecked [] := by
  intro before further split
  simp at split

theorem unchecked_cons_iff : s.Unchecked (call :: calls) ↔
    (call = .check → ¬Succeeds s.check) ∧ (s.perform call).Unchecked calls := by
  constructor
  · intro unchecked
    refine ⟨?_, ?_⟩
    · rintro rfl
      exact unchecked [] calls rfl
    · rintro before further rfl
      exact unchecked (call :: before) further rfl
  · rintro ⟨first, rest⟩ before further split
    rw [List.cons_eq_append_iff] at split
    rcases split with ⟨rfl, split⟩ | ⟨before, rfl, rfl⟩
    · obtain ⟨rfl, -⟩ := List.cons.inj split
      exact first rfl
    · exact rest before further rfl

structure RuleRun (s : Subsystems) (calls : List Call) (rules rules' : Sla) : Prop where
  mem : ∀ flow, flow ∈ rules'.rules ↔ flow ∈ rules.rules ∨ flow ∈ s.ruleLog calls
  distinct : rules.rules.Nodup → rules'.rules.Nodup
  kept : rules.rules <+: rules'.rules
  closed : rules'.isShutDown = true ↔ rules.isShutDown = true ∨ .close .sla ∈ calls
  still : s.Unchecked calls → rules'.watched = rules.watched

namespace RuleRun

theorem nil (s : Subsystems) (rules : Sla) : RuleRun s [] rules rules where
  mem flow := by simp [ruleLog]
  distinct := id
  kept := List.prefix_rfl
  closed := by simp
  still _ := rfl

theorem cons (first : RuleRun s [call] rules rules')
    (rest : RuleRun (s.perform call) calls rules' last) : RuleRun s (call :: calls) rules last where
  mem flow := by
    rw [rest.mem, first.mem]
    simp [ruleLog, or_assoc]
  distinct apart := rest.distinct (first.distinct apart)
  kept := first.kept.trans rest.kept
  closed := by
    rw [rest.closed, first.closed, List.mem_singleton, List.mem_cons, or_assoc]
  still unchecked := by
    obtain ⟨one, others⟩ := unchecked_cons_iff.mp unchecked
    rw [rest.still others]
    exact first.still (unchecked_cons_iff.mpr ⟨one, unchecked_nil⟩)

/-! ### A single call -/

theorem untouched (silent : s.ruled call = []) (other : call ≠ .close .sla) :
    RuleRun s [call] rules rules where
  mem flow := by simp [ruleLog, silent]
  distinct := id
  kept := List.prefix_rfl
  closed := by simp [other.symm]
  still _ := rfl

theorem added (logged : s.ruled call = [flow]) (other : call ≠ .close .sla)
    (added : rules.addRule flow = .ok rules') : RuleRun s [call] rules rules' := by
  obtain ⟨open', watched, change⟩ := Sla.addRule_ok added
  refine ⟨?_, ?_, ?_, ?_, fun _ => watched⟩
  · intro flow'
    rcases change with ⟨known, same⟩ | ⟨-, longer⟩
    · simp only [same, ruleLog, logged, List.append_nil, List.mem_singleton]
      constructor
      · exact Or.inl
      · rintro (old | rfl)
        · exact old
        · exact known
    · simp [longer, ruleLog, logged]
  · intro apart
    rcases change with ⟨-, same⟩ | ⟨new, longer⟩
    · rw [same]
      exact apart
    · rw [longer, List.nodup_append]
      refine ⟨apart, List.nodup_singleton flow, ?_⟩
      rintro old member _ single rfl
      exact new (List.mem_singleton.mp single ▸ member)
  · rcases change with ⟨-, same⟩ | ⟨-, longer⟩
    · simp only [same, List.prefix_rfl]
    · rw [longer]
      exact List.prefix_append _ _
  · simp [open', other.symm]

theorem checked {watched : Nat} (given : Succeeds s.check) :
    RuleRun s [.check] rules { rules with watched } where
  mem flow := by simp [ruleLog, ruled]
  distinct := id
  kept := List.prefix_rfl
  closed := by simp
  still unchecked := absurd given ((unchecked_cons_iff.mp unchecked).1 rfl)

theorem shut : RuleRun s [.close .sla] rules rules.shutDown where
  mem flow := by simp [ruleLog, ruled, Sla.shutDown]
  distinct := id
  kept := List.prefix_rfl
  closed := by simp [Sla.shutDown]
  still _ := rfl

end RuleRun

theorem check_eq (hosted : s.sla.manager = .basic rules) :
    s.check = (rules.check s.executor.manager.running).map fun (watched, after) =>
      (watched, { s with sla := { s.sla with manager := .basic after } }) := by
  simp only [check, hosted, SlaManager.check]
  cases rules.check s.executor.manager.running <;> rfl

theorem check_ok {watched : Nat} {checked : Subsystems} (hosted : s.sla.manager = .basic rules)
    (given : s.check = .ok (watched, checked)) :
    rules.isShutDown = false ∧ watched = rules.countWatched s.executor.manager.running ∧
      checked.sla.manager = .basic { rules with watched } := by
  rw [check_eq hosted, map_eq_ok_iff] at given
  obtain ⟨⟨_, after⟩, counted, same⟩ := given
  obtain ⟨rfl, rfl⟩ := Prod.mk.inj same
  obtain ⟨running, rfl, rfl⟩ := Sla.check_eq_ok_iff.mp counted
  exact ⟨running, rfl, rfl⟩

theorem perform_rules (hosted : s.sla.manager = .basic rules) (call : Call) :
    ∃ rules', (s.perform call).sla.manager = .basic rules' ∧ RuleRun s [call] rules rules' := by
  have unmoved (same : (s.perform call).sla.manager = s.sla.manager) (silent : s.ruled call = [])
      (other : call ≠ .close .sla) :
      ∃ rules', (s.perform call).sla.manager = .basic rules' ∧ RuleRun s [call] rules rules' :=
    ⟨rules, same.trans hosted, .untouched silent other⟩
  cases call with
  | submit clock flow =>
      refine unmoved ?_ rfl (by simp)
      rw [perform, submit]
      cases s.executor.manager.submit clock flow <;> rfl
  | finish id =>
      refine unmoved ?_ rfl (by simp)
      rw [perform, finish]
      cases s.executor.manager.finish id <;> rfl
  | addRule flow =>
      cases added : rules.addRule flow with
      | error cause =>
          have refused : s.addRule flow = .error cause := by
            simp only [addRule, hosted, SlaManager.addRule, added]
            rfl
          refine unmoved ?_ ?_ (by simp)
          · rw [perform, refused]
            rfl
          · rw [ruled, refused]
      | ok after =>
          have granted : s.addRule flow =
              .ok { s with sla := { s.sla with manager := .basic after } } := by
            simp only [addRule, hosted, SlaManager.addRule, added]
            rfl
          refine ⟨after, ?_, .added ?_ (by simp) added⟩
          · rw [perform, granted]
            rfl
          · rw [ruled, granted]
  | check =>
      have outcome := check_eq hosted
      cases counted : rules.check s.executor.manager.running with
      | error cause =>
          rw [counted] at outcome
          refine unmoved ?_ rfl (by simp)
          rw [perform, outcome]
          rfl
      | ok product =>
          obtain ⟨watched, after⟩ := product
          rw [counted] at outcome
          obtain ⟨-, -, rfl⟩ := Sla.check_eq_ok_iff.mp counted
          refine ⟨{ rules with watched }, ?_, .checked ⟨_, outcome⟩⟩
          rw [perform, outcome]
          rfl
  | addSchedule flow firstRun period =>
      cases scheduled : s.schedules.manager with
      | standIn other =>
          refine unmoved ?_ ?_ (by simp)
          · simp only [perform, addSchedule, scheduled, ScheduleManager.add]
          · simp only [ruled, addSchedule, scheduled, ScheduleManager.add]
      | basic c =>
          rcases c.add_sla s.projects.manager s.sla.manager flow firstRun period with
            ⟨cause, refused⟩ | ⟨after, id, added, granted⟩
          · refine unmoved ?_ ?_ (by simp)
            · simp only [perform, addSchedule, scheduled, ScheduleManager.add, refused]
            · simp only [ruled, addSchedule, scheduled, ScheduleManager.add, refused]
          · rw [hosted] at added
            obtain ⟨rules', new, rfl⟩ := map_eq_ok_iff.mp added
            refine ⟨rules', ?_, .added ?_ (by simp) new⟩
            · simp only [perform, addSchedule, scheduled, ScheduleManager.add, granted]
            · simp only [ruled, addSchedule, scheduled, ScheduleManager.add, granted]
  | close role =>
      cases role with
      | sla => exact ⟨rules.shutDown, congrArg (·.shutDown.1) hosted, .shut⟩
      | users | projects | executor | schedules => exact unmoved rfl rfl (by simp)
  | removeSchedule | triggerDue => exact unmoved rfl rfl (by simp)

theorem rules_after (hosted : s.sla.manager = .basic rules) (calls : List Call) :
    ∃ rules', (s.after calls).sla.manager = .basic rules' ∧ RuleRun s calls rules rules' := by
  induction calls generalizing s rules with
  | nil => exact ⟨rules, hosted, .nil s rules⟩
  | cons call calls ih =>
      obtain ⟨rules', hosted', first⟩ := perform_rules hosted call
      obtain ⟨last, hosted'', rest⟩ := ih hosted'
      exact ⟨last, hosted'', first.cons rest⟩

theorem RuleRun.running_iff (run : RuleRun s calls rules rules')
    (running : rules.isShutDown = false) : rules'.isShutDown = false ↔ .close .sla ∉ calls := by
  rw [← Bool.not_eq_true, run.closed, running, or_iff_right Bool.false_ne_true]

theorem addRule_after_succeeds_iff (hosted : s.sla.manager = .basic rules)
    (running : rules.isShutDown = false) (calls : List Call) (flow : Flow) :
    Succeeds ((s.after calls).addRule flow) ↔ .close .sla ∉ calls := by
  obtain ⟨last, hosted', run⟩ := rules_after hosted calls
  rw [addRule, bind_ok_eq_map, hosted', SlaManager.addRule, succeeds_map_iff, succeeds_map_iff,
    Sla.addRule_succeeds_iff, run.running_iff running]

theorem check_after_succeeds_iff (hosted : s.sla.manager = .basic rules)
    (running : rules.isShutDown = false) (calls : List Call) :
    Succeeds (s.after calls).check ↔ .close .sla ∉ calls := by
  obtain ⟨last, hosted', run⟩ := rules_after hosted calls
  rw [check_eq hosted', succeeds_map_iff, Sla.check_succeeds_iff, run.running_iff running]

/-- Whatever is asked of the host's own executor and rules, the rules are the flows of the calls
that made one, none twice, and none is taken back. A check counts the executions that run under a
rule, and what it counts is shown until another check goes through. -/
theorem check_counts_ruled {limit interval : Nat}
    (own : initial.executor.manager = .own (.ofLimit limit))
    (hosted : initial.sla.manager = .basic (.ofInterval interval)) (calls : List Call) :
    let s := initial.after calls
    ∃ e rules, s.executor.manager = .own e ∧ s.sla.manager = .basic rules ∧
      rules.rules.Nodup ∧ (∀ flow, flow ∈ rules.rules ↔ flow ∈ initial.ruleLog calls) ∧
      (∀ further, ∃ later, (s.after further).sla.manager = .basic later ∧
        rules.rules <+: later.rules) ∧
      (∀ id, (s.removeSchedule id).1.sla = s.sla) ∧
      (∀ flow, Succeeds (s.addRule flow) ↔ .close .sla ∉ calls) ∧
      (Succeeds s.check ↔ .close .sla ∉ calls) ∧
      (∀ watched checked, s.check = .ok (watched, checked) →
        watched = e.running.countP (fun execution => execution.2 ∈ initial.ruleLog calls) ∧
        (e.running.map Prod.fst).Nodup ∧ watched ≤ e.running.length ∧
        Management.executorAttribute s.executor.manager "NumRunningFlows" =
          some (.ofCount e.running.length) ∧
        ∀ further, checked.Unchecked further →
          Management.slaAttribute (checked.after further).sla.manager "NumWatchedFlows" =
            some (.ofCount watched)) ∧
      ∀ cause, s.check = .error cause → s.perform .check = s := by
  intro s
  obtain ⟨e, ofExecutor, ledger⟩ := ledger_after own (.empty limit) calls
  obtain ⟨rules, ofSla, run⟩ := rules_after hosted calls
  have mem (flow : Flow) : flow ∈ rules.rules ↔ flow ∈ initial.ruleLog calls :=
    (run.mem flow).trans (or_iff_right List.not_mem_nil)
  refine ⟨e, rules, ofExecutor, ofSla, run.distinct List.nodup_nil, mem, ?_, fun _ => rfl,
    addRule_after_succeeds_iff hosted rfl calls, check_after_succeeds_iff hosted rfl calls, ?_, ?_⟩
  · intro further
    obtain ⟨later, ofLater, laterRun⟩ := rules_after ofSla further
    exact ⟨later, ofLater, laterRun.kept⟩
  · intro watched checked given
    obtain ⟨-, counted, ofChecked⟩ := check_ok ofSla given
    rw [ofExecutor] at counted
    have byRule : rules.countWatched e.running =
        e.running.countP fun execution => execution.2 ∈ initial.ruleLog calls := by
      simp only [Sla.countWatched, mem]
    refine ⟨counted.trans byRule, ledger.distinct, counted ▸ List.countP_le_length, ?_, ?_⟩
    · rw [ofExecutor]
      rfl
    · intro further unchecked
      obtain ⟨later, ofLater, laterRun⟩ := rules_after ofChecked further
      rw [ofLater]
      exact congrArg (fun n => some (Attribute.ofCount n)) (laterRun.still unchecked)
  · intro cause refused
    rw [perform, refused]
    rfl

theorem check_counts_ruled_outlived :
    let start : Instant := ⟨1700000000, 0⟩
    let calls : List Call := [.addSchedule ⟨"etl", "load"⟩ start none, .removeSchedule 1,
      .submit start ⟨"etl", "load"⟩, .submit start ⟨"etl", "report"⟩]
    let s := Sample.subsystems.after calls
    ∃ checked, s.check = .ok (1, checked) ∧
      Management.slaAttribute (checked.after [.finish 1, .close .sla, .check]).sla.manager
        "NumWatchedFlows" = some (.ofCount 1) := by
  intro start calls s
  have own : Sample.subsystems.executor.manager = .own (.ofLimit 10) := rfl
  have hosted : Sample.subsystems.sla.manager = .basic (.ofInterval 60000) := rfl
  obtain ⟨e, rules, -, ofSla, -, -, -, -, -, succeeds, counts, -⟩ :=
    check_counts_ruled own hosted calls
  have open' : .close .sla ∉ calls := by simp [calls]
  obtain ⟨⟨watched, checked⟩, given⟩ := succeeds.mpr open'
  obtain ⟨-, -, -, -, shown⟩ := counts watched checked given
  obtain ⟨running, -, ofChecked⟩ := check_ok ofSla given
  have one : s.check.map Prod.fst = .ok 1 := by decide +kernel
  rw [given] at one
  obtain rfl : watched = 1 := Except.ok.inj one
  refine ⟨checked, given, shown _ ?_⟩
  have closed : ¬Succeeds (checked.after [.finish 1, .close .sla]).check := by
    rw [check_after_succeeds_iff ofChecked running]
    simp
  refine unchecked_cons_iff.mpr ⟨nofun, unchecked_cons_iff.mpr ⟨nofun, ?_⟩⟩
  exact unchecked_cons_iff.mpr ⟨fun _ => closed, unchecked_nil⟩

end Subsystems

end ViewerHost
