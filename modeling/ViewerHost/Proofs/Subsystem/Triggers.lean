import Mathlib.Data.List.Induction
import ViewerHost.Proofs.Subsystem.Assembly
import ViewerHost.Proofs.Subsystem.Numbering

/-!
The accounts of the scheduler over a run of calls: what its triggers have submitted, and what it
counts. They agree as long as no trigger has broken off. One that breaks off has submitted schedules
that it neither counts nor, where they run once, removes.
-/

namespace ViewerHost

open Scheduler Subsystems

namespace Subsystems

variable {s : Subsystems} {e : Executor} {c : Scheduler} {now clock : Instant}

def acceptedBy (s : Subsystems) (call : Call) : Nat :=
  match call with
  | .triggerDue _ _ =>
    (s.perform call).executor.manager.stats.submitted - s.executor.manager.stats.submitted
  | _ => 0

def submittedBy (s : Subsystems) (call : Call) : List Schedule :=
  match call, s.schedules.manager with
  | .triggerDue now clock, .basic c =>
    if c.isShutDown then []
    else (pass now clock s.executor.manager c.schedules).started.map Prod.fst
  | _, _ => []

def breaksOff (s : Subsystems) (call : Call) : Bool :=
  match call with
  | .triggerDue now clock =>
    match (s.triggerDue now clock).2 with
    | .error .outOfRange => true
    | _ => false
  | _ => false

theorem Own.breaksOff_trigger (own : s.Own e c) (now clock : Instant) :
    s.breaksOff (.triggerDue now clock) =
      (!c.isShutDown && (pass now clock (.own e) c.schedules).outOfRange) := by
  simp only [breaksOff, own.triggerDue]
  cases running : c.isShutDown with
  | true => rw [trigger_closed running, Bool.not_true, Bool.false_and]
  | false =>
      cases whole : (pass now clock (.own e) c.schedules).outOfRange with
      | true => rw [trigger_broken running whole, Bool.not_false, Bool.true_and]
      | false => rw [trigger_whole running whole, Bool.and_false]

theorem Own.breaksOff_iff (own : s.Own e c) (numbered : c.Numbered) (now clock : Instant) :
    s.breaksOff (.triggerDue now clock) = true ↔
      c.isShutDown = false ∧ ∃ due ∈ eligible e now c.schedules, due.Overruns now := by
  rw [← outOfRange_iff now clock e c.schedules numbered.positive, own.breaksOff_trigger,
    Bool.and_eq_true, Bool.not_eq_true']

theorem Own.submittedBy_trigger (own : s.Own e c) (now clock : Instant) :
    s.submittedBy (.triggerDue now clock) =
      if c.isShutDown then [] else (pass now clock (.own e) c.schedules).started.map Prod.fst := by
  simp only [submittedBy, own.schedules, own.executor]

theorem Own.acceptedBy_trigger (own : s.Own e c) (numbers : 0 < e.nextId) (now clock : Instant) :
    s.acceptedBy (.triggerDue now clock) = (s.submittedBy (.triggerDue now clock)).length := by
  have executor : (s.perform (.triggerDue now clock)).executor.manager =
      (c.trigger (.own e) now clock).2.1 := by
    rw [perform, own.triggerDue]
  rw [acceptedBy, executor, own.executor, own.submittedBy_trigger]
  obtain ⟨after, same, ids, -⟩ := executor_after_pass now clock e c.schedules
  have grows : after.nextId - 1 - (e.nextId - 1) =
      (pass now clock (.own e) c.schedules).started.length := by omega
  cases running : c.isShutDown with
  | true =>
      rw [trigger_closed running]
      exact Nat.sub_self _
  | false =>
      rw [if_neg Bool.false_ne_true, List.length_map, ← grows]
      cases whole : (pass now clock (.own e) c.schedules).outOfRange with
      | true =>
          rw [trigger_broken running whole, same]
          rfl
      | false =>
          rw [trigger_whole running whole, same]
          rfl

end Subsystems

structure History where
  subsystems : Subsystems
  /-- The executions that the executor has accepted from triggers. -/
  accepted : Nat
  /-- The schedules that triggers have submitted, in order. -/
  submitted : List Schedule
  /-- The triggers that have broken off. -/
  brokenOff : Nat

namespace History

variable {h : History} {e e' : Executor} {c : Scheduler} {call : Call} {settings : Settings}
  {initial : Subsystems} {now clock : Instant}

def start (s : Subsystems) : History := ⟨s, 0, [], 0⟩

def next (h : History) (call : Call) : History where
  subsystems := h.subsystems.perform call
  accepted := h.accepted + h.subsystems.acceptedBy call
  submitted := h.submitted ++ h.subsystems.submittedBy call
  brokenOff := h.brokenOff + (h.subsystems.breaksOff call).toNat

def run (s : Subsystems) (calls : List Call) : History := calls.foldl next (start s)

structure Accounted (h : History) (e : Executor) (c : Scheduler) : Prop where
  own : h.subsystems.Own e c
  numbers : 0 < e.nextId
  numbered : c.Numbered
  recorded : h.accepted = h.submitted.length
  within : c.triggered ≤ h.accepted
  complete : c.triggered = h.accepted ↔ h.brokenOff = 0
  spent : h.brokenOff = 0 → Spent h.submitted c

theorem Accounted.other (accounted : h.Accounted e c)
    (other : ∀ now clock, call ≠ .triggerDue now clock) :
    ∃ e' c', (h.next call).Accounted e' c' := by
  obtain ⟨e', c', own, effect⟩ := accounted.own.exists_effect call
  have same : h.next call = { h with subsystems := h.subsystems.perform call } := by
    cases call with
    | triggerDue now clock => exact absurd rfl (other now clock)
    | _ => simp [next, acceptedBy, submittedBy, breaksOff]
  refine ⟨e', c', ?_⟩
  rw [same]
  have triggered := triggered_kept effect other
  exact {
    own
    numbers := Nat.lt_of_lt_of_le accounted.numbers (executor_numbers effect)
    numbered := accounted.numbered.effect effect
    recorded := accounted.recorded
    within := triggered ▸ accounted.within
    complete := triggered ▸ accounted.complete
    spent := fun unbroken => (accounted.spent unbroken).effect effect }

theorem next_closed (own : h.subsystems.Own e c) (numbers : 0 < e.nextId)
    (closed : c.isShutDown = true) (now clock : Instant) :
    h.next (.triggerDue now clock) =
      { h with subsystems := h.subsystems.perform (.triggerDue now clock) } := by
  rw [next, own.acceptedBy_trigger numbers, own.submittedBy_trigger, own.breaksOff_trigger, closed]
  simp

theorem next_running (own : h.subsystems.Own e c) (numbers : 0 < e.nextId)
    (running : c.isShutDown = false) (now clock : Instant) :
    h.next (.triggerDue now clock) = {
      subsystems := h.subsystems.perform (.triggerDue now clock)
      accepted := h.accepted + (pass now clock (.own e) c.schedules).started.length
      submitted := h.submitted ++ (pass now clock (.own e) c.schedules).started.map Prod.fst
      brokenOff := h.brokenOff + (pass now clock (.own e) c.schedules).outOfRange.toNat } := by
  rw [next, own.acceptedBy_trigger numbers, own.submittedBy_trigger, own.breaksOff_trigger,
    running, if_neg Bool.false_ne_true, List.length_map, Bool.not_false, Bool.true_and]

theorem next_passed (own : h.subsystems.Own e c) (numbers : 0 < e.nextId)
    (running : c.isShutDown = false) {started : List (Schedule × Nat)} {schedules : List Schedule}
    {broken : Bool}
    (passed : pass now clock (.own e) c.schedules = ⟨.own e', started, schedules, broken⟩) :
    ∃ after : Subsystems,
      after.Own e' (if broken then { c with schedules } else { c with
        schedules := (TriggerPass.mk (.own e') started schedules broken).remaining
        triggered := c.triggered + started.length }) ∧
      h.next (.triggerDue now clock) = ⟨after, h.accepted + started.length,
        h.submitted ++ started.map Prod.fst, h.brokenOff + broken.toNat⟩ := by
  refine ⟨h.subsystems.perform (.triggerDue now clock), ?_, ?_⟩
  · rw [Subsystems.perform, own.triggerDue]
    cases broken with
    | true =>
        rw [trigger_broken running (by rw [passed]), passed]
        exact ⟨rfl, rfl⟩
    | false =>
        rw [trigger_whole running (by rw [passed]), passed]
        exact ⟨rfl, rfl⟩
  · rw [next_running own numbers running, passed]

theorem Accounted.after_trigger (accounted : h.Accounted e c) (now clock : Instant) :
    ∃ e', (h.subsystems.perform (.triggerDue now clock)).Own e' (c.trigger (.own e) now clock).1 ∧
      0 < e'.nextId ∧ (c.trigger (.own e) now clock).1.Numbered := by
  obtain ⟨e', own, effect⟩ := accounted.own.perform_trigger now clock
  exact ⟨e', own, Nat.lt_of_lt_of_le accounted.numbers (executor_numbers effect),
    accounted.numbered.effect effect⟩

theorem Accounted.trigger_closed (accounted : h.Accounted e c) (closed : c.isShutDown = true)
    (now clock : Instant) : ∃ e' c', (h.next (.triggerDue now clock)).Accounted e' c' := by
  obtain ⟨e', own, numbers, -⟩ := accounted.after_trigger now clock
  rw [Scheduler.trigger_closed closed] at own
  rw [next_closed accounted.own accounted.numbers closed]
  exact ⟨e', c, { accounted with own, numbers }⟩

-- A pass breaks off over a schedule that it has submitted, so the executor has accepted at least one
-- execution that is not counted. No later pass makes up for it: the count stays behind for good.
theorem Accounted.trigger_broken (accounted : h.Accounted e c) (running : c.isShutDown = false)
    {now clock : Instant} (broken : (pass now clock (.own e) c.schedules).outOfRange = true) :
    ∃ e' c', (h.next (.triggerDue now clock)).Accounted e' c' := by
  obtain ⟨e', own, numbers, numbered⟩ := accounted.after_trigger now clock
  have some := List.length_pos_iff.mpr (started_of_outOfRange e c.schedules broken)
  have recorded := accounted.recorded
  have within := accounted.within
  rw [Scheduler.trigger_broken running broken] at own numbered
  rw [next_running accounted.own accounted.numbers running, broken]
  refine ⟨e', _, own, numbers, numbered, ?_, ?_, ?_, ?_⟩
  · simp [recorded]
  · exact Nat.le_trans within (Nat.le_add_right _ _)
  · simp only [Bool.toNat_true]
    omega
  · intro unbroken
    cases unbroken

theorem Accounted.trigger_whole (accounted : h.Accounted e c) (running : c.isShutDown = false)
    {now clock : Instant} (whole : (pass now clock (.own e) c.schedules).outOfRange = false) :
    ∃ e' c', (h.next (.triggerDue now clock)).Accounted e' c' := by
  obtain ⟨e', own, numbers, numbered⟩ := accounted.after_trigger now clock
  have recorded := accounted.recorded
  have complete := accounted.complete
  have spent := fun unbroken => (accounted.spent unbroken).whole accounted.numbered running whole
  rw [Scheduler.trigger_whole running whole] at own numbered spent
  rw [next_running accounted.own accounted.numbers running, whole]
  refine ⟨e', _, own, numbers, numbered, ?_, ?_, ?_, spent⟩
  · simp [recorded]
  · exact Nat.add_le_add_right accounted.within _
  · simp only [Bool.toNat_false]
    omega

theorem Accounted.trigger (accounted : h.Accounted e c) (now clock : Instant) :
    ∃ e' c', (h.next (.triggerDue now clock)).Accounted e' c' := by
  cases running : c.isShutDown with
  | true => exact accounted.trigger_closed running now clock
  | false =>
      cases whole : (pass now clock (.own e) c.schedules).outOfRange with
      | true => exact accounted.trigger_broken running whole
      | false => exact accounted.trigger_whole running whole

theorem Accounted.next (accounted : h.Accounted e c) (call : Call) :
    ∃ e' c', (h.next call).Accounted e' c' := by
  cases call with
  | triggerDue now clock => exact accounted.trigger now clock
  | _ =>
      apply accounted.other
      rintro now clock ⟨⟩

theorem accounted_start (fresh : Assembly.Fresh settings initial) :
    ∃ e c, (start initial).Accounted e c := by
  obtain ⟨e, read, own⟩ := fresh.executor
  obtain ⟨limit, -, rfl⟩ := Executor.ofSettings_ok read
  refine ⟨_, _, ⟨own, fresh.schedules⟩, Nat.one_pos, numbered_empty, rfl, Nat.le_refl _, ?_, ?_⟩
  · exact iff_of_true rfl rfl
  · exact fun _ => ⟨List.nodup_nil, fun id member => absurd member List.not_mem_nil,
      fun id member => absurd member List.not_mem_nil⟩

theorem accounted_run (fresh : Assembly.Fresh settings initial) (calls : List Call) :
    ∃ e c, (run initial calls).Accounted e c := by
  induction calls using List.reverseRecOn with
  | nil => exact accounted_start fresh
  | append_singleton calls call ih =>
      obtain ⟨e, c, accounted⟩ := ih
      rw [run, List.foldl_append]
      exact accounted.next call

/-- The count of the scheduler is that of the executions it has started, and schedules that run once
are submitted once, exactly as long as no trigger breaks off. A trigger breaks off exactly when one
of the schedules that the executor has room for cannot catch up. -/
theorem triggers_accounted (built : (Assembly.run .standard settings).product = .ok initial)
    (calls : List Call) :
    (run initial calls).accepted = (run initial calls).submitted.length ∧
    ((run initial calls).subsystems.schedules.manager.stats.triggered =
        (run initial calls).accepted ↔
      (run initial calls).brokenOff = 0) ∧
    ((run initial calls).brokenOff = 0 → (onceIds (run initial calls).submitted).Nodup) ∧
    ∃ e c, (run initial calls).subsystems.Own e c ∧
      ∀ now clock, (run initial calls).subsystems.breaksOff (.triggerDue now clock) = true ↔
        c.isShutDown = false ∧ ∃ s ∈ eligible e now c.schedules, s.Overruns now := by
  obtain ⟨e, c, accounted⟩ := accounted_run (Assembly.fresh_of_run built) calls
  refine ⟨accounted.recorded, ?_, fun unbroken => (accounted.spent unbroken).once, e, c,
    accounted.own, accounted.own.breaksOff_iff accounted.numbered⟩
  rw [accounted.own.schedules]
  exact accounted.complete

end History

/-! The subsystems of a server with one project, where a schedule runs once and another repeats. -/

namespace Sample

def settings : Settings :=
  ⟨⟨Dictionary.empty.insert "project.names" (.array [.string "etl"]), none⟩, []⟩

def subsystems : Subsystems where
  users := ⟨"memory", .memory ⟨.empty, false⟩⟩
  projects := ⟨"memory", .memory (.ofNames ["etl"])⟩
  executor := ⟨"local", .own (.ofLimit 10)⟩
  sla := ⟨"basic", .basic (.ofInterval 60000)⟩
  schedules := ⟨"basic", .basic .empty⟩

theorem built : (Assembly.run .standard settings).product = .ok subsystems := by
  rfl

def calls (period : Duration) : List Call :=
  let start : Instant := ⟨1700000000, 0⟩
  [.addSchedule ⟨"etl", "load"⟩ start none, .addSchedule ⟨"etl", "report"⟩ start (some period),
    .triggerDue start start, .triggerDue start start]

def opening : Instant := ⟨1700000000, 0⟩

def once : Schedule := ⟨1, ⟨"etl", "load"⟩, opening, none⟩

def repeating (period : Duration) : Schedule := ⟨2, ⟨"etl", "report"⟩, opening, some period⟩

def hour : Duration := .ofMillis 3600000

/-- No run has another one this much later. -/
def forever : Duration := .ofMillis 0x7FFFFFFFFFFFFFFF

def listed (period : Duration) : Scheduler :=
  { Scheduler.empty with nextId := 3, schedules := [once, repeating period] }

theorem own_listed {period : Duration} (positive : period.isPositive = true) :
    (subsystems.after ((calls period).take 2)).Own (.ofLimit 10) (listed period) where
  executor := rfl
  schedules := by
    have known : (ProjectStore.ofNames ["etl"]).contains "etl" = true := by decide +kernel
    simp [after, calls, perform, addSchedule, subsystems, ScheduleManager.add, add, listed,
      ProjectManager.contains, known, positive, Scheduler.empty, SlaManager.addRule, Sla.addRule,
      Sla.ofInterval, once, repeating, opening, Except.map]

def caughtUp : Schedule := { repeating hour with nextRun := ⟨1700003600, 0⟩ }

def bothStarted (e : Executor) : Executor :=
  (e.starting opening once.flow).starting opening (repeating hour).flow

theorem pass_hour :
    pass opening opening (.own (.ofLimit 10)) [once, repeating hour] =
      ⟨.own (bothStarted (.ofLimit 10)), [(once, 1), (repeating hour, 2)],
        [once, caughtUp], false⟩ := by
  have caught : Schedule.catchUp opening hour opening = .ok ⟨1700003600, 0⟩ := by
    have later : Schedule.Next hour opening ⟨1700003600, 0⟩ := rfl
    rw [Schedule.catchUp_of_behind (by decide) (by decide) later]
    exact Schedule.catchUp_of_ahead (by decide)
  rw [pass_moves (n := 9) (by decide) rfl (Schedule.follow_once rfl),
    pass_moves (n := 8) (by decide) rfl (Schedule.follow_of_ok rfl caught)]
  rfl

theorem pass_forever {e : Executor} {n : Nat} (free : e.slots = n + 2) :
    pass opening opening (.own e) [once, repeating forever] =
      ⟨.own (bothStarted e), [(once, e.nextId), (repeating forever, e.nextId + 1)],
        [once, repeating forever], true⟩ := by
  have stuck : Schedule.catchUp opening forever opening = .error opening :=
    (Schedule.catchUp_eq_error_iff (by decide)).mpr ⟨.refl, by decide, by decide⟩
  rw [pass_moves (by decide) free (Schedule.follow_once rfl),
    pass_overruns (by decide) (Executor.slots_starting free) (Schedule.follow_of_error rfl stuck)]
  rfl

theorem run_calls (period : Duration) :
    History.run subsystems (calls period) =
      (History.next ⟨subsystems.after ((calls period).take 2), 0, [], 0⟩
        (.triggerDue opening opening)).next (.triggerDue opening opening) :=
  rfl

theorem run_hour : ∃ after : Subsystems,
    History.run subsystems (calls hour) = ⟨after, 2, [once, repeating hour], 0⟩ ∧
      after.executor.manager = .own (bothStarted (.ofLimit 10)) := by
  obtain ⟨s₁, own₁, first⟩ := History.next_passed
    (h := ⟨subsystems.after ((calls hour).take 2), 0, [], 0⟩) (own_listed (by decide)) Nat.one_pos
    rfl pass_hour
  have waits : pass opening opening (.own (bothStarted (.ofLimit 10))) [caughtUp] =
      ⟨.own (bothStarted (.ofLimit 10)), [], [caughtUp], false⟩ :=
    pass_waits (Or.inl (by decide))
  obtain ⟨s₂, own₂, second⟩ := History.next_passed (h := ⟨s₁, 2, [once, repeating hour], 0⟩) own₁
    (by decide) rfl waits
  refine ⟨s₂, ?_, own₂.executor⟩
  rw [run_calls, first]
  exact second

theorem run_forever : ∃ after : Subsystems,
    History.run subsystems (calls forever) =
        ⟨after, 4, [once, repeating forever, once, repeating forever], 2⟩ ∧
      after.schedules.manager = .basic (listed forever) := by
  obtain ⟨s₁, own₁, first⟩ := History.next_passed
    (h := ⟨subsystems.after ((calls forever).take 2), 0, [], 0⟩) (own_listed (by decide))
    Nat.one_pos rfl (pass_forever (n := 8) rfl)
  obtain ⟨s₂, own₂, second⟩ := History.next_passed (h := ⟨s₁, 2, [once, repeating forever], 1⟩) own₁
    (by decide) rfl (pass_forever (n := 6) rfl)
  refine ⟨s₂, ?_, own₂.schedules⟩
  rw [run_calls, first]
  exact second

end Sample

theorem History.triggers_accounted_hourly :
    (Assembly.run .standard Sample.settings).product = .ok Sample.subsystems ∧
      (run Sample.subsystems (Sample.calls (.ofMillis 3600000))).brokenOff = 0 ∧
      (run Sample.subsystems
        (Sample.calls (.ofMillis 3600000))).subsystems.schedules.manager.stats.triggered = 2 := by
  obtain ⟨after, ran, -⟩ := Sample.run_hour
  have unbroken : (run Sample.subsystems (Sample.calls (.ofMillis 3600000))).brokenOff = 0 :=
    congrArg History.brokenOff ran
  refine ⟨Sample.built, unbroken, ?_⟩
  rw [(triggers_accounted Sample.built _).2.1.mpr unbroken]
  exact congrArg History.accepted ran

/-- A period that leads out of the calendar: both triggers break off, nothing is counted, and the
schedule that runs once is submitted by both. -/
theorem History.trigger_breaks_off :
    (run Sample.subsystems (Sample.calls (.ofMillis 0x7FFFFFFFFFFFFFFF))).brokenOff = 2 ∧
      (run Sample.subsystems
        (Sample.calls (.ofMillis 0x7FFFFFFFFFFFFFFF))).subsystems.schedules.manager.stats.triggered
          = 0 ∧
      (run Sample.subsystems (Sample.calls (.ofMillis 0x7FFFFFFFFFFFFFFF))).accepted = 4 ∧
      onceIds (run Sample.subsystems
        (Sample.calls (.ofMillis 0x7FFFFFFFFFFFFFFF))).submitted = [1, 1] := by
  obtain ⟨after, ran, scheduled⟩ := Sample.run_forever
  rw [Sample.forever] at ran
  rw [ran]
  refine ⟨rfl, ?_, rfl, rfl⟩
  rw [scheduled]
  rfl

end ViewerHost
