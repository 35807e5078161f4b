import Mathlib.Tactic.ByContra
import ViewerHost.Proofs.Subsystem.Calls
import ViewerHost.Server.Lifecycle

/-!
The life of a server over a run of calls. It takes one of five courses: not yet started, stopped by
its settings or its subsystems, running, or shut down. Only the first start can lead anywhere, and
only one shutdown does.
-/

namespace ViewerHost

inductive ServerCall where
  | start (tree : FileTree)
  | shutDown
  | operate (call : Call)
  | manage (change : Bridge Subsystems → Bridge Subsystems)

namespace Server

variable {s : Server} {settings : Settings} {implementations : Implementations} {catalog : Catalog}
  {tree : FileTree} {call : ServerCall} {calls : List ServerCall}

def perform (s : Server) : ServerCall → Server
  | .start tree => (s.start tree).server
  | .shutDown => s.shutDown.server
  | .operate call =>
    { s with context := s.context.map fun c => { c with subsystems := c.subsystems.perform call } }
  | .manage change =>
    { s with context := s.context.map fun c => { c with management := change c.management } }

def after (s : Server) (calls : List ServerCall) : Server := calls.foldl perform s

def courses : List (List Phase) := [
  [.unstarted],
  [.unstarted, .configuring, .stopped],
  [.unstarted, .configuring, .buildingSubsystems, .stopped],
  [.unstarted, .configuring, .buildingSubsystems, .registeringManagement, .loadingPlugins, .running],
  [.unstarted, .configuring, .buildingSubsystems, .registeringManagement, .loadingPlugins, .running,
    .shuttingDown, .stopped]]

def untilRunning : List Phase :=
  [.loadingPlugins, .registeringManagement, .buildingSubsystems, .configuring, .unstarted]

/-- A server on one of its courses, with the context and the report that it has by then. -/
inductive OnCourse (settings : Settings) (implementations : Implementations) (catalog : Catalog) :
    Server → Prop where
  | unstarted : OnCourse settings implementations catalog (new settings implementations catalog)
  | unconfigured :
      OnCourse settings implementations catalog
        ⟨settings, implementations, catalog, .stopped, [.configuring, .unstarted], none, none⟩
  | unbuilt :
      OnCourse settings implementations catalog
        ⟨settings, implementations, catalog, .stopped,
          [.buildingSubsystems, .configuring, .unstarted], none, none⟩
  | running (context : Context) (report : DiscoveryReport) :
      OnCourse settings implementations catalog
        ⟨settings, implementations, catalog, .running, untilRunning, some context, some report⟩
  | shutDown (context : Context) (report : DiscoveryReport) :
      OnCourse settings implementations catalog
        ⟨settings, implementations, catalog, .stopped, .shuttingDown :: .running :: untilRunning,
          some context, some report⟩

/-! ## One call -/

theorem start_again (started : s.phase ≠ .unstarted) (tree : FileTree) :
    s.start tree = ⟨s, tree, [], .error (.notUnstarted s.phase)⟩ := if_pos started

theorem start_cases (settings : Settings) (implementations : Implementations) (catalog : Catalog)
    (tree : FileTree) :
    let s := (new settings implementations catalog).enter .configuring
    let assembly := Assembly.run implementations settings
    (∃ tree' cause, (new settings implementations catalog).start tree = s.fail tree' [] cause) ∨
    (∃ tree' cause, assembly.product = .error cause ∧
      (new settings implementations catalog).start tree =
        (s.enter .buildingSubsystems).fail tree' assembly.events (.assembly cause)) ∨
    ∃ config tree' sessions subsystems, assembly.product = .ok subsystems ∧
      (new settings implementations catalog).start tree =
        ⟨(s.enter .buildingSubsystems).finishStart config tree' sessions subsystems, tree',
          assembly.events, .ok ()⟩ := by
  intro s assembly
  rcases prepared : prepare settings tree with ⟨tree', outcome⟩
  cases outcome with
  | error cause =>
      refine Or.inl ⟨tree', cause, ?_⟩
      simp only [start, new, enter, ne_eq, not_true_eq_false, if_false, prepared]
      rfl
  | ok ready =>
      obtain ⟨config, sessions⟩ := ready
      cases built : assembly.product with
      | error cause =>
          refine Or.inr (Or.inl ⟨tree', cause, rfl, ?_⟩)
          simp only [start, new, enter, ne_eq, not_true_eq_false, if_false, prepared]
          rw [show (Assembly.run implementations settings).product = _ from built]
          rfl
      | ok subsystems =>
          refine Or.inr (Or.inr ⟨config, tree', sessions, subsystems, rfl, ?_⟩)
          simp only [start, new, enter, ne_eq, not_true_eq_false, if_false, prepared]
          rw [show (Assembly.run implementations settings).product = _ from built]
          rfl

theorem shutDown_idle (away : s.phase ≠ .running) : s.shutDown = ⟨s, [], [], .nothing⟩ := by
  unfold shutDown
  split
  · rename_i running _
    exact absurd running away
  · rename_i running _
    exact absurd running away
  · rfl

theorem performed_iff : s.shutDown.report.performed = true ↔ s.phase = .running := by
  constructor
  · intro performed
    by_contra away
    rw [shutDown_idle away] at performed
    cases performed
  · intro running
    unfold shutDown
    rw [running]
    cases s.context with
    | none => rfl
    | some context => rfl

theorem shutDown_running (running : s.phase = .running) :
    s.shutDown.server.phase = .stopped := by
  unfold shutDown
  rw [running]
  cases s.context with
  | none => rfl
  | some context => rfl

theorem first_start (settings : Settings) (implementations : Implementations) (catalog : Catalog)
    (tree : FileTree) :
    let run := (new settings implementations catalog).start tree
    OnCourse settings implementations catalog run.server ∧
      (run.outcome = .ok () ∧ run.server.phase = .running ∨
        ∃ cause, run.outcome = .error (.config cause) ∧ run.server.phase = .stopped) := by
  intro run
  rcases start_cases settings implementations catalog tree with
    ⟨tree', cause, ran⟩ | ⟨tree', cause, -, ran⟩ | ⟨config, tree', sessions, subsystems, -, ran⟩
  · rw [show run = _ from ran]
    exact ⟨.unconfigured, Or.inr ⟨cause, rfl, rfl⟩⟩
  · rw [show run = _ from ran]
    exact ⟨.unbuilt, Or.inr ⟨.assembly cause, rfl, rfl⟩⟩
  · rw [show run = _ from ran]
    exact ⟨.running _ _, Or.inl ⟨rfl, rfl⟩⟩

theorem OnCourse.eq_new (course : OnCourse settings implementations catalog s)
    (begun : s.phase = .unstarted) : s = new settings implementations catalog := by
  cases course with
  | unstarted => rfl
  | _ => cases begun

theorem OnCourse.map_context (course : OnCourse settings implementations catalog s)
    (change : Context → Context) :
    OnCourse settings implementations catalog { s with context := s.context.map change } := by
  cases course with
  | unstarted => exact .unstarted
  | unconfigured => exact .unconfigured
  | unbuilt => exact .unbuilt
  | running context report => exact .running _ report
  | shutDown context report => exact .shutDown _ report

theorem OnCourse.perform (course : OnCourse settings implementations catalog s)
    (call : ServerCall) : OnCourse settings implementations catalog (s.perform call) := by
  cases call with
  | start tree =>
      by_cases begun : s.phase = .unstarted
      · rw [course.eq_new begun]
        exact (first_start settings implementations catalog tree).1
      · rw [Server.perform, start_again begun]
        exact course
  | shutDown =>
      by_cases running : s.phase = .running
      · cases course with
        | running context report => exact .shutDown _ report
        | _ => cases running
      · rw [Server.perform, shutDown_idle running]
        exact course
  | operate call => exact course.map_context _
  | manage change => exact course.map_context _

theorem OnCourse.running_context (course : OnCourse settings implementations catalog s)
    (running : s.phase = .running) : ∃ context, s.context = some context := by
  cases course with
  | running context report => exact ⟨context, rfl⟩
  | _ => cases running

theorem OnCourse.started (course : OnCourse settings implementations catalog s) (tree : FileTree) :
    (s.perform (.start tree)).phase ≠ .unstarted := by
  by_cases begun : s.phase = .unstarted
  · rw [course.eq_new begun, Server.perform]
    rcases (first_start settings implementations catalog tree).2 with
      ⟨-, reached⟩ | ⟨cause, -, reached⟩
    · rw [reached]
      nofun
    · rw [reached]
      nofun
  · rw [Server.perform, start_again begun]
    exact begun

theorem perform_unstarted (other : ∀ tree, call ≠ .start tree) :
    (new settings implementations catalog).perform call = new settings implementations catalog := by
  cases call with
  | start tree => exact absurd rfl (other tree)
  | shutDown => rfl
  | operate call => rfl
  | manage change => rfl

theorem started_perform (started : s.phase ≠ .unstarted) (call : ServerCall) :
    (s.perform call).phase ≠ .unstarted := by
  cases call with
  | start tree =>
      rw [perform, start_again started]
      exact started
  | shutDown =>
      by_cases running : s.phase = .running
      · rw [perform, shutDown_running running]
        nofun
      · rw [perform, shutDown_idle running]
        exact started
  | operate call => exact started
  | manage change => exact started

theorem stopped_perform (stopped : s.phase = .stopped) (call : ServerCall) :
    (s.perform call).phase = .stopped := by
  cases call with
  | start tree =>
      rw [perform, start_again (by simp [stopped])]
      exact stopped
  | shutDown =>
      rw [perform, shutDown_idle (by simp [stopped])]
      exact stopped
  | operate call => exact stopped
  | manage change => exact stopped

/-! ## A run of calls -/

theorem after_induction {motive : Server → Prop}
    (step : ∀ s call, motive s → motive (s.perform call)) (start : motive s) (calls : List ServerCall) :
    motive (s.after calls) := by
  induction calls generalizing s with
  | nil => exact start
  | cons call calls ih => exact ih (step s call start)

theorem OnCourse.after (course : OnCourse settings implementations catalog s)
    (calls : List ServerCall) : OnCourse settings implementations catalog (s.after calls) :=
  after_induction (fun _ call course => course.perform call) course calls

theorem OnCourse.started_after (course : OnCourse settings implementations catalog s)
    (begun : .start tree ∈ calls) : (s.after calls).phase ≠ .unstarted := by
  induction calls generalizing s with
  | nil => cases begun
  | cons call calls ih =>
      rcases List.mem_cons.mp begun with rfl | later
      · exact after_induction (motive := fun s => s.phase ≠ .unstarted)
          (fun _ call started => started_perform started call) (course.started tree) calls
      · exact ih (course.perform call) later

theorem after_unstarted (unbegun : ∀ tree, .start tree ∉ calls) :
    (new settings implementations catalog).after calls = new settings implementations catalog := by
  induction calls with
  | nil => rfl
  | cons call calls ih =>
      rw [after, List.foldl_cons, perform_unstarted]
      · exact ih fun tree member => unbegun tree (List.mem_cons_of_mem _ member)
      · rintro tree rfl
        exact unbegun tree List.mem_cons_self

theorem OnCourse.facts (course : OnCourse settings implementations catalog s) :
    s.transitions ∈ courses ∧ (s.context.isSome = true ↔ .running ∈ s.transitions) ∧
      (s.report.isSome = true ↔ .loadingPlugins ∈ s.transitions) := by
  cases course with
  | unstarted => simp [courses, transitions, new]
  | unconfigured => simp [courses, transitions]
  | unbuilt => simp [courses, transitions]
  | running context report => simp [courses, transitions, untilRunning]
  | shutDown context report => simp [courses, transitions, untilRunning]

/-- After any calls a server has taken one of its courses. Only the first start can succeed, and the
later ones change nothing. A shutdown is performed if and only if the server is running, never again
after that, and changes nothing otherwise. The context comes with running, and the report with the
loading of the plugins. -/
theorem keeps_to_its_course (settings : Settings) (implementations : Implementations)
    (catalog : Catalog) (calls : List ServerCall) :
    let s := (new settings implementations catalog).after calls
    (s.transitions ∈ courses ∧ s.transitions.getLast? = some s.phase) ∧
    (∀ tree, (∃ earlier, .start earlier ∈ calls) →
      s.start tree = ⟨s, tree, [], .error (.notUnstarted s.phase)⟩) ∧
    (∀ tree, (∀ earlier, .start earlier ∉ calls) →
      (s.start tree).outcome = .ok () ∧ (s.start tree).server.phase = .running ∨
        ∃ cause, (s.start tree).outcome = .error (.config cause) ∧
          (s.start tree).server.phase = .stopped) ∧
    (s.shutDown.report.performed = true ↔ s.phase = .running) ∧
    (s.phase ≠ .running → s.shutDown = ⟨s, [], [], .nothing⟩) ∧
    (s.phase = .running → ∀ further,
      ((s.perform .shutDown).after further).shutDown.report.performed = false) ∧
    (s.context.isSome = true ↔ .running ∈ s.transitions) ∧
    (s.report.isSome = true ↔ .loadingPlugins ∈ s.transitions) := by
  intro s
  have course : OnCourse settings implementations catalog s := OnCourse.unstarted.after calls
  obtain ⟨onCourse, context, report⟩ := course.facts
  refine ⟨⟨onCourse, by simp [transitions]⟩, ?_, ?_, performed_iff, shutDown_idle, ?_, context,
    report⟩
  · rintro tree ⟨earlier, begun⟩
    exact start_again (OnCourse.unstarted.started_after begun) tree
  · intro tree unbegun
    rw [show s = _ from after_unstarted unbegun]
    exact (first_start settings implementations catalog tree).2
  · intro running further
    have stopped : ((s.perform .shutDown).after further).phase = .stopped :=
      after_induction (motive := fun s => s.phase = .stopped)
        (fun _ call stopped => stopped_perform stopped call) (shutDown_running running) further
    rw [← Bool.not_eq_true, performed_iff, stopped]
    nofun

end Server

end ViewerHost
