import ViewerHost.Proofs.Subsystem.CatchUp

namespace ViewerHost.Executor

variable {e : Executor} {clock : Instant} {flow : Flow} {flows : List Flow} {n : Nat}

def slots (e : Executor) : Nat := if e.isShutDown then 0 else e.maxConcurrent - e.running.length

def starting (e : Executor) (clock : Instant) (flow : Flow) : Executor :=
  { e with
    nextId := e.nextId + 1
    running := e.running ++ [(e.nextId, flow)]
    lastSubmitted := some clock }

def startingAll (e : Executor) (clock : Instant) (flows : List Flow) : Executor :=
  { e with
    nextId := e.nextId + flows.length
    running := e.running ++ (List.range' e.nextId flows.length).zip flows
    lastSubmitted := if flows = [] then e.lastSubmitted else some clock }

theorem submit_full (full : e.slots = 0) : ∃ cause, e.submit clock flow = .error cause := by
  unfold submit
  split
  · exact ⟨_, rfl⟩
  · rename_i running
    rw [slots, if_neg running] at full
    rw [if_pos (by omega)]
    exact ⟨_, rfl⟩

theorem submit_free (free : e.slots = n + 1) :
    e.submit clock flow = .ok (e.nextId, e.starting clock flow) := by
  unfold slots at free
  split at free
  · cases free
  · rename_i running
    rw [submit, if_neg running, if_neg (by omega)]
    rfl

theorem slots_starting (free : e.slots = n + 1) : (e.starting clock flow).slots = n := by
  unfold slots at free ⊢
  split at free
  · cases free
  · rename_i running
    simp only [starting, running, if_false, List.length_append, List.length_singleton,
      Bool.false_eq_true]
    omega

theorem startingAll_nil : e.startingAll clock [] = e := by
  simp [startingAll]

theorem startingAll_cons :
    e.startingAll clock (flow :: flows) = (e.starting clock flow).startingAll clock flows := by
  simp only [startingAll, starting, List.length_cons, List.range'_succ, List.zip_cons_cons,
    List.append_assoc, List.singleton_append, reduceCtorEq, if_false, ite_self]
  congr 1
  omega

end ViewerHost.Executor

namespace ViewerHost.Scheduler

variable {now clock : Instant} {e : Executor} {s next last : Schedule}
  {schedules rest : List Schedule} {n : Nat}

def eligible (e : Executor) (now : Instant) (schedules : List Schedule) : List Schedule :=
  (schedules.filter (·.isDue now)).take e.slots

theorem eligible_sublist (e : Executor) (now : Instant) (schedules : List Schedule) :
    List.Sublist (eligible e now schedules) schedules :=
  (List.take_sublist _ _).trans List.filter_sublist

theorem eligible_waits (waits : s.isDue now = false ∨ e.slots = 0) :
    eligible e now (s :: rest) = eligible e now rest := by
  rcases waits with ahead | full
  · rw [eligible, eligible, List.filter_cons_of_neg (by simp [ahead])]
  · rw [eligible, eligible, full, List.take_zero, List.take_zero]

theorem eligible_due (clock : Instant) (due : s.isDue now = true) (free : e.slots = n + 1) :
    eligible e now (s :: rest) = s :: eligible (e.starting clock s.flow) now rest := by
  simp only [eligible, List.filter_cons, due, if_true]
  rw [free, List.take_succ_cons, Executor.slots_starting free]

theorem pass_waits (waits : s.isDue now = false ∨ e.slots = 0) :
    pass now clock (.own e) (s :: rest) = (pass now clock (.own e) rest).after s := by
  rw [pass]
  cases due : s.isDue now with
  | false => rfl
  | true =>
      have full : e.slots = 0 := by simpa [due] using waits
      obtain ⟨cause, refused⟩ := Executor.submit_full full
      have refused' : (ExecutorManager.own e).submit clock s.flow = .error cause := by
        rw [ExecutorManager.submit, refused]
        rfl
      rw [if_pos rfl, refused']

theorem submit_own (free : e.slots = n + 1) :
    (ExecutorManager.own e).submit clock s.flow =
      .ok (e.nextId, .own (e.starting clock s.flow)) := by
  rw [ExecutorManager.submit, Executor.submit_free free]
  rfl

theorem pass_moves (due : s.isDue now = true) (free : e.slots = n + 1)
    (moves : s.follow now = .ok next) :
    pass now clock (.own e) (s :: rest) =
      ((pass now clock (.own (e.starting clock s.flow)) rest).after next).starting s e.nextId := by
  rw [pass, if_pos due, submit_own free]
  simp only [moves]

theorem pass_overruns (due : s.isDue now = true) (free : e.slots = n + 1)
    (overruns : s.follow now = .error last) :
    pass now clock (.own e) (s :: rest) =
      ⟨.own (e.starting clock s.flow), [(s, e.nextId)], last :: rest, true⟩ := by
  rw [pass, if_pos due, submit_own free]
  simp only [overruns]

/-- Each schedule of a pass waits, moves on or overruns, and only the last of these ends the
pass. -/
theorem pass_induction (now clock : Instant) {motive : Executor → List Schedule → Prop}
    (nil : ∀ e, motive e [])
    (waits : ∀ e s rest, s.isDue now = false ∨ e.slots = 0 → motive e rest → motive e (s :: rest))
    (moves : ∀ e s rest next n, s.isDue now = true → e.slots = n + 1 → s.follow now = .ok next →
      motive (e.starting clock s.flow) rest → motive e (s :: rest))
    (overruns : ∀ e s rest last n, s.isDue now = true → e.slots = n + 1 →
      s.follow now = .error last → motive e (s :: rest))
    (e : Executor) (schedules : List Schedule) : motive e schedules := by
  -- The executor fills up on the way, so it is not fixed.
  induction schedules generalizing e with
  | nil => exact nil e
  | cons s rest ih =>
      cases due : s.isDue now with
      | false => exact waits e s rest (Or.inl due) (ih e)
      | true =>
          cases free : e.slots with
          | zero => exact waits e s rest (Or.inr free) (ih e)
          | succ n =>
              cases outcome : s.follow now with
              | ok next => exact moves e s rest next n due free outcome (ih _)
              | error last => exact overruns e s rest last n due free outcome

/-! ## What a pass does -/

theorem started_isPrefix (e : Executor) (schedules : List Schedule) :
    (pass now clock (.own e) schedules).started.map Prod.fst <+: eligible e now schedules := by
  induction e, schedules using pass_induction now clock with
  | nil e => exact List.nil_prefix
  | waits e s rest waits ih =>
      rw [pass_waits waits, eligible_waits waits]
      exact ih
  | moves e s rest next n due free moves ih =>
      rw [pass_moves due free moves, eligible_due clock due free]
      exact List.prefix_cons_inj s |>.mpr ih
  | overruns e s rest last n due free overruns =>
      rw [pass_overruns due free overruns, eligible_due clock due free]
      exact List.prefix_cons_inj s |>.mpr List.nil_prefix

theorem outOfRange_iff (now clock : Instant) (e : Executor) (schedules : List Schedule)
    (positive : ∀ s ∈ schedules, ∀ period ∈ s.period, period.isPositive = true) :
    (pass now clock (.own e) schedules).outOfRange = true ↔
      ∃ s ∈ eligible e now schedules, s.Overruns now := by
  induction e, schedules using pass_induction now clock with
  | nil e => simp [pass, eligible]
  | waits e s rest waits ih =>
      rw [pass_waits waits, eligible_waits waits]
      exact ih fun s member => positive s (List.mem_cons_of_mem _ member)
  | moves e s rest next n due free moves ih =>
      have stays : ¬s.Overruns now := by
        rw [← Schedule.follow_eq_error_iff (positive s List.mem_cons_self), moves]
        rintro ⟨last, ⟨⟩⟩
      rw [pass_moves due free moves, eligible_due clock due free]
      simp only [List.mem_cons, exists_eq_or_imp]
      rw [or_iff_right stays]
      exact ih fun s member => positive s (List.mem_cons_of_mem _ member)
  | overruns e s rest last n due free overruns =>
      have ends :=
        (Schedule.follow_eq_error_iff (positive s List.mem_cons_self)).mp ⟨last, overruns⟩
      rw [pass_overruns due free overruns, eligible_due clock due free]
      exact iff_of_true rfl ⟨s, List.mem_cons_self, ends⟩

theorem started_of_outOfRange (e : Executor) (schedules : List Schedule)
    (broken : (pass now clock (.own e) schedules).outOfRange = true) :
    (pass now clock (.own e) schedules).started ≠ [] := by
  induction e, schedules using pass_induction now clock with
  | nil e => cases broken
  | waits e s rest waits ih =>
      rw [pass_waits waits] at broken ⊢
      exact ih broken
  | moves e s rest next n due free moves ih =>
      rw [pass_moves due free moves]
      exact List.cons_ne_nil _ _
  | overruns e s rest last n due free overruns =>
      rw [pass_overruns due free overruns]
      exact List.cons_ne_nil _ _

theorem executor_of_pass (now clock : Instant) (e : Executor) (schedules : List Schedule) :
    (pass now clock (.own e) schedules).executor =
      .own (e.startingAll clock
        ((pass now clock (.own e) schedules).started.map (·.1.flow))) := by
  induction e, schedules using pass_induction now clock with
  | nil e => exact congrArg _ Executor.startingAll_nil.symm
  | waits e s rest waits ih =>
      rw [pass_waits waits]
      exact ih
  | moves e s rest next n due free moves ih =>
      rw [pass_moves due free moves]
      simp only [TriggerPass.starting, TriggerPass.after, List.map_cons]
      rw [ih, Executor.startingAll_cons]
  | overruns e s rest last n due free overruns =>
      rw [pass_overruns due free overruns]
      simp only [List.map_cons, List.map_nil]
      rw [Executor.startingAll_cons, Executor.startingAll_nil]

theorem ids_of_pass (now clock : Instant) (e : Executor) (schedules : List Schedule) :
    (pass now clock (.own e) schedules).started.map (·.2) =
      List.range' e.nextId (pass now clock (.own e) schedules).started.length := by
  induction e, schedules using pass_induction now clock with
  | nil e => rfl
  | waits e s rest waits ih =>
      rw [pass_waits waits]
      exact ih
  | moves e s rest next n due free moves ih =>
      rw [pass_moves due free moves]
      exact congrArg (e.nextId :: ·) ih
  | overruns e s rest last n due free overruns =>
      rw [pass_overruns due free overruns]
      rfl

theorem executor_after_pass (now clock : Instant) (e : Executor) (schedules : List Schedule) :
    ∃ after, (pass now clock (.own e) schedules).executor = .own after ∧
      after.nextId = e.nextId + (pass now clock (.own e) schedules).started.length ∧
      after.running = e.running ++ (pass now clock (.own e) schedules).started.map
        fun (s, id) => (id, s.flow) := by
  refine ⟨_, executor_of_pass now clock e schedules, ?_, ?_⟩
  · rw [Executor.startingAll, List.length_map]
  · rw [Executor.startingAll, List.length_map, ← ids_of_pass now clock e schedules, List.zip_map']

theorem executor_of_full (full : e.slots = 0) (schedules : List Schedule) :
    (pass now clock (.own e) schedules).executor = .own e := by
  induction schedules with
  | nil => rfl
  | cons s rest ih =>
      rw [pass_waits (Or.inr full)]
      exact ih

def kept (s : Schedule) : Nat × Option Duration := (s.id, s.period)

theorem kept_of_follow (followed : s.follow now = .ok next ∨ s.follow now = .error next) :
    kept next = kept s := by
  obtain ⟨run, moved | moved⟩ := s.follow_moves now
  · rcases followed with same | same
    · obtain rfl := Except.ok.inj (moved.symm.trans same)
      rfl
    · rw [moved] at same
      cases same
  · rcases followed with same | same
    · rw [moved] at same
      cases same
    · obtain rfl := Except.error.inj (moved.symm.trans same)
      rfl

theorem kept_of_pass (now clock : Instant) (e : Executor) (schedules : List Schedule) :
    (pass now clock (.own e) schedules).schedules.map kept = schedules.map kept := by
  induction e, schedules using pass_induction now clock with
  | nil e => rfl
  | waits e s rest waits ih =>
      rw [pass_waits waits]
      exact congrArg (kept s :: ·) ih
  | moves e s rest next n due free moves ih =>
      rw [pass_moves due free moves, List.map_cons, ← kept_of_follow (Or.inl moves)]
      exact congrArg (kept next :: ·) ih
  | overruns e s rest last n due free overruns =>
      rw [pass_overruns due free overruns, List.map_cons, List.map_cons,
        kept_of_follow (Or.inr overruns)]

/-! ## Triggers -/

variable {c : Scheduler} {m : ExecutorManager}

theorem trigger_closed (closed : c.isShutDown = true) :
    c.trigger m now clock = (c, m, .error (.refused stopped)) := by
  rw [trigger, if_pos closed]

theorem trigger_broken (running : c.isShutDown = false)
    (broken : (pass now clock m c.schedules).outOfRange = true) :
    c.trigger m now clock =
      ({ c with schedules := (pass now clock m c.schedules).schedules },
        (pass now clock m c.schedules).executor, .error .outOfRange) := by
  simp only [trigger, running, broken, if_true, Bool.false_eq_true, if_false]

theorem trigger_whole (running : c.isShutDown = false)
    (whole : (pass now clock m c.schedules).outOfRange = false) :
    c.trigger m now clock =
      ({ c with
        schedules := (pass now clock m c.schedules).remaining
        triggered := c.triggered + (pass now clock m c.schedules).started.length },
        (pass now clock m c.schedules).executor,
        .ok ((pass now clock m c.schedules).started.map (·.2))) := by
  simp only [trigger, running, whole, Bool.false_eq_true, if_false]

theorem trigger_executor (c : Scheduler) (e : Executor) (now clock : Instant) :
    ∃ after, (c.trigger (.own e) now clock).2.1 = .own after ∧ e.nextId ≤ after.nextId := by
  obtain ⟨after, same, ids, -⟩ := executor_after_pass now clock e c.schedules
  have later : e.nextId ≤ after.nextId := ids ▸ Nat.le_add_right _ _
  cases running : c.isShutDown with
  | true => exact ⟨e, by rw [trigger_closed running], Nat.le_refl _⟩
  | false =>
      cases whole : (pass now clock (.own e) c.schedules).outOfRange with
      | true => exact ⟨after, by rw [trigger_broken running whole, same], later⟩
      | false => exact ⟨after, by rw [trigger_whole running whole, same], later⟩

end ViewerHost.Scheduler
