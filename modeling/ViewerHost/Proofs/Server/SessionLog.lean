import Mathlib.Data.Finset.Option
import ViewerHost.Server.Session

namespace ViewerHost

inductive SessionCall where
  | add (session : Session)
  | get (id : String)
  | remove (id : String)

/-- A call at a reading of the clock, in nanoseconds, and the session that it answered with. -/
structure SessionStep where
  time : Int
  call : SessionCall
  answer? : Option Session

def SessionStep.used? (step : SessionStep) : Option String :=
  match step.call with
  | .add session => some session.id
  | .get id => step.answer?.map fun _ => id
  | .remove _ => none

namespace SessionStep

variable {time : Int} {session : Session} {id : String} {answer? : Option Session}

@[simp] theorem used?_add : used? ⟨time, .add session, answer?⟩ = some session.id := rfl

@[simp] theorem used?_get : used? ⟨time, .get id, answer?⟩ = answer?.map fun _ => id := rfl

@[simp] theorem used?_remove : used? ⟨time, .remove id, answer?⟩ = none := rfl

end SessionStep

namespace SessionLog

def standing? (id : String) : List SessionStep → Option Session
  | [] => none
  | step :: earlier =>
    match step.call with
    | .add session => if session.id = id then some session else standing? id earlier
    | .get _ => standing? id earlier
    | .remove other => if other = id then none else standing? id earlier

def lastUse? (id : String) : List SessionStep → Option Int
  | [] => none
  | step :: earlier => if step.used? = some id then some step.time else lastUse? id earlier

def usedSince (id : String) : List SessionStep → Finset String
  | [] => ∅
  | step :: earlier =>
    if step.used? = some id then ∅ else step.used?.toFinset ∪ usedSince id earlier

def Ascending (log : List SessionStep) : Prop :=
  log.Pairwise fun later earlier => earlier.time < later.time

variable {log : List SessionStep} {step : SessionStep} {id other : String} {s : Session} {t u : Int}

theorem id_of_standing? (stands : standing? id log = some s) : s.id = id := by
  induction log with
  | nil => cases stands
  | cons step log ih =>
      unfold standing? at stands
      split at stands
      · split at stands
        · rename_i same
          obtain rfl := Option.some.inj stands
          exact same
        · exact ih stands
      · exact ih stands
      · split at stands
        · cases stands
        · exact ih stands

theorem lastUse?_cons_same (used : step.used? = some id) :
    lastUse? id (step :: log) = some step.time := if_pos used

theorem lastUse?_cons_other (unused : step.used? ≠ some id) :
    lastUse? id (step :: log) = lastUse? id log := if_neg unused

theorem usedSince_cons_other (unused : step.used? ≠ some id) :
    usedSince id (step :: log) = step.used?.toFinset ∪ usedSince id log := if_neg unused

theorem standing?_cons_other (unused : step.used? ≠ some id) (unremoved : step.call ≠ .remove id) :
    standing? id (step :: log) = standing? id log := by
  cases called : step.call with
  | add session =>
      have different : session.id ≠ id := by simpa [SessionStep.used?, called] using unused
      simp only [standing?, called, if_neg different]
  | get other => simp only [standing?, called]
  | remove other =>
      have different : other ≠ id := by simpa [called] using unremoved
      simp only [standing?, called, if_neg different]

theorem exists_of_lastUse? (last : lastUse? id log = some t) : ∃ step ∈ log, step.time = t := by
  induction log with
  | nil => cases last
  | cons step log ih =>
      unfold lastUse? at last
      split at last
      · exact ⟨step, List.mem_cons_self, Option.some.inj last⟩
      · obtain ⟨earlier, member, same⟩ := ih last
        exact ⟨earlier, List.mem_cons_of_mem step member, same⟩

theorem mem_usedSince (ascending : Ascending log) (last : lastUse? id log = some t)
    (last' : lastUse? other log = some u) (after : t ≤ u) (different : other ≠ id) :
    other ∈ usedSince id log := by
  induction log with
  | nil => cases last
  | cons step log ih =>
      obtain ⟨above, ascending⟩ := List.pairwise_cons.mp ascending
      by_cases used : step.used? = some id
      · rw [lastUse?_cons_same used, Option.some.injEq] at last
        rw [lastUse?_cons_other (by simp [used, different.symm])] at last'
        obtain ⟨earlier, member, rfl⟩ := exists_of_lastUse? last'
        have before := above earlier member
        omega
      · rw [usedSince_cons_other used, Finset.mem_union]
        by_cases used' : step.used? = some other
        · exact Or.inl (by simp [used'])
        · rw [lastUse?_cons_other used] at last
          rw [lastUse?_cons_other used'] at last'
          exact Or.inr (ih ascending last last')

end SessionLog

end ViewerHost
