import Mathlib.Logic.Relation
import ViewerHost.Proofs.Time.Order
import ViewerHost.Subsystem.Schedule

/-!
Catching up: the runs of a schedule follow each other a period apart, and the scheduler goes through
those that are not after `now`. It fails exactly when one of them is the last that can be named, and
otherwise comes to the first run after `now`.
-/

namespace ViewerHost.Instant

variable {a b : Instant} {n : Int}

theorem le_of_advance? (later : a.advance? n = some b) (positive : 0 < n) : a.le b = true := by
  have after := later_of_advance? later positive
  rw [le_iff]
  omega

end ViewerHost.Instant

namespace ViewerHost.Schedule
open Relation

variable {s after : Schedule} {now run next last : Instant} {period : Duration}

def Next (period : Duration) (run next : Instant) : Prop := run.advance? period.nanos = some next

theorem le_of_runs (positive : period.isPositive = true)
    (runs : ReflTransGen (Next period) run last) : run.le last = true := by
  induction runs with
  | refl => exact run.le_refl
  | tail _ later ih =>
      have onward := Instant.le_of_advance? later (Duration.isPositive_iff.mp positive)
      exact Instant.le_trans ih onward

theorem catchUp_eq_error_iff (positive : period.isPositive = true) :
    catchUp now period run = .error last ↔
      ReflTransGen (Next period) run last ∧ last.le now = true ∧
        last.advance? period.nanos = none := by
  fun_induction catchUp now period run with
  | case1 run behind next later _ _ ih =>
      rw [ih]
      constructor
      · rintro ⟨runs, reached, stuck⟩
        exact ⟨.head later runs, reached, stuck⟩
      · rintro ⟨runs, reached, stuck⟩
        rcases runs.cases_head with rfl | ⟨next', later', runs'⟩
        · rw [later] at stuck
          cases stuck
        · obtain rfl : next = next' := Option.some.inj (later.symm.trans later')
          exact ⟨runs', reached, stuck⟩
  | case2 run behind stuck =>
      constructor
      · rintro ⟨⟩
        exact ⟨.refl, behind.1, stuck⟩
      · rintro ⟨runs, -, -⟩
        rcases runs.cases_head with rfl | ⟨next, later, -⟩
        · rfl
        · rw [Next, stuck] at later
          cases later
  | case3 run ahead =>
      constructor
      · rintro ⟨⟩
      · rintro ⟨runs, reached, -⟩
        exact absurd ⟨Instant.le_trans (le_of_runs positive runs) reached, positive⟩ ahead

theorem follow_once (once : s.period = none) : s.follow now = .ok s := by
  rw [follow, once]

theorem follow_of_ok (repeats : s.period = some period)
    (caught : catchUp now period s.nextRun = .ok next) :
    s.follow now = .ok { s with nextRun := next } := by
  simp only [follow, repeats, caught]

theorem follow_of_error (repeats : s.period = some period)
    (caught : catchUp now period s.nextRun = .error last) :
    s.follow now = .error { s with nextRun := last } := by
  simp only [follow, repeats, caught]

theorem follow_moves (s : Schedule) (now : Instant) :
    ∃ run, s.follow now = .ok { s with nextRun := run } ∨
      s.follow now = .error { s with nextRun := run } := by
  rcases s.period.eq_none_or_eq_some with once | ⟨period, repeats⟩
  · exact ⟨s.nextRun, Or.inl (follow_once once)⟩
  · cases caught : catchUp now period s.nextRun with
    | ok next => exact ⟨next, Or.inl (follow_of_ok repeats caught)⟩
    | error last => exact ⟨last, Or.inr (follow_of_error repeats caught)⟩

/-- The last of the runs that can be named is not after `now`. -/
def Overruns (s : Schedule) (now : Instant) : Prop :=
  ∃ period last, s.period = some period ∧ ReflTransGen (Next period) s.nextRun last ∧
    last.le now = true ∧ last.advance? period.nanos = none

theorem follow_eq_error_iff (positive : ∀ period ∈ s.period, period.isPositive = true) :
    (∃ after, s.follow now = .error after) ↔ s.Overruns now := by
  cases repeats : s.period with
  | none => simp [follow_once repeats, Overruns, repeats]
  | some period =>
      have stops : ∀ last, catchUp now period s.nextRun = .error last ↔
          ReflTransGen (Next period) s.nextRun last ∧ last.le now = true ∧
            last.advance? period.nanos = none :=
        fun last => catchUp_eq_error_iff (positive period repeats)
      cases caught : catchUp now period s.nextRun with
      | ok next =>
          rw [follow_of_ok repeats caught]
          constructor
          · rintro ⟨after, ⟨⟩⟩
          · rintro ⟨period', last, repeats', runs⟩
            obtain rfl : period = period' := Option.some.inj (repeats.symm.trans repeats')
            have stopped := (stops last).mpr runs
            rw [caught] at stopped
            cases stopped
      | error last =>
          rw [follow_of_error repeats caught]
          constructor
          · intro _
            exact ⟨period, last, repeats, (stops last).mp caught⟩
          · intro _
            exact ⟨_, rfl⟩

/-- The first of the runs that follow `run` a period apart to lie after `now`. -/
def FirstAfter (now : Instant) (period : Duration) (run next : Instant) : Prop :=
  ∃ j : Nat, 1 ≤ j ∧ run.advance? (j * period.nanos) = some next ∧ now.lt next = true ∧
    ∀ i : Nat, 1 ≤ i → i < j →
      ∃ earlier, run.advance? (i * period.nanos) = some earlier ∧ earlier.le now = true

theorem firstAfter_unique {next' : Instant} (first : FirstAfter now period run next)
    (other : FirstAfter now period run next') : next = next' := by
  obtain ⟨j, low, reached, ahead, passed⟩ := first
  obtain ⟨j', low', reached', ahead', passed'⟩ := other
  rcases Nat.lt_trichotomy j j' with less | rfl | less
  · obtain ⟨_, same, behind⟩ := passed' j low less
    obtain rfl := Option.some.inj (reached.symm.trans same)
    simp [Instant.lt, behind] at ahead
  · exact Option.some.inj (reached.symm.trans reached')
  · obtain ⟨_, same, behind⟩ := passed j' low' less
    obtain rfl := Option.some.inj (reached'.symm.trans same)
    simp [Instant.lt, behind] at ahead'

theorem Next.advance? (positive : period.isPositive = true) (later : Next period run next)
    (i : Nat) :
    run.advance? ((i + 1 : Nat) * period.nanos) = next.advance? (i * period.nanos) := by
  have hm := Duration.isPositive_iff.mp positive
  have nonneg : 0 ≤ i * period.nanos := Int.mul_nonneg (Int.natCast_nonneg i) (Int.le_of_lt hm)
  rw [Instant.advance?_advance? later (Int.le_of_lt hm) nonneg, Int.natCast_add, Int.add_mul,
    Int.add_comm]
  simp

theorem catchUp_of_ahead (ahead : ¬run.le now = true) : catchUp now period run = .ok run := by
  rw [catchUp, dif_neg fun behind => ahead behind.1]

theorem catchUp_of_behind (behind : run.le now = true) (positive : period.isPositive = true)
    (later : Next period run next) : catchUp now period run = catchUp now period next := by
  rw [catchUp, dif_pos ⟨behind, positive⟩]
  split
  · rename_i next' later'
    obtain rfl : next' = next := Option.some.inj (later'.symm.trans later)
    rfl
  · rename_i stuck
    rw [Next, stuck] at later
    cases later

theorem firstAfter_of_catchUp (positive : period.isPositive = true) (behind : run.le now = true)
    (caught : catchUp now period run = .ok next) : FirstAfter now period run next := by
  fun_induction catchUp now period run with
  | case1 run _ onward later _ _ ih =>
      have first : run.advance? ((1 : Nat) * period.nanos) = some onward := by simpa using later
      by_cases still : onward.le now = true
      · obtain ⟨j, least, reached, ahead, passed⟩ := ih still caught
        have shift := Next.advance? positive later
        refine ⟨j + 1, by omega, (shift j).trans reached, ahead, ?_⟩
        intro i low high
        obtain ⟨i, rfl⟩ := Nat.exists_eq_add_of_le' low
        rcases i.eq_zero_or_pos with rfl | onwards
        · exact ⟨onward, first, still⟩
        · rw [shift i]
          exact passed i onwards (by omega)
      · rw [catchUp_of_ahead still] at caught
        obtain rfl := Except.ok.inj caught
        refine ⟨1, Nat.le_refl 1, first, ?_, ?_⟩
        · simpa [Instant.lt] using still
        · intro i low high
          omega
  | case2 run _ stuck => cases caught
  | case3 run ahead => exact absurd ⟨behind, positive⟩ ahead

end ViewerHost.Schedule
