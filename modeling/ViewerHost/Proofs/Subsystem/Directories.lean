import ViewerHost.Proofs.Subsystem.Calls

namespace ViewerHost.Subsystems

variable {α : Type} {part : Subsystems → α} {stop : α → α} {role : Role}

/-- A part that only the shutdown of one role reaches. -/
structure ClosedBy (role : Role) (part : Subsystems → α) (stop : α → α) : Prop where
  kept : ∀ s call, call ≠ .close role → part (s.perform call) = part s
  closes : ∀ s, part (s.perform (.close role)) = stop (part s)
  still : ∀ a, stop (stop a) = stop a

namespace ClosedBy

variable {calls : List Call}

theorem perform (closedBy : ClosedBy role part stop) (s : Subsystems) (call : Call) :
    part (s.perform call) = part s ∨ part (s.perform call) = stop (part s) := by
  by_cases own : call = .close role
  · rw [own]
    exact Or.inr (closedBy.closes s)
  · exact Or.inl (closedBy.kept s call own)

theorem unclosed (closedBy : ClosedBy role part stop) (s : Subsystems)
    (never : .close role ∉ calls) : part (s.after calls) = part s := by
  induction calls generalizing s with
  | nil => rfl
  | cons call calls ih =>
      rw [List.mem_cons, not_or] at never
      calc part (s.after (call :: calls))
          = part (s.perform call) := ih (s.perform call) never.2
        _ = part s := closedBy.kept s call (Ne.symm never.1)

theorem closed (closedBy : ClosedBy role part stop) (s : Subsystems)
    (once : .close role ∈ calls) : part (s.after calls) = stop (part s) := by
  induction calls generalizing s with
  | nil => cases once
  | cons call calls ih =>
      by_cases again : .close role ∈ calls
      · have later : part (s.after (call :: calls)) = stop (part (s.perform call)) :=
          ih (s.perform call) again
        rw [later]
        by_cases own : call = .close role
        · rw [own, closedBy.closes, closedBy.still]
        · rw [closedBy.kept s call own]
      · have last : call = .close role := ((List.mem_cons.mp once).resolve_right again).symm
        calc part (s.after (call :: calls))
            = part (s.perform call) := closedBy.unclosed (s.perform call) again
          _ = stop (part s) := by rw [last, closedBy.closes]

/-- No call but a shutdown reaches further than the executor, the rules and the scheduler. -/
theorem of_close
    (apart : ∀ s : Subsystems, ∀ executor sla schedules, part { s with
      executor := { s.executor with manager := executor }
      sla := { s.sla with manager := sla }
      schedules := { s.schedules with manager := schedules } } = part s)
    (others : ∀ (s : Subsystems) role', role' ≠ role → part (s.close role').1 = part s)
    (closes : ∀ s : Subsystems, part (s.close role).1 = stop (part s))
    (still : ∀ a, stop (stop a) = stop a) : ClosedBy role part stop where
  kept s call other := by
    rcases s.perform_cases call with ⟨role', rfl⟩ | ⟨executor, sla, schedules, performed⟩
    · exact others s role' fun same => other (congrArg Call.close same)
    · rw [performed, apart]
  closes := closes
  still := still

end ClosedBy

theorem users_closedBy : ClosedBy .users (·.users.manager) (·.shutDown.1) := by
  apply ClosedBy.of_close
  case apart => exact fun _ _ _ _ => rfl
  case closes => exact fun _ => rfl
  case still => exact fun m => by cases m <;> rfl
  case others =>
    intro s role other
    cases role with
    | users => exact absurd rfl other
    | projects | executor | sla | schedules => rfl

theorem projects_closedBy : ClosedBy .projects (·.projects.manager) (·.shutDown.1) := by
  apply ClosedBy.of_close
  case apart => exact fun _ _ _ _ => rfl
  case closes => exact fun _ => rfl
  case still => exact fun m => by cases m <;> rfl
  case others =>
    intro s role other
    cases role with
    | projects => exact absurd rfl other
    | users | executor | sla | schedules => rfl

end ViewerHost.Subsystems
