import ViewerHost.Proofs.Outcome
import ViewerHost.Subsystem.Assembly

namespace ViewerHost

open Outcome

variable {settings : Settings} {s : Subsystems}

namespace Executor

theorem ofSettings_ok {e : Executor} (read : ofSettings settings = .ok e) :
    ∃ limit, 0 < limit ∧ e = ofLimit limit := by
  obtain ⟨limit, -, checked⟩ := bind_eq_ok_iff.mp read
  split at checked
  · cases checked
  · rename_i positive
    cases checked
    exact ⟨limit.toNat, by omega, rfl⟩

end Executor

namespace Assembly

theorem install_ok {α β : Type} {role : Role} {known : Dictionary β}
    {make : β → Except SubsystemError α} {installed : Installed α}
    (built : install settings role known make = .ok installed) :
    ∃ tag chosen, known.get? tag = some chosen ∧ make chosen = .ok installed.manager := by
  obtain ⟨⟨tag, chosen⟩, selected, made⟩ := bind_eq_ok_iff.mp built
  obtain ⟨tag', -, found⟩ := bind_eq_ok_iff.mp selected
  refine ⟨tag', chosen, ?_, ?_⟩
  · split at found
    · rename_i known'
      cases found
      exact known'
    · cases found
  · dsimp only at made
    split at made
    · rename_i product
      cases made
      exact product
    · cases made

theorem install_only {α β : Type} {role : Role} {tag : String} {only : β}
    {make : β → Except SubsystemError α} {installed : Installed α}
    (built : install settings role (Dictionary.empty.insert tag only) make = .ok installed) :
    make only = .ok installed.manager := by
  obtain ⟨tag', chosen, found, made⟩ := install_ok built
  rw [Dictionary.get?_insert, Dictionary.get?_empty] at found
  split at found
  · cases found
    exact made
  · cases found

structure Fresh (settings : Settings) (s : Subsystems) : Prop where
  users : ∃ store, UserStore.ofSettings settings = .ok store ∧ s.users.manager = .memory store
  projects : ∃ store, ProjectStore.ofSettings settings = .ok store ∧
    s.projects.manager = .memory store
  executor : ∃ e, Executor.ofSettings settings = .ok e ∧ s.executor.manager = .own e
  sla : ∃ sla, Sla.ofSettings settings = .ok sla ∧ s.sla.manager = .basic sla
  schedules : s.schedules.manager = .basic .empty

theorem run_eq_ok_iff {i : Implementations} :
    (run i settings).product = .ok s ↔
      install settings .users i.users (fun make => make settings) = .ok s.users ∧
      install settings .projects i.projects (fun make => make settings) = .ok s.projects ∧
      install settings .executor i.executor (fun make => make settings) = .ok s.executor ∧
      install settings .sla i.sla (fun make => make settings s.executor.manager) = .ok s.sla ∧
      install settings .schedules i.schedules
        (fun make => make settings ⟨s.executor.manager, s.projects.manager, s.sla.manager⟩) =
          .ok s.schedules := by
  constructor
  · intro built
    unfold run at built
    split at built
    · simp only [abandon, reduceCtorEq] at built
    rename_i users madeUsers
    split at built
    · simp only [abandon, reduceCtorEq] at built
    rename_i projects madeProjects
    split at built
    · simp only [abandon, reduceCtorEq] at built
    rename_i executor madeExecutor
    split at built
    · simp only [abandon, reduceCtorEq] at built
    rename_i sla madeSla
    split at built
    · simp only [abandon, reduceCtorEq] at built
    rename_i schedules madeSchedules
    obtain rfl := Except.ok.inj built
    exact ⟨madeUsers, madeProjects, madeExecutor, madeSla, madeSchedules⟩
  · rintro ⟨madeUsers, madeProjects, madeExecutor, madeSla, madeSchedules⟩
    simp only [run, madeUsers, madeProjects, madeExecutor, madeSla, madeSchedules]

theorem fresh_of_run (built : (run .standard settings).product = .ok s) : Fresh settings s := by
  obtain ⟨madeUsers, madeProjects, madeExecutor, madeSla, madeSchedules⟩ := run_eq_ok_iff.mp built
  have ofUsers := install_only madeUsers
  have ofProjects := install_only madeProjects
  have ofExecutor := install_only madeExecutor
  have ofSla := install_only madeSla
  have ofSchedules := install_only madeSchedules
  obtain ⟨userStore, readUsers, sameUsers⟩ := map_eq_ok_iff.mp ofUsers
  obtain ⟨projectStore, readProjects, sameProjects⟩ := map_eq_ok_iff.mp ofProjects
  obtain ⟨own, readExecutor, sameExecutor⟩ := map_eq_ok_iff.mp ofExecutor
  obtain ⟨basic, readSla, sameSla⟩ := map_eq_ok_iff.mp ofSla
  exact ⟨⟨userStore, readUsers, sameUsers.symm⟩, ⟨projectStore, readProjects, sameProjects.symm⟩,
    ⟨own, readExecutor, sameExecutor.symm⟩, ⟨basic, readSla, sameSla.symm⟩,
    (Except.ok.inj ofSchedules).symm⟩

end Assembly

end ViewerHost
