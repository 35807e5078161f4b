import ViewerHost.Proofs.Settings.Values
import ViewerHost.Proofs.Subsystem.Assembly
import ViewerHost.Proofs.Subsystem.Users
import ViewerHost.Proofs.Toml.Words

namespace ViewerHost

open Outcome

variable {s : Settings}

theorem Executor.ofSettings_succeeds_iff :
    Succeeds (ofSettings s) ↔ s.Admits limitKey Toml.IsPositive := by
  apply Settings.succeeds_checked_iff
  · intro i
    rw [succeeds_refuse_iff, and_iff_left (succeeds_ok _)]
    omega
  · decide

theorem Sla.ofSettings_succeeds_iff :
    Succeeds (ofSettings s) ↔ s.Admits intervalKey Toml.IsPositive := by
  apply Settings.succeeds_checked_iff
  · intro i
    rw [succeeds_refuse_iff, and_iff_left (succeeds_ok _)]
    omega
  · decide

theorem ProjectStore.ofSettings_succeeds_iff :
    Succeeds (ofSettings s) ↔
      s.Admits "project.names" fun value => ∃ names, value.Lists names := by
  rw [ofSettings, succeeds_map_iff, succeeds_mapError_iff, ← Settings.exists_yields]
  exact exists_congr fun _ => Settings.getList_eq_ok_iff

namespace Assembly

variable {α β : Type} {role : Role} {only : β} {make : β → Except SubsystemError α}

theorem yields_defaultTag_iff :
    s.Yields role.key Toml.Reads role.defaultTag role.defaultTag ↔
      s.Admits role.key (· = .string role.defaultTag) := by
  have word : ¬ Text.IsNumeric role.defaultTag := by cases role <;> decide
  have notTruth : role.defaultTag ≠ "true" ∧ role.defaultTag ≠ "false" := by cases role <;> decide
  unfold Settings.Yields Settings.Admits
  cases s.get? role.key with
  | none => simp
  | some value => simpa using Toml.reads_word_iff word notTruth

theorem select_own_iff {selected : String × β} :
    select s role (Dictionary.empty.insert role.defaultTag only) = .ok selected ↔
      s.Admits role.key (· = .string role.defaultTag) ∧ selected = (role.defaultTag, only) := by
  rw [← yields_defaultTag_iff, ← Settings.getTextOr_eq_ok_iff, select, bind_eq_ok_iff]
  simp only [mapError_eq_ok_iff, Dictionary.get?_insert, Dictionary.get?_empty]
  constructor
  · rintro ⟨tag, read, found⟩
    by_cases own : tag = role.defaultTag
    · rw [own] at read found
      rw [if_pos rfl] at found
      exact ⟨read, (Except.ok.inj found).symm⟩
    · rw [if_neg own] at found
      cases found
  · rintro ⟨read, rfl⟩
    exact ⟨role.defaultTag, read, by rw [if_pos rfl]⟩

theorem install_own_succeeds_iff :
    Succeeds (install s role (Dictionary.empty.insert role.defaultTag only) make) ↔
      s.Admits role.key (· = .string role.defaultTag) ∧ Succeeds (make only) := by
  rw [install, succeeds_bind_iff]
  simp only [select_own_iff]
  constructor
  · rintro ⟨selected, ⟨chosen, rfl⟩, installed⟩
    refine ⟨chosen, ?_⟩
    dsimp only at installed
    cases made : make only with
    | ok manager => exact succeeds_ok manager
    | error cause =>
        rw [made] at installed
        exact absurd installed (not_succeeds_error _)
  · rintro ⟨chosen, manager, made⟩
    refine ⟨_, ⟨chosen, rfl⟩, ?_⟩
    dsimp only
    rw [made]
    exact succeeds_ok _

theorem run_standard_succeeds_iff :
    Succeeds (run .standard s).product ↔
      (∀ role : Role, s.Admits role.key (· = .string role.defaultTag)) ∧
      Succeeds (UserStore.ofSettings s) ∧ Succeeds (ProjectStore.ofSettings s) ∧
      Succeeds (Executor.ofSettings s) ∧ Succeeds (Sla.ofSettings s) := by
  let standard := Implementations.standard
  have forUsers : Succeeds (install s .users standard.users fun make => make s) ↔ _ :=
    install_own_succeeds_iff
  have forProjects : Succeeds (install s .projects standard.projects fun make => make s) ↔ _ :=
    install_own_succeeds_iff
  have forExecutor : Succeeds (install s .executor standard.executor fun make => make s) ↔ _ :=
    install_own_succeeds_iff
  have forSla (executor : ExecutorManager) :
      Succeeds (install s .sla standard.sla fun make => make s executor) ↔ _ :=
    install_own_succeeds_iff
  have forSchedules (needs : ScheduleNeeds) :
      Succeeds (install s .schedules standard.schedules fun make => make s needs) ↔ _ :=
    install_own_succeeds_iff
  simp only [succeeds_map_iff] at forUsers forProjects forExecutor forSla
  constructor
  · rintro ⟨built, run⟩
    obtain ⟨users, projects, executor, sla, schedules⟩ := run_eq_ok_iff.mp run
    obtain ⟨usersTag, users⟩ := forUsers.mp ⟨_, users⟩
    obtain ⟨projectsTag, projects⟩ := forProjects.mp ⟨_, projects⟩
    obtain ⟨executorTag, executor⟩ := forExecutor.mp ⟨_, executor⟩
    obtain ⟨slaTag, sla⟩ := (forSla _).mp ⟨_, sla⟩
    obtain ⟨schedulesTag, -⟩ := (forSchedules _).mp ⟨_, schedules⟩
    refine ⟨?_, users, projects, executor, sla⟩
    intro role
    cases role with
    | users => exact usersTag
    | projects => exact projectsTag
    | executor => exact executorTag
    | sla => exact slaTag
    | schedules => exact schedulesTag
  · rintro ⟨tags, users, projects, executor, sla⟩
    obtain ⟨users, madeUsers⟩ := forUsers.mpr ⟨tags .users, users⟩
    obtain ⟨projects, madeProjects⟩ := forProjects.mpr ⟨tags .projects, projects⟩
    obtain ⟨executor, madeExecutor⟩ := forExecutor.mpr ⟨tags .executor, executor⟩
    obtain ⟨sla, madeSla⟩ := (forSla executor.manager).mpr ⟨tags .sla, sla⟩
    obtain ⟨schedules, madeSchedules⟩ :=
      (forSchedules ⟨executor.manager, projects.manager, sla.manager⟩).mpr
        ⟨tags .schedules, succeeds_ok _⟩
    exact ⟨⟨users, projects, executor, sla, schedules⟩,
      run_eq_ok_iff.mpr ⟨madeUsers, madeProjects, madeExecutor, madeSla, madeSchedules⟩⟩

end Assembly

end ViewerHost
