import ViewerHost.Proofs.Extension.Confinement
import ViewerHost.Proofs.Files.Contents
import ViewerHost.Proofs.Server.OwnPaths

namespace ViewerHost.Route

open MountPath Text FileTree ViewerHost.Path

variable {c : Context} {v : FileViewer} {tree tree' : FileTree} {path name : String}
  {request : Request} {names front place : List String}

/-- Below the directory of the host's files, the names of its icon or of something in its trees. -/
def IsFiled (names : List String) : Prop :=
  names = ["favicon.ico"] ∨ ∃ tree ∈ resourceTrees, ∃ below, names = tree :: below

instance (names : List String) : Decidable (IsFiled names) :=
  decidable_of_iff (names = ["favicon.ico"] ∨ ∃ tree ∈ resourceTrees, names.head? = some tree)
    (by simp only [IsFiled, List.head?_eq_some_iff])

def IsUnfiled (place names : List String) : Prop :=
  ∃ below, below ≠ [] ∧ ¬IsFiled below ∧ names = place ++ below

theorem IsFiled.of_prefix (filed : IsFiled names) (begins : front <+: names) (nonempty : front ≠ []) :
    IsFiled front := by
  obtain ⟨back, rfl⟩ := begins
  cases front with
  | nil => exact absurd rfl nonempty
  | cons name front =>
      rcases filed with icon | ⟨tree, listed, below, same⟩
      · obtain ⟨rfl, nothing⟩ := List.cons.inj icon
        rw [(List.append_eq_nil_iff.mp nothing).1]
        exact Or.inl rfl
      · obtain ⟨rfl, -⟩ := List.cons.inj same
        exact Or.inr ⟨name, listed, front, rfl⟩

theorem IsFiled.not_isUnfiled (filed : IsFiled names) (begins : front <+: names) :
    ¬IsUnfiled place (place ++ front) := by
  rintro ⟨below, nonempty, unfiled, same⟩
  obtain rfl := List.append_cancel_left same
  exact unfiled (filed.of_prefix begins nonempty)

theorem isPlain_of_mem_resourceTrees (listed : name ∈ resourceTrees) : IsPlain name := by
  simp only [resourceTrees, List.mem_cons, List.not_mem_nil, or_false] at listed
  rcases listed with rfl | rfl | rfl <;> constructor <;> decide

theorem IsResource.isFiled (filed : IsResource path) : IsFiled (Path.names ⟨path⟩) := by
  rcases filed with rfl | ⟨tree, listed, rfl | ⟨rest, rfl⟩⟩
  · exact Or.inl (IsPlain.names_eq (by constructor <;> decide))
  · exact Or.inr ⟨path, listed, [], (isPlain_of_mem_resourceTrees listed).names_eq⟩
  · refine Or.inr ⟨tree, listed, Path.names ⟨rest⟩, ?_⟩
    rw [names_slash_append, (isPlain_of_mem_resourceTrees listed).names_eq]
    rfl

theorem isAbsolute_trimSlashes (path : String) : isAbsolute ⟨trimSlashes path⟩ = false := by
  have bare := (bare_trimSlashes path).1
  rw [isAbsolute]
  cases start : (trimSlashes path).toList with
  | nil => rfl
  | cons first rest =>
      rw [start] at bare
      simpa [beq_eq_decide] using bare

theorem asked_of_isResource (filed : IsResource (trimSlashes path)) :
    v.asked (trimSlashes path) = trimSlashes path := by
  have nonempty : trimSlashes path ≠ "" := by
    intro empty
    apply filed.not_isPage
    rw [empty]
    exact List.mem_cons_self
  rw [FileViewer.asked, trimSlashes_trimSlashes, if_neg nonempty]

theorem askedNames_of_isResource (v : FileViewer) (filed : IsResource (trimSlashes path)) :
    v.askedNames (trimSlashes path) = Path.names ⟨trimSlashes path⟩ := by
  rw [← FileViewer.names_relative, FileViewer.relative_eq, asked_of_isResource filed]

theorem strays_iff_of_isResource (v : FileViewer) (filed : IsResource (trimSlashes path)) :
    v.Strays (trimSlashes path) ↔ ".." ∈ Path.names ⟨trimSlashes path⟩ := by
  rw [FileViewer.strays_iff, FileViewer.relative_eq, asked_of_isResource filed,
    isAbsolute_trimSlashes]
  simp

theorem dispatch_of_isResource (filed : IsResource (trimSlashes path)) :
    dispatch c tree path request =
      (resourceViewer c).respond tree { request with path := trimSlashes path } := by
  rw [dispatch, select_of_isResource filed]

theorem dispatch_upwards (filed : IsResource (trimSlashes path))
    (upwards : ".." ∈ Path.names ⟨trimSlashes path⟩) :
    dispatch c tree path request = .failure 400 ("Invalid path: " ++ trimSlashes path) := by
  rw [dispatch_of_isResource filed]
  exact FileViewer.respond_of_strays ((strays_iff_of_isResource _ filed).mpr upwards)

theorem dispatch_downwards (filed : IsResource (trimSlashes path))
    (downwards : ".." ∉ Path.names ⟨trimSlashes path⟩) :
    let file := (Path.names ⟨trimSlashes path⟩).foldl child c.config.webDir
    dispatch c tree path request =
      FileViewer.shown file { request with path := trimSlashes path } (tree.readText file) := by
  have inside := mt (strays_iff_of_isResource (resourceViewer c) filed).mp downwards
  rw [dispatch_of_isResource filed, ← askedNames_of_isResource (resourceViewer c) filed]
  exact FileViewer.respond_of_inside inside

theorem dispatch_eq_of_agreeOutside (above : tree.locate c.config.webDir = .ok place)
    (agree : AgreeOutside (IsUnfiled place) tree tree')
    (handled : ∀ p rest, select c.plugins path = .plugin p rest →
      p.handler.handle tree' { request with path := rest } =
        p.handler.handle tree { request with path := rest }) :
    dispatch c tree' path request = dispatch c tree path request := by
  cases selected : select c.plugins path with
  | page page => simp only [dispatch, selected]
  | nowhere => simp only [dispatch, selected]
  | plugin p rest =>
      simp only [dispatch, selected]
      exact handled p rest selected
  | resource given =>
      obtain ⟨filed, -⟩ := select_eq_resource_iff.mp selected
      by_cases upwards : ".." ∈ Path.names ⟨trimSlashes path⟩
      · rw [dispatch_upwards filed upwards, dispatch_upwards filed upwards]
      · rw [dispatch_downwards filed upwards, dispatch_downwards filed upwards]
        have outside : ∀ front, front <+: Path.names ⟨trimSlashes path⟩ →
            ¬IsUnfiled place (place ++ front) := fun _ begins => filed.isFiled.not_isUnfiled begins
        rw [agree.readText_below (isPlain_of_mem_names upwards) above outside]

/-- What the host shows of its files. A path that is served is passed on in full, and the names in it
are those of the icon or lead into one of the trees. One that goes up is refused; any other is
answered from what reading the file comes to that the names lead to, straight down from the
directory. No other file below that directory makes a difference to any request, unless a plugin
answers it and looks at the file by itself. -/
theorem resources_confined (c : Context) (path : String) (request : Request) :
    let names := Path.names ⟨trimSlashes path⟩
    let file := names.foldl child c.config.webDir
    let passed := { request with path := trimSlashes path }
    (∀ given, select c.plugins path = .resource given ↔
      IsResource (trimSlashes path) ∧ given = trimSlashes path) ∧
    (IsResource (trimSlashes path) →
      IsFiled names ∧
      (∀ tree, dispatch c tree path request = (resourceViewer c).respond tree passed) ∧
      (".." ∈ names → ∀ tree,
        dispatch c tree path request = .failure 400 ("Invalid path: " ++ trimSlashes path)) ∧
      (".." ∉ names →
        (∀ name ∈ names, IsPlain name) ∧
        (∀ tree, dispatch c tree path request =
          FileViewer.shown file passed (tree.readText file)) ∧
        ∀ (tree : FileTree) place found, tree.locate c.config.webDir = .ok place →
          tree.locate file = .ok found → found = place ++ names)) ∧
    ∀ tree tree' place, tree.locate c.config.webDir = .ok place →
      AgreeOutside (IsUnfiled place) tree tree' →
      (∀ p rest, select c.plugins path = .plugin p rest →
        p.handler.handle tree' { request with path := rest } =
          p.handler.handle tree { request with path := rest }) →
      dispatch c tree' path request = dispatch c tree path request := by
  intro names file passed
  refine ⟨fun _ => select_eq_resource_iff, ?_, ?_⟩
  · intro filed
    refine ⟨filed.isFiled, ?_, ?_, ?_⟩
    · intro tree
      exact dispatch_of_isResource filed
    · intro upwards tree
      exact dispatch_upwards filed upwards
    · intro downwards
      have plain := isPlain_of_mem_names downwards
      refine ⟨plain, ?_, ?_⟩
      · intro tree
        exact dispatch_downwards filed downwards
      · intro tree place found above located
        exact locate_foldl_child plain above located
  · intro tree tree' place above agree handled
    exact dispatch_eq_of_agreeOutside above agree handled

theorem isUnfiled_notes : IsUnfiled ["web"] ["web", "notes.txt"] :=
  ⟨["notes.txt"], by decide, by decide, rfl⟩

theorem resources_confined_css : ∃ c, Server.Composed c ∧
    select c.plugins "//css//./site.css/" = .resource "css//./site.css" ∧
    dispatch c Sample.home "//css//./site.css/" (.ofPath "") = ⟨200, "text/css", "body {}"⟩ ∧
    dispatch c (Sample.homeWith "final") "//css//./site.css/" (.ofPath "") =
      ⟨200, "text/css", "body {}"⟩ := by
  obtain ⟨c, composed, web, -⟩ := Sample.hosted
  have above : Sample.home.locate c.config.webDir = .ok ["web"] := by
    rw [web]
    decide +kernel
  have trimmed : trimSlashes "//css//./site.css/" = "css//./site.css" := by decide +kernel
  have filed : IsResource (trimSlashes "//css//./site.css/") := by
    rw [trimmed]
    exact Or.inr ⟨"css", by decide, Or.inr ⟨"/./site.css", by decide +kernel⟩⟩
  obtain ⟨chosen, served, same⟩ := resources_confined c "//css//./site.css/" (.ofPath "")
  have selected : select c.plugins "//css//./site.css/" = .resource "css//./site.css" :=
    (chosen _).mpr ⟨filed, trimmed.symm⟩
  obtain ⟨-, -, -, downwards⟩ := served filed
  obtain ⟨-, answered, -⟩ := downwards (by decide +kernel)
  have shown : dispatch c Sample.home "//css//./site.css/" (.ofPath "") =
      ⟨200, "text/css", "body {}"⟩ := by
    rw [answered, web]
    decide +kernel
  have unseen : AgreeOutside (IsUnfiled ["web"]) Sample.home (Sample.homeWith "final") :=
    agreeOutside_put (by decide +kernel) isUnfiled_notes
  refine ⟨c, composed, selected, shown, (same _ _ _ above unseen ?_).trans shown⟩
  intro p rest passed
  rw [selected] at passed
  cases passed

/-- A plugin may have its root anywhere, and one with the directory of the host as its root shows
every file in it. -/
theorem unfiled_shown : ∃ c, Server.Composed c ∧
    Sample.home.locate c.config.webDir = .ok ["web"] ∧ IsUnfiled ["web"] ["web", "notes.txt"] ∧
    ∀ notes ∈ ["draft", "final"],
      dispatch c (Sample.homeWith notes) "/docs/notes.txt" (.ofPath "") =
        ⟨200, Response.plainText, notes⟩ := by
  obtain ⟨c, composed, web, -, shown⟩ := Sample.hosted
  refine ⟨c, composed, ?_, isUnfiled_notes, shown⟩
  rw [web]
  decide +kernel

end ViewerHost.Route
