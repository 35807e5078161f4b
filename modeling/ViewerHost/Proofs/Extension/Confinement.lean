import ViewerHost.Extension.FileViewer
import ViewerHost.Proofs.Files.Names

namespace ViewerHost.FileViewer

open Text ViewerHost.Path

variable {v : FileViewer} {request : Request} {tree : FileTree} {requestPath : String}

/-- The path below the root that a request asks for. -/
def asked (v : FileViewer) (requestPath : String) : String :=
  if trimSlashes requestPath = "" then v.index else trimSlashes requestPath

def askedPieces (v : FileViewer) (requestPath : String) : List String :=
  (pieces '/' (v.asked requestPath).toList).map String.ofList

def askedNames (v : FileViewer) (requestPath : String) : List String :=
  (v.askedPieces requestPath).filter fun piece => piece ≠ "" ∧ piece ≠ "."

/-- A path that goes up, or does not start from the root of the viewer. -/
def Strays (v : FileViewer) (requestPath : String) : Prop :=
  ".." ∈ v.askedPieces requestPath ∨ (v.asked requestPath).toList.head? = some '/'

theorem relative_eq : v.relative requestPath = v.asked requestPath := by
  simp [relative, asked]

theorem segments_relative :
    (⟨v.relative requestPath⟩ : Path).segments = v.askedPieces requestPath := by
  rw [segments, relative_eq, askedPieces]

theorem names_relative : (⟨v.relative requestPath⟩ : Path).names = v.askedNames requestPath := by
  rw [names, segments_relative, askedNames]
  apply List.filter_congr
  intro piece member
  simp [isFiller, Bool.beq_eq_decide_eq]

theorem strays_iff :
    v.Strays requestPath ↔
      (⟨v.relative requestPath⟩ : Path).isAbsolute = true ∨
        ".." ∈ (⟨v.relative requestPath⟩ : Path).names := by
  have climbs : ".." ∈ v.askedNames requestPath ↔ ".." ∈ v.askedPieces requestPath := by
    simp [askedNames]
  rw [names_relative, climbs, isAbsolute, beq_iff_eq, relative_eq, or_comm]
  rfl

theorem target?_of_strays (strays : v.Strays requestPath) : v.target? requestPath = none := by
  have out := strays_iff.mp strays
  rw [names] at out
  rw [target?, names?, if_pos out, Option.map_none]

theorem target?_of_inside (inside : ¬v.Strays requestPath) :
    v.target? requestPath = some ((v.askedNames requestPath).foldl child v.root) := by
  have within := mt strays_iff.mpr inside
  rw [names] at within
  rw [target?, names?, if_neg within, Option.map_some, ← names_relative, names]

theorem isPlain_of_mem (inside : ¬v.Strays requestPath) :
    ∀ name ∈ v.askedNames requestPath, IsPlain name := by
  rw [← names_relative]
  apply isPlain_of_mem_names
  intro upwards
  exact inside (strays_iff.mpr (Or.inr upwards))

/-- The response to what came of reading a file. -/
def shown (path : Path) (request : Request) : Except FileError String → Response
  | .ok body => ⟨200, contentType path, body⟩
  | .error .notFound => .notFound request.path
  | .error _ => .failure 500 "Failed to read file"

theorem status_shown (path : Path) (request : Request) (outcome : Except FileError String) :
    (shown path request outcome).status ≠ 400 := by
  cases outcome with
  | ok body => simp [shown]
  | error cause => cases cause <;> simp [shown, Response.notFound, Response.failure]

theorem respond_of_strays (strays : v.Strays request.path) :
    v.respond tree request = .failure 400 ("Invalid path: " ++ request.path) := by
  unfold respond
  rw [target?_of_strays strays]

theorem respond_of_inside (inside : ¬v.Strays request.path) :
    v.respond tree request =
      shown ((v.askedNames request.path).foldl child v.root) request
        (tree.readText ((v.askedNames request.path).foldl child v.root)) := by
  unfold respond
  rw [target?_of_inside inside]
  dsimp only
  cases tree.readText ((v.askedNames request.path).foldl child v.root) with
  | ok body => rfl
  | error cause => cases cause <;> rfl

/-- A request that goes up or starts anew is refused, whatever the files are, and no other request is
refused for its path. The answer to another one shows what reading one file comes to. The path of
the file is that of the root followed by the names that are asked for, and where it leads anywhere,
it leads down from the root by one directory for each of them. -/
theorem respond_confined (v : FileViewer) (request : Request) :
    let names := v.askedNames request.path
    let path := names.foldl child v.root
    (∀ tree, (v.respond tree request).status = 400 ↔ v.Strays request.path) ∧
    (v.Strays request.path → ∀ tree,
      v.respond tree request = .failure 400 ("Invalid path: " ++ request.path)) ∧
    (¬v.Strays request.path →
      (∀ tree, v.respond tree request = shown path request (tree.readText path)) ∧
      (∀ name ∈ names, name ≠ "" ∧ '/' ∉ name.toList ∧ name ≠ "." ∧ name ≠ "..") ∧
      path.names = v.root.names ++ names ∧ path.isAbsolute = v.root.isAbsolute ∧
      v.root.text.toList <+: path.text.toList ∧
      ∀ (tree : FileTree) place found, tree.locate v.root = .ok place →
        tree.locate path = .ok found → found = place ++ names) := by
  intro names path
  refine ⟨?_, ?_, ?_⟩
  · intro tree
    constructor
    · intro refused
      by_cases strays : v.Strays request.path
      · exact strays
      · rw [respond_of_inside strays] at refused
        exact absurd refused (status_shown _ _ _)
    · intro strays
      rw [respond_of_strays strays]
      rfl
  · intro strays tree
    exact respond_of_strays strays
  · intro inside
    have plain := isPlain_of_mem inside
    refine ⟨?_, ?_, names_foldl_child plain, isAbsolute_foldl_child plain,
      text_prefix_foldl_child plain, ?_⟩
    · intro tree
      exact respond_of_inside inside
    · intro name member
      have named := plain name member
      exact ⟨named.nonempty, named.whole, named.notHere, named.notAbove⟩
    · intro tree place found above located
      exact FileTree.locate_foldl_child plain above located

def shelf (body : String) : FileTree where
  entries := [
    (["srv"], .directory),
    (["srv", "a"], .directory),
    (["srv", "a", "..b"], .directory),
    (["srv", "a", "..b", "site.css"], .text body),
    (["secret"], .text "hidden")]
  workingDirectory := []

/-- Two dots begin a name in the first path and go up in the second. -/
theorem respond_confined_shelf :
    let v := ofRoot "docs" ⟨"/srv"⟩
    ¬v.Strays "/a/.//..b/site.css/" ∧
      v.respond (shelf "a {}") (.ofPath "/a/.//..b/site.css/") = ⟨200, "text/css", "a {}"⟩ ∧
      v.respond (shelf "b {}") (.ofPath "/a/.//..b/site.css/") = ⟨200, "text/css", "b {}"⟩ ∧
      v.Strays "a/../../secret" ∧
      ∀ tree, v.respond tree (.ofPath "a/../../secret") =
        .failure 400 "Invalid path: a/../../secret" := by
  intro v
  have inside : ¬v.Strays "/a/.//..b/site.css/" := by
    unfold Strays
    decide +kernel
  have strays : v.Strays "a/../../secret" := by
    unfold Strays
    decide +kernel
  obtain ⟨-, -, reads⟩ := respond_confined v (.ofPath "/a/.//..b/site.css/")
  obtain ⟨-, refuses, -⟩ := respond_confined v (.ofPath "a/../../secret")
  refine ⟨inside, ?_, ?_, strays, ?_⟩
  · rw [(reads inside).1]
    decide +kernel
  · rw [(reads inside).1]
    decide +kernel
  · intro tree
    rw [refuses strays]
    decide +kernel

end ViewerHost.FileViewer
