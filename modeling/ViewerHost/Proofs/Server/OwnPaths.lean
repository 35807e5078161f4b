import ViewerHost.Proofs.Server.Composition
import ViewerHost.Proofs.Server.Dispatch

namespace ViewerHost.Route

open MountPath Text Registry

variable {r : Registry} {route path name rest : String} {page : Page} {c : Context}

/-! ## Names and trees -/

def pageNames : List String :=
  ["", "index", "manager", "executor", "history", "schedule", "jmx"]

def resourceTrees : List String := ["css", "js", "images"]

def IsPage (path : String) : Prop := path ∈ pageNames

def IsResource (path : String) : Prop :=
  path = "favicon.ico" ∨ ∃ tree ∈ resourceTrees, Within tree path

def IsOwn (path : String) : Prop := IsPage path ∨ IsResource path

instance (path : String) : Decidable (IsOwn path) := by
  unfold IsOwn IsPage IsResource
  infer_instance

def form (route : String) : Bool × String := ((treeOf? route).isSome, nameOf route)

def OfForm (form : Bool × String) (path : String) : Prop :=
  if form.1 then Within form.2 path else path = form.2

theorem exists_ofForm_iff {routes : List String} {forms : List (Bool × String)}
    (listed : routes.map form = forms) :
    (∃ route ∈ routes, OfForm (form route) path) ↔ ∃ entry ∈ forms, OfForm entry path := by
  simp [← listed]

theorem isPage_iff : IsPage path ↔ ∃ route ∈ pages.map (·.1), OfForm (form route) path := by
  have listed : (pages.map (·.1)).map form = pageNames.map fun name => (false, name) := by
    decide +kernel
  rw [exists_ofForm_iff listed]
  simp [OfForm, IsPage]

theorem isResource_iff : IsResource path ↔ ∃ route ∈ resources, OfForm (form route) path := by
  have listed : resources.map form =
      resourceTrees.map (fun name => (true, name)) ++ [(false, "favicon.ico")] := by
    decide +kernel
  rw [exists_ofForm_iff listed]
  simp [OfForm, IsResource, or_and_right, exists_or, or_comm]

theorem slash_append_inj : "/" ++ path = "/" ++ name ↔ path = name := by
  rw [← String.toList_inj, String.toList_append, String.toList_append, List.append_cancel_left_eq,
    String.toList_inj]

theorem within_slash_append_iff : Within ("/" ++ name) ("/" ++ path) ↔ Within name path := by
  simp only [within_iff, String.toList_append, List.append_assoc, List.append_cancel_left_eq]

theorem accepts_iff (kept : route ∈ reserved) :
    accepts route ("/" ++ path) = true ↔ OfForm (form route) path := by
  obtain ⟨-, shape, -⟩ := reserved_named route kept
  unfold accepts OfForm form
  generalize nameOf route = name at shape ⊢
  cases found : treeOf? route with
  | none =>
      rw [found, Option.getD_none] at shape
      simp only [shape, beq_iff_eq, slash_append_inj, Option.isSome_none, Bool.false_eq_true, if_false]
  | some tree =>
      rw [found, Option.getD_some] at shape
      simp only [shape, covers_iff, within_slash_append_iff, Option.isSome_some, if_true]

theorem withholds_iff (kept : route ∈ reserved) (nonempty : path ≠ "") :
    Withholds route path ↔ OfForm (form route) path := by
  obtain ⟨named, shape, -⟩ := reserved_named route kept
  have normal := named.normalize_slash_append
  unfold Withholds OfForm form
  generalize nameOf route = name at shape normal ⊢
  cases found : treeOf? route with
  | none =>
      rw [found, Option.getD_none] at shape
      simp only [shape, normal, nonempty, ne_eq, not_false_eq_true, and_true, Option.isSome_none,
        Bool.false_eq_true, if_false]
  | some tree =>
      rw [found, Option.getD_some] at shape
      simp only [shape, normal, Option.isSome_some, if_true]

/-! ## What is served -/

theorem exists_page_iff :
    (∃ page, pages.lookup (trimmed path) = some page) ↔ IsPage (trimSlashes path) := by
  rw [← Option.isSome_iff_exists, List.lookup_isSome_iff, isPage_iff]
  simp only [List.mem_map, exists_exists_and_eq_and]
  refine exists_congr fun entry => and_congr_right fun member => ?_
  have kept : entry.1 ∈ reserved := List.mem_append_left _ (List.mem_map_of_mem member)
  rw [← accepts_iff kept, accepts, pages_flat entry member]
  rfl

theorem any_resources_iff :
    (resources.any fun route => accepts route (trimmed path)) = true ↔
      IsResource (trimSlashes path) := by
  rw [List.any_eq_true, isResource_iff]
  exact exists_congr fun route => and_congr_right fun member =>
    accepts_iff (List.mem_append_right _ member)

theorem page_named : ∀ name ∈ pageNames,
    IsName name ∧ name ≠ "favicon.ico" ∧ name ∉ resourceTrees := by
  decide

theorem IsResource.not_isPage (filed : IsResource path) : ¬IsPage path := by
  intro named
  obtain ⟨whole, other, outside⟩ := page_named path named
  rcases filed with same | ⟨tree, listed, inside⟩
  · exact other same
  · rw [whole.eq_of_within inside] at listed
    exact outside listed

theorem dropSlashes_trimmed : dropSlashes (trimmed path) = trimSlashes path := by
  rw [dropSlashes, trimmed, String.toList_append, show "/".toList = ['/'] from rfl,
    List.singleton_append, List.dropWhile_cons_of_pos (by decide),
    dropWhile_of_not_opensWith (bare_trimSlashes path).1, String.ofList_toList]

theorem select_of_isPage (named : IsPage (trimSlashes path)) :
    ∃ page, select r path = .page page := by
  obtain ⟨page, found⟩ := exists_page_iff.mpr named
  refine ⟨page, ?_⟩
  rw [select, found]

theorem lookup_pages_of_not_isPage (unnamed : ¬IsPage (trimSlashes path)) :
    pages.lookup (trimmed path) = none := by
  rw [Option.eq_none_iff_forall_ne_some]
  intro page found
  exact unnamed (exists_page_iff.mp ⟨page, found⟩)

theorem select_of_isResource (filed : IsResource (trimSlashes path)) :
    select r path = .resource (trimSlashes path) := by
  rw [select, lookup_pages_of_not_isPage filed.not_isPage]
  dsimp only
  rw [if_pos (any_resources_iff.mpr filed), dropSlashes_trimmed]

theorem select_of_neither (unnamed : ¬IsPage (trimSlashes path))
    (unfiled : ¬IsResource (trimSlashes path)) : select r path = passOn r path := by
  rw [select, lookup_pages_of_not_isPage unnamed]
  dsimp only
  rw [if_neg (mt any_resources_iff.mp unfiled)]
  rfl

theorem passOn_ne_page : passOn r path ≠ .page page := by
  unfold passOn
  split <;> nofun

theorem passOn_ne_resource : passOn r path ≠ .resource rest := by
  unfold passOn
  split <;> nofun

/-- One of the host's pages answers, or its viewer of files. -/
def Serves (r : Registry) (path : String) : Prop :=
  (∃ page, select r path = .page page) ∨ ∃ file, select r path = .resource file

/-- The host serves its own names and what lies in its trees, whatever the plugins are. -/
theorem serves_iff : Serves r path ↔ IsOwn (trimSlashes path) := by
  constructor
  · rintro (⟨page, selected⟩ | ⟨file, selected⟩)
    all_goals
      -- What is neither a page nor a file goes to the plugins, who answer with neither.
      by_contra neither
      rw [IsOwn, not_or] at neither
      rw [select_of_neither neither.1 neither.2] at selected
    · exact passOn_ne_page selected
    · exact passOn_ne_resource selected
  · rintro (named | filed)
    · exact Or.inl (select_of_isPage named)
    · exact Or.inr ⟨_, select_of_isResource filed⟩

theorem select_eq_resource_iff :
    select r path = .resource rest ↔ IsResource (trimSlashes path) ∧ rest = trimSlashes path := by
  constructor
  · intro selected
    rcases serves_iff.mp (Or.inr ⟨rest, selected⟩) with named | filed
    · obtain ⟨page, other⟩ := select_of_isPage (r := r) named
      rw [selected] at other
      cases other
    · rw [select_of_isResource filed] at selected
      cases selected
      exact ⟨filed, rfl⟩
  · rintro ⟨filed, rfl⟩
    exact select_of_isResource filed

/-! ## What is withheld -/

theorem isOwn_iff : IsOwn path ↔ ∃ route ∈ reserved, OfForm (form route) path := by
  rw [IsOwn, isPage_iff, isResource_iff, reserved]
  simp only [List.mem_append, or_and_right, exists_or]

theorem withheld_iff (hosted : r.Hosted) :
    normalize path = "" ∨ r.isReserved path = true ↔ IsOwn (normalize path) := by
  rw [hosted.reserves]
  by_cases empty : normalize path = ""
  · rw [empty]
    exact iff_of_true (Or.inl rfl) (Or.inl List.mem_cons_self)
  · rw [or_iff_right empty, isOwn_iff]
    exact exists_congr fun route => and_congr_right fun kept => withholds_iff kept empty

theorem isName_of_mem_resourceTrees : ∀ tree ∈ resourceTrees, IsName tree ∧ tree ≠ "" := by
  decide

theorem IsOwn.cases (own : IsOwn path) :
    IsName path ∨ ∃ tree ∈ resourceTrees, Within tree path := by
  rcases own with named | rfl | filed
  · exact Or.inl (page_named path named).1
  · exact Or.inl (by decide)
  · exact Or.inr filed

theorem IsOwn.normalize (own : IsOwn (trimSlashes path)) : IsOwn (normalize path) := by
  rcases own.cases with named | ⟨tree, listed, inside⟩
  · rwa [normalize_of_isName_trimSlashes named]
  · obtain ⟨named, nonempty⟩ := isName_of_mem_resourceTrees tree listed
    exact Or.inr (Or.inr ⟨tree, listed, named.within_normalize_of_trimSlashes nonempty inside⟩)

theorem IsOwn.opens (own : IsOwn path) : opensWith isBlank path.toList = false := by
  rcases own.cases with named | ⟨tree, listed, inside⟩
  · exact named.2.1
  · obtain ⟨named, nonempty⟩ := isName_of_mem_resourceTrees tree listed
    obtain ⟨rest, split, -⟩ := within_iff.mp inside
    rw [split, opensWith_append (by simpa using nonempty)]
    exact named.2.1

theorem isOwn_iff_of_closes (closes : closesWith isBlank path.toList = true) :
    IsOwn path ↔ ∃ tree ∈ resourceTrees, ∃ rest, path = tree ++ "/" ++ rest := by
  constructor
  · intro own
    rcases own.cases with named | ⟨tree, listed, rfl | ⟨rest, below⟩⟩
    · rw [named.2.2] at closes
      cases closes
    · rw [(isName_of_mem_resourceTrees path listed).1.2.2] at closes
      cases closes
    · exact ⟨tree, listed, rest, below⟩
  · rintro ⟨tree, listed, rest, below⟩
    exact Or.inr (Or.inr ⟨tree, listed, Or.inr ⟨rest, below⟩⟩)

/-- The host serves what it withholds from the plugins, as long as no blank stands at an end of the
path. It serves nothing that starts with a blank, and what ends with one only below its trees. -/
theorem serves_iff_withheld (composed : Server.Composed c) (path : String) :
    Serves c.plugins path ↔
      (normalize path = "" ∨ c.plugins.isReserved path = true) ∧
        opensWith isBlank path.toList = false ∧
        (closesWith isBlank path.toList = true →
          ∃ tree ∈ ["css", "js", "images"], ∃ rest, trimSlashes path = tree ++ "/" ++ rest) := by
  rw [withheld_iff composed.discovered.hosted, serves_iff]
  constructor
  · intro own
    refine ⟨own.normalize, ?_, ?_⟩
    · rw [← Bool.not_eq_true]
      intro opens
      have opens' := opensWith_trimSlashes opens
      rw [own.opens] at opens'
      cases opens'
    · intro closes
      exact (isOwn_iff_of_closes (closesWith_trimSlashes closes)).mp own
  · rintro ⟨own, opens, below⟩
    cases closes : closesWith isBlank path.toList with
    | false => rwa [normalize_of_unblank opens closes] at own
    | true => exact (isOwn_iff_of_closes (closesWith_trimSlashes closes)).mpr (below closes)

theorem serves_iff_withheld_below_tree : ∃ c, Server.Composed c ∧
    closesWith isBlank "//css/a ".toList = true ∧ c.plugins.isReserved "//css/a " = true ∧
      Serves c.plugins "//css/a " := by
  obtain ⟨c, composed, -⟩ := Sample.hosted
  have normal : normalize "//css/a " = "css/a" := by decide +kernel
  have own : IsOwn "css/a" := Or.inr (Or.inr ⟨"css", by decide, Or.inr ⟨"a", by decide +kernel⟩⟩)
  have withheld : normalize "//css/a " = "" ∨ c.plugins.isReserved "//css/a " = true :=
    (withheld_iff composed.discovered.hosted).mpr (by rwa [normal])
  refine ⟨c, composed, by decide, ?_, (serves_iff_withheld composed _).mpr ⟨withheld, ?_, ?_⟩⟩
  · rw [normal] at withheld
    exact (or_iff_right (by decide)).mp withheld
  · decide
  · intro _
    exact ⟨"css", by decide, "a ", by decide +kernel⟩

/-- With a blank behind it, the path of a page is still withheld from the plugins, and the page does
not answer it. -/
theorem withheld_unserved : ∃ c, Server.Composed c ∧
    c.plugins.isReserved "/manager " = true ∧ ¬Serves c.plugins "/manager " := by
  obtain ⟨c, composed, -⟩ := Sample.hosted
  have normal : normalize "/manager " = "manager" := by decide +kernel
  have trimmed : trimSlashes "/manager " = "manager " := by decide +kernel
  have withheld : normalize "/manager " = "" ∨ c.plugins.isReserved "/manager " = true :=
    (withheld_iff composed.discovered.hosted).mpr (by rw [normal]; decide)
  refine ⟨c, composed, ?_, ?_⟩
  · rw [normal] at withheld
    exact (or_iff_right (by decide)).mp withheld
  · rw [serves_iff, trimmed]
    decide

end ViewerHost.Route
