import ViewerHost.Plugin.Scope

namespace ViewerHost.Scope

variable {tree : FileTree} {catalog : Catalog} {classpath : List Path} {path : Path} {name : String}
  {found : ResolvedClass}

/-- A path that exists supplies the class of the library that its file stem names. -/
def Supplies (tree : FileTree) (catalog : Catalog) (name : String) (path : Path)
    (c : HandlerClass) : Prop :=
  tree.pathExists path = true ∧ ∃ stem library, path.fileStem? = some stem ∧
    catalog.library? stem = some library ∧ library.class? name = some c

theorem bind?_eq_some_iff {library : Library} :
    bind? tree catalog path = some library ↔
      tree.pathExists path = true ∧ ∃ stem, path.fileStem? = some stem ∧
        catalog.library? stem = some library := by
  unfold bind?
  split
  · rename_i there
    simp [there, Option.bind_eq_some_iff]
  · rename_i missing
    simp [missing]

theorem resolve?_entry_eq_some_iff :
    ScopeEntry.resolve? name ⟨path, bind? tree catalog path⟩ = some found ↔
      ∃ c, Supplies tree catalog name path c ∧ found = ⟨c, some path⟩ := by
  simp only [ScopeEntry.resolve?, Option.map_eq_some_iff, Option.bind_eq_some_iff,
    bind?_eq_some_iff, Supplies]
  constructor
  · rintro ⟨c, ⟨library, ⟨there, stem, named, listed⟩, has⟩, rfl⟩
    exact ⟨c, ⟨there, stem, library, named, listed, has⟩, rfl⟩
  · rintro ⟨c, ⟨there, stem, library, named, listed, has⟩, rfl⟩
    exact ⟨c, ⟨library, ⟨there, stem, named, listed⟩, has⟩, rfl⟩

theorem resolve?_entry_eq_none_iff :
    ScopeEntry.resolve? name ⟨path, bind? tree catalog path⟩ = none ↔
      ∀ c, ¬Supplies tree catalog name path c := by
  rw [Option.eq_none_iff_forall_ne_some]
  constructor
  · intro absent c supplies
    exact absent _ (resolve?_entry_eq_some_iff.mpr ⟨c, supplies, rfl⟩)
  · intro absent found same
    obtain ⟨c, supplies, -⟩ := resolve?_entry_eq_some_iff.mp same
    exact absent c supplies

def own? (tree : FileTree) (catalog : Catalog) (classpath : List Path) (name : String) :
    Option ResolvedClass :=
  classpath.findSome? fun path => ScopeEntry.resolve? name ⟨path, bind? tree catalog path⟩

theorem own?_eq_some_iff :
    own? tree catalog classpath name = some found ↔
      ∃ before path behind c, classpath = before ++ path :: behind ∧
        Supplies tree catalog name path c ∧ found = ⟨c, some path⟩ ∧
        ∀ earlier ∈ before, ∀ d, ¬Supplies tree catalog name earlier d := by
  simp only [own?, List.findSome?_eq_some_iff, resolve?_entry_eq_some_iff,
    resolve?_entry_eq_none_iff]
  constructor
  · rintro ⟨before, path, behind, split, ⟨c, supplies, same⟩, first⟩
    exact ⟨before, path, behind, c, split, supplies, same, first⟩
  · rintro ⟨before, path, behind, c, split, supplies, same, first⟩
    exact ⟨before, path, behind, split, ⟨c, supplies, same⟩, first⟩

theorem own?_eq_none_iff :
    own? tree catalog classpath name = none ↔
      ∀ path ∈ classpath, ∀ c, ¬Supplies tree catalog name path c := by
  simp only [own?, List.findSome?_eq_none_iff, resolve?_entry_eq_none_iff]

theorem resolve?_ofClasspath :
    (ofClasspath tree catalog classpath).resolve? name =
      (own? tree catalog classpath name).or
        ((catalog.host.class? name).map fun c => ⟨c, none⟩) := by
  simp only [resolve?, ofClasspath, own?, List.findSome?_map, Function.comp_def]
  cases classpath.findSome? fun path => ScopeEntry.resolve? name ⟨path, bind? tree catalog path⟩ with
  | none => rfl
  | some found => rfl

theorem resolve?_eq_some_iff {c : HandlerClass} {origin : Option Path} :
    (ofClasspath tree catalog classpath).resolve? name = some ⟨c, origin⟩ ↔
      (∃ before path behind, classpath = before ++ path :: behind ∧ origin = some path ∧
        Supplies tree catalog name path c ∧
        ∀ earlier ∈ before, ∀ d, ¬Supplies tree catalog name earlier d) ∨
      (origin = none ∧ catalog.host.class? name = some c ∧
        ∀ path ∈ classpath, ∀ d, ¬Supplies tree catalog name path d) := by
  rw [resolve?_ofClasspath, Option.or_eq_some_iff, own?_eq_some_iff, own?_eq_none_iff]
  simp only [Option.map_eq_some_iff, ResolvedClass.mk.injEq]
  constructor
  · rintro (⟨before, path, behind, d, split, supplies, ⟨rfl, rfl⟩, first⟩ |
      ⟨absent, d, host, rfl, rfl⟩)
    · exact Or.inl ⟨before, path, behind, split, rfl, supplies, first⟩
    · exact Or.inr ⟨rfl, host, absent⟩
  · rintro (⟨before, path, behind, split, rfl, supplies, first⟩ | ⟨rfl, host, absent⟩)
    · exact Or.inl ⟨before, path, behind, c, split, supplies, ⟨rfl, rfl⟩, first⟩
    · exact Or.inr ⟨absent, c, host, rfl, rfl⟩

theorem resolve?_eq_none_iff :
    (ofClasspath tree catalog classpath).resolve? name = none ↔
      (∀ path ∈ classpath, ∀ c, ¬Supplies tree catalog name path c) ∧
        catalog.host.class? name = none := by
  rw [resolve?_ofClasspath, Option.or_eq_none_iff, own?_eq_none_iff, Option.map_eq_none_iff]

/-- Catalogs with one host that have the same under the stem of every path that exists. -/
structure Agree (tree : FileTree) (classpath : List Path) (first second : Catalog) : Prop where
  host : first.host = second.host
  libraries : ∀ path ∈ classpath, tree.pathExists path = true →
    ∀ stem, path.fileStem? = some stem → first.library? stem = second.library? stem

variable {first second : Catalog}

theorem Agree.bind?_eq (agree : Agree tree classpath first second) (member : path ∈ classpath) :
    bind? tree first path = bind? tree second path := by
  unfold bind?
  split
  · rename_i there
    cases named : path.fileStem? with
    | none => rfl
    | some stem => exact agree.libraries path member there stem named
  · rfl

theorem Agree.ofClasspath_eq (agree : Agree tree classpath first second) :
    ofClasspath tree first classpath = ofClasspath tree second classpath := by
  have entries : (classpath.map fun path => (⟨path, bind? tree first path⟩ : ScopeEntry)) =
      classpath.map fun path => ⟨path, bind? tree second path⟩ := by
    apply List.map_congr_left
    intro path member
    rw [agree.bind?_eq member]
  rw [ofClasspath, ofClasspath, entries, agree.host]

/-- A class comes from the first path of the class path that exists and is named after a library
with it, else from the host, else from nowhere. So libraries that no existing path is named after
make no difference. -/
theorem resolve?_reads_own_libraries (tree : FileTree) (catalog : Catalog) (classpath : List Path)
    (name : String) :
    (∀ c origin, (ofClasspath tree catalog classpath).resolve? name = some ⟨c, origin⟩ ↔
      (∃ before path behind, classpath = before ++ path :: behind ∧ origin = some path ∧
        Supplies tree catalog name path c ∧
        ∀ earlier ∈ before, ∀ d, ¬Supplies tree catalog name earlier d) ∨
      (origin = none ∧ catalog.host.class? name = some c ∧
        ∀ path ∈ classpath, ∀ d, ¬Supplies tree catalog name path d)) ∧
    ((ofClasspath tree catalog classpath).resolve? name = none ↔
      (∀ path ∈ classpath, ∀ d, ¬Supplies tree catalog name path d) ∧
        catalog.host.class? name = none) ∧
    ∀ other, Agree tree classpath other catalog → ∀ wanted,
      (ofClasspath tree other classpath).resolve? wanted =
        (ofClasspath tree catalog classpath).resolve? wanted := by
  refine ⟨fun c origin => resolve?_eq_some_iff, resolve?_eq_none_iff, ?_⟩
  intro other agree wanted
  rw [agree.ofClasspath_eq]

end ViewerHost.Scope

/-! Archives on a class path, one of them missing, and a catalog that knows more libraries. -/

namespace ViewerHost

namespace Sample

def archives : FileTree := ⟨[(["z.jar"], .binary), (["a.lib"], .binary)], []⟩

def viewer : Library := .ofClasses "a" [⟨"Echo", none⟩]

def linked : Catalog := (Catalog.ofHost (.ofClasses "host" [⟨"Echo", none⟩])).add viewer

def crowded : Catalog := (linked.add { viewer with name := "b" }).add { viewer with name := "lib" }

def classpath : List Path := [⟨"/b.lib"⟩, ⟨"/z.jar"⟩, ⟨"/a.lib"⟩]

end Sample

namespace Scope

theorem resolve?_reads_own_libraries_crowded :
    Agree Sample.archives Sample.classpath Sample.crowded Sample.linked ∧
      ((ofClasspath Sample.archives Sample.crowded Sample.classpath).resolve? "Echo").map
        (·.origin) = some (some ⟨"/a.lib"⟩) := by
  have stems : ∀ path ∈ Sample.classpath, Sample.archives.pathExists path = true →
      path.fileStem? = some "z" ∨ path.fileStem? = some "a" := by decide +kernel
  have agree : Agree Sample.archives Sample.classpath Sample.crowded Sample.linked := by
    refine ⟨rfl, ?_⟩
    intro path member there stem named
    rcases stems path member there with other | other
    · rw [named] at other
      obtain rfl := Option.some.inj other
      rfl
    · rw [named] at other
      obtain rfl := Option.some.inj other
      rfl
  refine ⟨agree, ?_⟩
  rw [(resolve?_reads_own_libraries Sample.archives Sample.linked Sample.classpath "Echo").2.2
    Sample.crowded agree "Echo"]
  decide +kernel

end Scope

end ViewerHost
