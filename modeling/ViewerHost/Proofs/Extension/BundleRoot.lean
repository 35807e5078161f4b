import ViewerHost.Extension.FileViewer
import ViewerHost.Proofs.Files.Parents
import ViewerHost.Proofs.Plugin.Accounts
import ViewerHost.Proofs.Settings.Precedence
import ViewerHost.Proofs.Settings.Values

/-!
Where the files of a bundle are served from. A viewer tells its bundle by the file that the nearest
sourced layer of its settings was read from; a bundle reads its settings from one file or from two,
and either leads back to it.
-/

namespace ViewerHost

open Outcome ViewerHost.Path

def FileTree.IsPlain (tree : FileTree) : Prop :=
  ∀ names entry, (names, entry) ∈ tree.entries → ∀ name ∈ names, Path.IsPlain name

theorem FileTree.text_ne_of_isDirectory {tree : FileTree} {p : Path}
    (there : tree.isDirectory p = true) : p.text ≠ "" := by
  intro empty
  simp [isDirectory, find, locate, checkPath, empty, bind, Except.bind] at there

namespace FileViewer

variable {tree : FileTree} {s : Settings} {v : FileViewer} {root : Path} {name : String}

/-! ## The root that settings name -/

theorem bundleDir?_eq {above below : List Layer} {nearest : Layer} {source : Path}
    (split : s.layers = above ++ nearest :: below)
    (unsourced : ∀ layer ∈ above, layer.source = none) (sourced : nearest.source = some source) :
    bundleDir? s = source.parent?.bind Path.parent? := by
  have passed : (above.map (·.source)).findSome? id = none := by
    simpa [List.findSome?_eq_none_iff] using unsourced
  rw [bundleDir?, Settings.sources, split, List.map_append, List.findSome?_append, passed,
    Option.none_or, List.map_cons, sourced]
  rfl

theorem placeRoot_of_relative {dir : Path} (inside : bundleDir? s = some dir) :
    placeRoot (bundleDir? s) root = dir.join root := by
  rw [inside, placeRoot]

theorem ofSettings_eq_ok_iff (given : s.getPathOr "viewer.static.root" "web" = .ok root) :
    ofSettings tree s = .ok v ↔
      s.getTextOr "viewer.name" libraryName = .ok v.name ∧
      v.root = placeRoot (bundleDir? s) root ∧ tree.isDirectory v.root = true ∧
      s.getTextOr "viewer.static.index" defaultIndex = .ok v.index := by
  simp only [ofSettings, bind_eq_ok_iff, mapError_eq_ok_iff, given, Except.ok.injEq]
  constructor
  · rintro ⟨name, named, _, rfl, made⟩
    split at made
    · rename_i there
      obtain ⟨index, indexed, made⟩ := bind_eq_ok_iff.mp made
      cases made
      exact ⟨named, rfl, there, mapError_eq_ok_iff.mp indexed⟩
    · cases made
  · rintro ⟨named, placed, there, indexed⟩
    rw [placed] at there
    refine ⟨v.name, named, root, rfl, ?_⟩
    rw [if_pos there, indexed, ← placed]
    rfl

theorem ofSettings_succeeds_iff (given : s.getPathOr "viewer.static.root" "web" = .ok root) :
    Succeeds (ofSettings tree s) ↔
      Succeeds (s.getTextOr "viewer.name" libraryName) ∧
      tree.isDirectory (placeRoot (bundleDir? s) root) = true ∧
      Succeeds (s.getTextOr "viewer.static.index" defaultIndex) := by
  constructor
  · rintro ⟨v, made⟩
    obtain ⟨named, placed, there, indexed⟩ := (ofSettings_eq_ok_iff given).mp made
    rw [placed] at there
    exact ⟨⟨v.name, named⟩, there, ⟨v.index, indexed⟩⟩
  · rintro ⟨⟨name, named⟩, there, ⟨index, indexed⟩⟩
    exact ⟨⟨name, _, index⟩, (ofSettings_eq_ok_iff given).mpr ⟨named, rfl, there, indexed⟩⟩

def missingRoot (place : Path) : ExtensionError :=
  .construction ("static root " ++ place.text ++ " is not a directory")

theorem ofSettings_of_missing (named : s.getTextOr "viewer.name" libraryName = .ok name)
    (given : s.getPathOr "viewer.static.root" "web" = .ok root)
    (missing : tree.isDirectory (placeRoot (bundleDir? s) root) = false) :
    ofSettings tree s = .error (missingRoot (placeRoot (bundleDir? s) root)) := by
  simp [ofSettings, named, given, missing, missingRoot, bind, Except.bind, Except.mapError]

end FileViewer

/-! ## The settings of a bundle -/

namespace Bundle

variable {tree : FileTree} {dir : Path} {s : Settings} {b : Bundle}

theorem dir_of_ofSettings (read : ofSettings dir s = .ok b) :
    b.dir = dir ∧ s.getText "viewer.name" = .ok b.name := by
  simp only [ofSettings, bind_eq_ok_iff] at read
  obtain ⟨name, named, path, -, handlerClass, -, order, -, hidden, -, external, -, made⟩ := read
  cases made
  exact ⟨rfl, named⟩

theorem loadSettings_of_load (loaded : load tree dir = .ok b) :
    tree.isDirectory dir = true ∧ loadSettings tree dir = .ok b.settings := by
  unfold load at loaded
  split at loaded
  · cases loaded
  · rename_i there
    obtain ⟨s, found, loaded⟩ := bind_eq_ok_iff.mp loaded
    obtain ⟨made, read, loaded⟩ := bind_eq_ok_iff.mp loaded
    split at loaded
    · cases loaded
      rw [(ofSettings_ok (mapError_eq_ok_iff.mp read)).1]
      exact ⟨by simpa using there, found⟩
    · cases loaded

theorem source_of_loadSettings (loaded : loadSettings tree dir = .ok s) :
    s.layer.source =
      some (if tree.isFile (overrideFile dir) then overrideFile dir else settingsFile dir) := by
  obtain ⟨-, loaded⟩ := loadSettings_eq_ok_iff.mp loaded
  have sources := Settings.sources_load loaded (List.cons_ne_nil _ _)
  rw [Settings.sources, Settings.layers, List.map_cons, settingsFiles] at sources
  split
  · rename_i overridden
    rw [if_pos overridden] at sources
    exact (List.cons.inj sources).1
  · rename_i alone
    rw [if_neg alone] at sources
    exact (List.cons.inj sources).1

theorem isPlain_conf : Path.IsPlain "conf" := by constructor <;> decide

theorem grandparent_of_conf {file : String} (plain : Path.IsPlain file) (there : dir.text ≠ "") :
    ((dir.child "conf").child file).parent?.bind Path.parent? = some dir.bare := by
  rw [parent?_child plain (text_child_ne_empty dir isPlain_conf), bare_child dir isPlain_conf,
    Option.bind_some, parent?_child isPlain_conf there]

theorem bundleDir?_of_load (loaded : load tree dir = .ok b) :
    FileViewer.bundleDir? b.settings = some dir.bare := by
  obtain ⟨there, found⟩ := loadSettings_of_load loaded
  have nonempty := FileTree.text_ne_of_isDirectory there
  have layers : b.settings.layers = [] ++ b.settings.layer :: b.settings.behind := rfl
  rw [FileViewer.bundleDir?_eq layers nofun (source_of_loadSettings found)]
  split
  · exact grandparent_of_conf (by constructor <;> decide) nonempty
  · exact grandparent_of_conf (by constructor <;> decide) nonempty

theorem name_of_load (loaded : load tree dir = .ok b) :
    b.settings.getTextOr "viewer.name" FileViewer.libraryName = .ok b.name := by
  have named := (dir_of_ofSettings (load_ok loaded)).2
  unfold Settings.getText Settings.require at named
  unfold Settings.getTextOr Settings.readOr
  cases found : b.settings.get? "viewer.name" with
  | none =>
      rw [found] at named
      cases named
  | some value =>
      rw [found] at named
      exact named

def ShowsFiles (tree : FileTree) (catalog : Catalog) (b : Bundle) : Prop :=
  ∃ classpath origin, b.classpath tree = .ok classpath ∧
    (Scope.ofClasspath tree catalog classpath).resolve? b.handlerClass =
      some ⟨FileViewer.handlerClass, origin⟩

end Bundle

/-! ## The plugin of a bundle -/

namespace Plugin

variable {tree : FileTree} {catalog : Catalog} {dir root : Path} {b : Bundle} {p : Plugin}
  {i : Nat} {cause : ExtensionError}

theorem load_of_viewer {v : FileViewer} (loaded : Bundle.load tree dir = .ok b)
    (shows : b.ShowsFiles tree catalog) (made : FileViewer.ofSettings tree b.settings = .ok v) :
    (load tree catalog dir i).map (·.handler) = .ok v.handler := by
  obtain ⟨classpath, origin, paths, resolved⟩ := shows
  simp [load, loaded, paths, resolved, construct, FileViewer.handlerClass, made, bind,
    Except.bind, Except.mapError, Except.map, Instance.handler?]

theorem load_of_cause (loaded : Bundle.load tree dir = .ok b) (shows : b.ShowsFiles tree catalog)
    (failed : FileViewer.ofSettings tree b.settings = .error cause) :
    load tree catalog dir i = .error (.constructionFailed b.handlerClass cause) := by
  obtain ⟨classpath, origin, paths, resolved⟩ := shows
  simp [load, loaded, paths, resolved, construct, FileViewer.handlerClass, failed, bind,
    Except.bind, Except.mapError, Except.map]

def Serves (tree : FileTree) (p : Plugin) (root : Path) : Prop :=
  ∃ v, FileViewer.ofSettings tree p.bundle.settings = .ok v ∧ p.handler = v.handler ∧ v.root = root

theorem serves_of_load (loaded : load tree catalog dir i = .ok p)
    (shows : p.bundle.ShowsFiles tree catalog)
    (given : p.bundle.settings.getPathOr "viewer.static.root" "web" = .ok root) :
    p.Serves tree (dir.bare.join root) := by
  have found := load_ok loaded
  cases made : FileViewer.ofSettings tree p.bundle.settings with
  | error cause =>
      rw [load_of_cause found shows made] at loaded
      cases loaded
  | ok v =>
      have handler := load_of_viewer (i := i) found shows made
      rw [loaded] at handler
      obtain ⟨-, placed, -⟩ := (FileViewer.ofSettings_eq_ok_iff given).mp made
      rw [FileViewer.placeRoot_of_relative (Bundle.bundleDir?_of_load found)] at placed
      exact ⟨v, made, Except.ok.inj handler, placed⟩

theorem load_of_missing (loaded : Bundle.load tree dir = .ok b)
    (shows : b.ShowsFiles tree catalog)
    (given : b.settings.getPathOr "viewer.static.root" "web" = .ok root)
    (missing : tree.isDirectory (dir.bare.join root) = false) :
    load tree catalog dir i = .error
      (.constructionFailed b.handlerClass (FileViewer.missingRoot (dir.bare.join root))) := by
  have placed : FileViewer.placeRoot (FileViewer.bundleDir? b.settings) root = dir.bare.join root :=
    FileViewer.placeRoot_of_relative (Bundle.bundleDir?_of_load loaded)
  rw [← placed] at missing ⊢
  exact load_of_cause loaded shows
    (FileViewer.ofSettings_of_missing (Bundle.name_of_load loaded) given missing)

end Plugin

/-! ## The bundles of a discovery -/

namespace Discovery

open Registry

variable {tree : FileTree} {catalog : Catalog} {top dir : Path} {r : Registry} {p : Plugin}
  {e : LoadError}

theorem bare_of_mem_candidates (plain : tree.IsPlain) (member : dir ∈ candidates tree top) :
    dir.bare = dir := by
  cases listed : tree.list top with
  | error e =>
      rw [candidates_of_error listed] at member
      cases member
  | ok names =>
      rw [candidates_of_ok listed] at member
      obtain ⟨name, named, rfl⟩ := List.mem_map.mp (List.mem_of_mem_filter member)
      obtain ⟨place, -, -, rfl⟩ := FileTree.list_eq_ok_iff.mp listed
      obtain ⟨entry, there⟩ := FileTree.mem_namesIn.mp named
      exact bare_child top (plain _ entry there name (by simp))

theorem loaded_of_mem_run (member : p ∈ (run tree catalog top r).1.plugins) :
    p ∈ r.plugins ∨ ∃ dir ∈ candidates tree top, ∃ i, Plugin.load tree catalog dir i = .ok p := by
  rw [run_eq, plugins_enrol, List.mem_append] at member
  refine member.imp_right ?_
  intro accepted
  obtain ⟨outcome, listed, isOk⟩ :=
    List.mem_filterMap.mp ((accepted_sublist r _).subset accepted)
  obtain ⟨⟨dir, i⟩, candidate, rfl⟩ := List.mem_map.mp listed
  refine ⟨dir, (List.mem_zipIdx' candidate).2 ▸ List.getElem_mem _, i, ?_⟩
  dsimp only at isOk
  cases found : Plugin.load tree catalog dir i with
  | error e =>
      rw [found] at isOk
      cases isOk
  | ok q =>
      rw [found] at isOk
      rw [Option.some.inj isOk]

theorem mem_failures_of_error (member : dir ∈ candidates tree top)
    (fails : ∀ i, Plugin.load tree catalog dir i = .error e) :
    (dir, e) ∈ (run tree catalog top r).2.failures := by
  obtain ⟨i, located⟩ := List.getElem?_of_mem member
  have judged : (r.judge (outcomes tree catalog top))[i]? = some (.error e) := by
    rw [getElem?_judge]
    simp [outcomes, located, fails, verdict, bind, Except.bind]
  rw [run_eq, failed, List.mem_filterMap]
  refine ⟨(dir, .error e), ?_, rfl⟩
  apply List.mem_of_getElem? (i := i)
  rw [List.getElem?_zip_eq_some]
  exact ⟨located, judged⟩

end Discovery

/-- However many layers without a source lie above it, the nearest sourced layer decides where a
relative root lies: two levels above its source. A viewer is made exactly if its name and its index
can be read and the root is a directory. In a bundle that is the directory of the bundle, with an
override or without; if there is no directory at the root, the bundle is not loaded, and a
discovery reports it. -/
theorem FileViewer.root_in_bundle (tree : FileTree) :
    (∀ (s : Settings) above nearest below source conf dir root,
      s.layers = above ++ nearest :: below → (∀ layer ∈ above, layer.source = none) →
      nearest.source = some source → source.parent? = some conf → conf.parent? = some dir →
      s.getPathOr "viewer.static.root" "web" = .ok root → root.isAbsolute = false →
      (∀ v, ofSettings tree s = .ok v → v.root = dir.join root) ∧
      (Succeeds (ofSettings tree s) ↔
        Succeeds (s.getTextOr "viewer.name" libraryName) ∧
        tree.isDirectory (dir.join root) = true ∧
        Succeeds (s.getTextOr "viewer.static.index" defaultIndex))) ∧
    (∀ catalog dir index,
      (∀ p root, Plugin.load tree catalog dir index = .ok p → p.bundle.ShowsFiles tree catalog →
        p.bundle.settings.getPathOr "viewer.static.root" "web" = .ok root →
        root.isAbsolute = false → p.Serves tree (dir.bare.join root)) ∧
      ∀ b root, Bundle.load tree dir = .ok b → b.ShowsFiles tree catalog →
        b.settings.getPathOr "viewer.static.root" "web" = .ok root → root.isAbsolute = false →
        tree.isDirectory (dir.bare.join root) = false →
        Plugin.load tree catalog dir index =
          .error (.constructionFailed b.handlerClass (missingRoot (dir.bare.join root)))) ∧
    (tree.IsPlain → ∀ catalog top r,
      (∀ p ∈ (Discovery.run tree catalog top r).1.plugins, p ∈ r.plugins ∨
        p.bundle.dir ∈ Discovery.candidates tree top ∧
        ∀ root, p.bundle.ShowsFiles tree catalog →
          p.bundle.settings.getPathOr "viewer.static.root" "web" = .ok root →
          root.isAbsolute = false → p.Serves tree (p.bundle.dir.join root)) ∧
      ∀ dir ∈ Discovery.candidates tree top, ∀ b root,
        Bundle.load tree dir = .ok b → b.ShowsFiles tree catalog →
        b.settings.getPathOr "viewer.static.root" "web" = .ok root → root.isAbsolute = false →
        tree.isDirectory (dir.join root) = false →
        (dir, .constructionFailed b.handlerClass (missingRoot (dir.join root))) ∈
          (Discovery.run tree catalog top r).2.failures) := by
  refine ⟨?_, ?_, ?_⟩
  · intro s above nearest below source conf dir root split unsourced sourced up upper given relative
    have inside : bundleDir? s = some dir := by
      rw [bundleDir?_eq split unsourced sourced, up, Option.bind_some, upper]
    rw [ofSettings_succeeds_iff given, placeRoot_of_relative inside]
    refine ⟨?_, Iff.rfl⟩
    intro v made
    rw [((ofSettings_eq_ok_iff given).mp made).2.1, placeRoot_of_relative inside]
  · intro catalog dir index
    refine ⟨?_, ?_⟩
    · intro p root loaded shows given relative
      exact Plugin.serves_of_load loaded shows given
    · intro b root loaded shows given relative missing
      exact Plugin.load_of_missing loaded shows given missing
  · intro plain catalog top r
    refine ⟨?_, ?_⟩
    · intro p member
      refine (Discovery.loaded_of_mem_run member).imp_right ?_
      rintro ⟨dir, candidate, i, loaded⟩
      have own : p.bundle.dir = dir :=
        (Bundle.dir_of_ofSettings (Bundle.load_ok (Plugin.load_ok loaded))).1
      rw [own]
      refine ⟨candidate, ?_⟩
      intro root shows given relative
      have served := Plugin.serves_of_load loaded shows given
      rwa [Discovery.bare_of_mem_candidates plain candidate] at served
    · intro dir candidate b root loaded shows given relative missing
      have bare := Discovery.bare_of_mem_candidates plain candidate
      apply Discovery.mem_failures_of_error candidate
      intro i
      have fails := Plugin.load_of_missing (i := i) loaded shows given (by rwa [bare])
      rwa [bare] at fails

/-! Two bundles of files, one with an override and one whose root is missing. -/

namespace Sample

def gallery : FileTree where
  entries := [
    (["plugins"], .directory),
    (["plugins", "a"], .directory),
    (["plugins", "a", "conf"], .directory),
    (["plugins", "a", "conf", "plugin.toml"], .text
      ("viewer.name = \"a\"\nviewer.path = \"a\"\n" ++
        "viewer.handler.class = \"flowgate.viewer.StaticViewer\"\n")),
    (["plugins", "a", "conf", "override.toml"], .text "viewer.static.root = \"site\"\n"),
    (["plugins", "a", "lib"], .directory),
    (["plugins", "a", "lib", "viewer-static.lib"], .binary),
    (["plugins", "a", "site"], .directory),
    (["plugins", "b"], .directory),
    (["plugins", "b", "conf"], .directory),
    (["plugins", "b", "conf", "plugin.toml"], .text
      ("viewer.name = \"b\"\nviewer.path = \"b\"\n" ++
        "viewer.handler.class = \"flowgate.viewer.StaticViewer\"\n")),
    (["plugins", "b", "lib"], .directory),
    (["plugins", "b", "lib", "viewer-static.lib"], .binary)]
  workingDirectory := []

def layered : Settings where
  layer := ⟨Dictionary.empty.insert "viewer.static.root" (.string "site"), none⟩
  behind := [⟨.empty, some ⟨"/plugins/a/conf/plugin.toml"⟩⟩]

theorem isPlain_gallery : gallery.IsPlain := by
  have names : ∀ name ∈ ["plugins", "a", "b", "conf", "lib", "site", "plugin.toml",
      "override.toml", "viewer-static.lib"], Path.IsPlain name := by
    simp only [List.forall_mem_cons, List.not_mem_nil, false_implies, implies_true, and_true]
    refine ⟨?_, ?_, ?_, ?_, ?_, ?_, ?_, ?_, ?_⟩ <;> constructor <;> decide +kernel
  have known : ∀ e ∈ gallery.entries, ∀ name ∈ e.1, name ∈ ["plugins", "a", "b", "conf", "lib",
      "site", "plugin.toml", "override.toml", "viewer-static.lib"] := by decide +kernel
  intro path entry there name member
  exact names name (known _ there name member)

theorem showsFiles_gallery {b : Bundle} (dir : String) (listed : dir ∈ ["a", "b"])
    (paths : b.classpath gallery = .ok [⟨"/plugins/" ++ dir ++ "/lib/viewer-static.lib"⟩])
    (named : b.handlerClass = FileViewer.className) : b.ShowsFiles gallery .standard := by
  refine ⟨_, some ⟨"/plugins/" ++ dir ++ "/lib/viewer-static.lib"⟩, paths, ?_⟩
  have each : ∀ dir ∈ ["a", "b"],
      gallery.pathExists ⟨"/plugins/" ++ dir ++ "/lib/viewer-static.lib"⟩ = true ∧
      Path.fileStem? ⟨"/plugins/" ++ dir ++ "/lib/viewer-static.lib"⟩ = some "viewer-static" := by
    decide +kernel
  have there := each dir listed
  have bound : Scope.bind? gallery .standard ⟨"/plugins/" ++ dir ++ "/lib/viewer-static.lib"⟩ =
      some FileViewer.library := by
    rw [Scope.bind?, if_pos there.1, there.2]
    rfl
  rw [named, Scope.ofClasspath, List.map_singleton, bound]
  rfl

end Sample

theorem FileViewer.root_in_bundle_gallery :
    (∀ v, ofSettings Sample.gallery Sample.layered = .ok v → v.root = ⟨"/plugins/a/site"⟩) ∧
    Succeeds (ofSettings Sample.gallery Sample.layered) ∧
    (∃ p ∈ (Discovery.run Sample.gallery .standard ⟨"/plugins"⟩ .empty).1.plugins,
      p.Serves Sample.gallery ⟨"/plugins/a/site"⟩) ∧
    (⟨"/plugins/b"⟩, .constructionFailed className (missingRoot ⟨"/plugins/b/web"⟩)) ∈
      (Discovery.run Sample.gallery .standard ⟨"/plugins"⟩ .empty).2.failures := by
  obtain ⟨chain, -, discovery⟩ := root_in_bundle Sample.gallery
  obtain ⟨placed, made⟩ := chain Sample.layered [Sample.layered.layer]
    ⟨.empty, some ⟨"/plugins/a/conf/plugin.toml"⟩⟩ [] ⟨"/plugins/a/conf/plugin.toml"⟩
    ⟨"/plugins/a/conf"⟩ ⟨"/plugins/a"⟩ ⟨"site"⟩ rfl (by simp [Sample.layered]) rfl
    (by decide +kernel) (by decide +kernel) (by decide +kernel) (by decide +kernel)
  obtain ⟨mounted, reported⟩ := discovery Sample.isPlain_gallery .standard ⟨"/plugins"⟩ .empty
  have site : (⟨"/plugins/a"⟩ : Path).join ⟨"site"⟩ = ⟨"/plugins/a/site"⟩ := by decide +kernel
  have web : (⟨"/plugins/b"⟩ : Path).join ⟨"web"⟩ = ⟨"/plugins/b/web"⟩ := by decide +kernel
  rw [site] at placed made
  refine ⟨placed, ?_, ?_, ?_⟩
  · exact made.mpr ⟨⟨"viewer-static", by decide +kernel⟩, by decide +kernel,
      ⟨"index.html", by decide +kernel⟩⟩
  · have read : (Discovery.run Sample.gallery .standard ⟨"/plugins"⟩ .empty).1.plugins.map
        (fun p => (p.bundle.dir, p.bundle.handlerClass, p.bundle.classpath Sample.gallery,
          p.bundle.settings.getPathOr "viewer.static.root" "web")) =
        [(⟨"/plugins/a"⟩, className, .ok [⟨"/plugins/a/lib/viewer-static.lib"⟩],
          .ok ⟨"site"⟩)] := by decide +kernel
    obtain ⟨p, member, same⟩ := List.mem_map.mp (read ▸ List.mem_singleton_self _)
    simp only [Prod.mk.injEq] at same
    obtain ⟨dir, named, paths, given⟩ := same
    have shows := Sample.showsFiles_gallery "a" (by decide) paths named
    have served := ((mounted p member).resolve_left (by simp [Registry.empty])).2 _ shows given
      (by decide +kernel)
    rw [dir, site] at served
    exact ⟨p, member, served⟩
  · have read : (Bundle.load Sample.gallery ⟨"/plugins/b"⟩).toOption.map
        (fun b => (b.handlerClass, b.classpath Sample.gallery,
          b.settings.getPathOr "viewer.static.root" "web")) =
        some (className, .ok [⟨"/plugins/b/lib/viewer-static.lib"⟩], .ok ⟨"web"⟩) := by
      decide +kernel
    obtain ⟨b, found, same⟩ := Option.map_eq_some_iff.mp read
    simp only [Prod.mk.injEq] at same
    obtain ⟨named, paths, given⟩ := same
    have loaded : Bundle.load Sample.gallery ⟨"/plugins/b"⟩ = .ok b := by
      cases outcome : Bundle.load Sample.gallery ⟨"/plugins/b"⟩ with
      | error e =>
          rw [outcome] at found
          cases found
      | ok own =>
          rw [outcome] at found
          rw [Option.some.inj found]
    have shows := Sample.showsFiles_gallery "b" (by decide) paths named
    have missing := reported ⟨"/plugins/b"⟩ (by decide +kernel) b ⟨"web"⟩ loaded shows given
      (by decide +kernel) (by decide +kernel)
    rwa [named, web] at missing

end ViewerHost
