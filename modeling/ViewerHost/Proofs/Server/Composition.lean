import ViewerHost.Proofs.Plugin.Discovered
import ViewerHost.Proofs.Server.Life

namespace ViewerHost.Server

open Registry

variable {s : Server} {settings : Settings} {implementations : Implementations} {catalog : Catalog}
  {context : Context} {Kept : Context → Prop}

theorem shutDown_context (running : s.phase = .running) (composed : s.context = some context) :
    s.shutDown.server.context = some (takeDown context).1 := by
  unfold shutDown
  rw [running, composed]

theorem OnCourse.context_perform (course : OnCourse settings implementations catalog s)
    (starts : ∀ tree context,
      ((new settings implementations catalog).start tree).server.context = some context →
        Kept context)
    (closes : ∀ context, Kept context → Kept (takeDown context).1)
    (operates : ∀ context call, Kept context →
      Kept { context with subsystems := context.subsystems.perform call })
    (manages : ∀ context (change : Bridge Subsystems → Bridge Subsystems), Kept context →
      Kept { context with management := change context.management })
    (before : ∀ context, s.context = some context → Kept context) (call : ServerCall)
    (composed : (s.perform call).context = some context) : Kept context := by
  cases call with
  | start tree =>
      rw [Server.perform] at composed
      by_cases begun : s.phase = .unstarted
      · rw [course.eq_new begun] at composed
        exact starts tree context composed
      · rw [start_again begun] at composed
        exact before context composed
  | shutDown =>
      rw [Server.perform] at composed
      by_cases running : s.phase = .running
      · obtain ⟨earlier, held⟩ := course.running_context running
        rw [shutDown_context running held] at composed
        obtain rfl := Option.some.inj composed
        exact closes earlier (before earlier held)
      · rw [shutDown_idle running] at composed
        exact before context composed
  | operate call =>
      obtain ⟨earlier, held, rfl⟩ := Option.map_eq_some_iff.mp composed
      exact operates earlier call (before earlier held)
  | manage change =>
      obtain ⟨earlier, held, rfl⟩ := Option.map_eq_some_iff.mp composed
      exact manages earlier change (before earlier held)

/-- What a start establishes and the other calls keep holds of every context. -/
theorem context_after
    (starts : ∀ tree context,
      ((new settings implementations catalog).start tree).server.context = some context →
        Kept context)
    (closes : ∀ context, Kept context → Kept (takeDown context).1)
    (operates : ∀ context call, Kept context →
      Kept { context with subsystems := context.subsystems.perform call })
    (manages : ∀ context (change : Bridge Subsystems → Bridge Subsystems), Kept context →
      Kept { context with management := change context.management })
    (calls : List ServerCall)
    (composed : ((new settings implementations catalog).after calls).context = some context) :
    Kept context := by
  have none : ∀ context, (new settings implementations catalog).context = some context →
      Kept context := by
    rintro context ⟨⟩
  -- The course goes along, because only a server on its course starts from an empty context.
  have invariant := after_induction
    (motive := fun s => OnCourse settings implementations catalog s ∧
      ∀ context, s.context = some context → Kept context)
    (fun _ call kept => ⟨kept.1.perform call, fun _ =>
      kept.1.context_perform starts closes operates manages kept.2 call⟩)
    ⟨.unstarted, none⟩ calls
  exact invariant.2 context composed

/-- What some server is made of. It has no context before it runs, and keeps the one that it has. -/
def Composed (context : Context) : Prop :=
  ∃ settings implementations catalog calls,
    ((new settings implementations catalog).after calls).context = some context

theorem discovered_of_start {tree : FileTree}
    (composed : ((new settings implementations catalog).start tree).server.context = some context) :
    context.plugins.Discovered := by
  rcases start_cases settings implementations catalog tree with
    ⟨tree', cause, ran⟩ | ⟨tree', cause, -, ran⟩ | ⟨config, tree', sessions, subsystems, -, ran⟩
  · rw [ran] at composed
    cases composed
  · rw [ran] at composed
    cases composed
  · rw [ran] at composed
    obtain rfl := Option.some.inj composed
    exact .fill tree' catalog config.pluginDir .start

/-- The plugins of a server are those that a discovery has mounted beside the host's own routes. -/
theorem Composed.discovered (composed : Composed context) : context.plugins.Discovered := by
  obtain ⟨settings, implementations, catalog, calls, held⟩ := composed
  exact context_after (fun _ _ => discovered_of_start) (fun _ kept => kept) (fun _ _ kept => kept)
    (fun _ _ kept => kept) calls held

end ViewerHost.Server

/-! A server with two plugins: a hidden one that comes first, and one that shows the directory of the
server's own files. -/

namespace ViewerHost.Sample

def bundleOf (name settings : String) : List (List String × Entry) := [
  (["plugins", name], .directory),
  (["plugins", name, "conf"], .directory),
  (["plugins", name, "lib"], .directory),
  (["plugins", name, "conf", "plugin.toml"], .text settings)]

def hiddenBundle : List (List String × Entry) :=
  bundleOf "a" ("[viewer]\nname=\"a\"\npath=\"stats\"\norder=-1\nhidden=true\n" ++
    "handler.class=\"Echo\"\n")

def fileBundle : List (List String × Entry) :=
  bundleOf "b" ("[viewer]\nname=\"b\"\npath=\"docs\"\nstatic.root=\"/web\"\n" ++
    "handler.class=\"flowgate.viewer.StaticViewer\"\n")

def home : FileTree where
  entries := (["plugins"], .directory) :: hiddenBundle ++ fileBundle ++ [
    (["web"], .directory),
    (["web", "css"], .directory),
    (["web", "css", "site.css"], .text "body {}"),
    (["web", "notes.txt"], .text "draft")]
  workingDirectory := []

def homeWith (notes : String) : FileTree := home.put ["web", "notes.txt"] (.text notes)

def host : Server :=
  let settings : Settings := ⟨⟨Dictionary.empty.insert "viewer.plugin.dir" (.string "plugins"), none⟩, []⟩
  let library := Library.ofClasses "host"
    [⟨"Echo", some fun _ _ => .ok (.handler echo)⟩, FileViewer.handlerClass]
  (Server.new settings .standard (.ofHost library)).after [.start home]

theorem hosted : ∃ c, Server.Composed c ∧ c.config.webDir = ⟨"web"⟩ ∧
    c.plugins.plugins.map (fun p => (p.mountPath, p.order, p.hidden)) =
      [("stats", -1, true), ("docs", 0, false)] ∧
    ∀ notes ∈ ["draft", "final"], Route.dispatch c (homeWith notes) "/docs/notes.txt" (.ofPath "") =
      ⟨200, Response.plainText, notes⟩ := by
  have seen : host.context.map (fun c => (c.config.webDir,
      c.plugins.plugins.map fun p => (p.mountPath, p.order, p.hidden),
      ["draft", "final"].map fun notes =>
        Route.dispatch c (homeWith notes) "/docs/notes.txt" (.ofPath ""))) =
      some (⟨"web"⟩, [("stats", -1, true), ("docs", 0, false)],
        ["draft", "final"].map fun notes => ⟨200, Response.plainText, notes⟩) := by
    decide +kernel
  obtain ⟨c, composed, same⟩ := Option.map_eq_some_iff.mp seen
  obtain ⟨web, rest⟩ := Prod.mk.inj same
  obtain ⟨plugins, shown⟩ := Prod.mk.inj rest
  exact ⟨c, ⟨_, _, _, [.start home], composed⟩, web, plugins, List.map_eq_map_iff.mp shown⟩

end ViewerHost.Sample
