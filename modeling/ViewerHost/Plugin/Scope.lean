import ViewerHost.Extension.Catalog

namespace ViewerHost

structure ScopeEntry where
  path : Path
  library? : Option Library

structure Scope where
  entries : List ScopeEntry
  host : Library

structure ResolvedClass where
  handlerClass : HandlerClass
  origin : Option Path

namespace Scope

def bind? (tree : FileTree) (catalog : Catalog) (path : Path) : Option Library :=
  if tree.pathExists path then path.fileStem?.bind catalog.library? else none

def ofClasspath (tree : FileTree) (catalog : Catalog) (classpath : List Path) : Scope where
  entries := classpath.map fun path => ⟨path, bind? tree catalog path⟩
  host := catalog.host

def ScopeEntry.resolve? (name : String) (entry : ScopeEntry) : Option ResolvedClass :=
  (entry.library?.bind fun library => library.class? name).map fun c => ⟨c, some entry.path⟩

/-- The class of the first entry that has it, else that of the host. -/
def resolve? (s : Scope) (name : String) : Option ResolvedClass :=
  match s.entries.findSome? (ScopeEntry.resolve? name) with
  | some resolved => some resolved
  | none => (s.host.class? name).map fun c => ⟨c, none⟩

def libraryNames (s : Scope) : List String :=
  s.entries.filterMap fun entry => entry.library?.map (·.name)

end Scope

end ViewerHost
