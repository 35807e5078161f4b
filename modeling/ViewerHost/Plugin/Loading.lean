import ViewerHost.Plugin.Bundle
import ViewerHost.Plugin.Scope

namespace ViewerHost

structure Plugin where
  bundle : Bundle
  handler : Handler
  scope : Scope
  /-- The path that supplied the handler's class; none for a class of the host. -/
  origin : Option Path
  index : Nat

namespace Plugin

def name (p : Plugin) : String := p.bundle.name

def mountPath (p : Plugin) : String := p.bundle.mountPath

def order (p : Plugin) : Int := p.bundle.order

def hidden (p : Plugin) : Bool := p.bundle.hidden

def route (p : Plugin) : String := "/" ++ p.mountPath ++ "/*"

def describe (p : Plugin) : String :=
  Text.record "LoadedPlugin" [
    ("name", Text.quoted p.name),
    ("mount_path", Text.quoted p.mountPath),
    ("order", toString p.order),
    ("hidden", Text.truth p.hidden),
    ("handler", Text.quoted p.handler.name),
    ("origin", Text.optional (fun path => Text.quoted path.text) p.origin),
    ("discovery_index", toString p.index)]

def construct (tree : FileTree) (bundle : Bundle) (c : HandlerClass) : Except LoadError Handler :=
  match c.construct? with
  | none => .error (.constructorNotFound bundle.handlerClass)
  | some make =>
    match make tree bundle.settings with
    | .error cause => .error (.constructionFailed bundle.handlerClass cause)
    | .ok product => product.handler?.mapError (.notAHandler bundle.handlerClass)

def load (tree : FileTree) (catalog : Catalog) (dir : Path) (index : Nat) :
    Except LoadError Plugin := do
  let bundle ← Bundle.load tree dir
  let classpath ← (bundle.classpath tree).mapError .unreadable
  let scope := Scope.ofClasspath tree catalog classpath
  match scope.resolve? bundle.handlerClass with
  | none => .error (.classNotFound bundle.handlerClass dir)
  | some resolved =>
    let handler ← construct tree bundle resolved.handlerClass
    .ok ⟨bundle, handler, scope, resolved.origin, index⟩

end Plugin

end ViewerHost
