import ViewerHost.Extension.Catalog
import ViewerHost.Settings.Read

namespace ViewerHost

structure FileViewer where
  name : String
  root : Path
  /-- The file shown for an empty path. -/
  index : String
deriving DecidableEq, Repr

namespace FileViewer

open Text

def libraryName : String := "viewer-static"

def className : String := "flowgate.viewer.StaticViewer"

def defaultIndex : String := "index.html"

def ofRoot (name : String) (root : Path) : FileViewer := ⟨name, root, defaultIndex⟩

def bundleDir? (s : Settings) : Option Path :=
  (s.sources.findSome? id).bind fun source => source.parent?.bind Path.parent?

def placeRoot (bundleDir? : Option Path) (root : Path) : Path :=
  match bundleDir? with
  | some dir => dir.join root
  | none => root

def ofSettings (tree : FileTree) (s : Settings) : Except ExtensionError FileViewer := do
  let name ← (s.getTextOr "viewer.name" libraryName).mapError .settings
  let root ← (s.getPathOr "viewer.static.root" "web").mapError .settings
  let root := placeRoot (bundleDir? s) root
  if tree.isDirectory root then
    let index ← (s.getTextOr "viewer.static.index" defaultIndex).mapError .settings
    .ok ⟨name, root, index⟩
  else .error (.construction ("static root " ++ root.text ++ " is not a directory"))

def relative (v : FileViewer) (requestPath : String) : String :=
  let trimmed := trimSlashes requestPath
  if trimmed.isEmpty then v.index else trimmed

def names? (v : FileViewer) (requestPath : String) : Option (List String) :=
  let path : Path := ⟨v.relative requestPath⟩
  let names := path.segments.filter fun segment => !Path.isFiller segment
  if path.isAbsolute ∨ ".." ∈ names then none else some names

def target? (v : FileViewer) (requestPath : String) : Option Path :=
  (v.names? requestPath).map fun names => names.foldl Path.child v.root

def contentType (p : Path) : String :=
  match p.extension? with
  | some "html" | some "htm" => Response.htmlText
  | some "json" => Response.jsonText
  | some "css" => "text/css"
  | some "js" => "application/javascript"
  | _ => Response.plainText

def respond (v : FileViewer) (tree : FileTree) (request : Request) : Response :=
  match v.target? request.path with
  | none => .failure 400 ("Invalid path: " ++ request.path)
  | some path =>
    match tree.readText path with
    | .ok body => ⟨200, contentType path, body⟩
    | .error .notFound => .notFound request.path
    | .error _ => .failure 500 "Failed to read file"

def handler (v : FileViewer) : Handler := ⟨v.name, v.respond⟩

def handlerClass : HandlerClass where
  name := className
  construct? := some fun tree settings =>
    (ofSettings tree settings).map fun viewer => .handler viewer.handler

def library : Library := .ofClasses libraryName [handlerClass]

end FileViewer

def Catalog.standard : Catalog := Catalog.empty.add FileViewer.library

end ViewerHost
