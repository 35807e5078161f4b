import ViewerHost.Extension.Exchange
import ViewerHost.Settings.Chain
import ViewerHost.Text.Quoted

namespace ViewerHost

structure Handler where
  name : String
  handle : FileTree → Request → Response

inductive Instance where
  | handler (h : Handler)
  | other (typeName : String)

inductive ExtensionError where
  | settings (cause : SettingsError)
  | construction (reason : String)
deriving DecidableEq, Repr

abbrev Constructor := FileTree → Settings → Except ExtensionError Instance

structure HandlerClass where
  name : String
  construct? : Option Constructor

structure Library where
  name : String
  classes : Dictionary HandlerClass

structure Catalog where
  host : Library
  libraries : Dictionary Library

namespace ExtensionError

def message? : ExtensionError → Option String
  | settings cause => cause.message?.map ("Configuration error: " ++ ·)
  | construction reason => some reason

end ExtensionError

namespace Instance

def describe : Instance → String
  | handler h => "Handler(" ++ h.name ++ ")"
  | other typeName => "Other(" ++ typeName ++ ")"

def handler? : Instance → Except String Handler
  | handler h => .ok h
  | other typeName => .error typeName

end Instance

namespace HandlerClass

def describe (c : HandlerClass) : String :=
  Text.record "HandlerClass" [
    ("name", Text.quoted c.name),
    ("has_constructor", Text.truth c.construct?.isSome)]

end HandlerClass

namespace Library

def empty (name : String) : Library := ⟨name, .empty⟩

def add (l : Library) (c : HandlerClass) : Library := { l with classes := l.classes.insert c.name c }

def ofClasses (name : String) (classes : List HandlerClass) : Library :=
  classes.foldl add (empty name)

def class? (l : Library) (name : String) : Option HandlerClass := l.classes.get? name

def classNames (l : Library) : List String := l.classes.keys

end Library

namespace Catalog

def ofHost (host : Library) : Catalog := ⟨host, .empty⟩

def empty : Catalog := ofHost (.empty "host")

def add (c : Catalog) (l : Library) : Catalog :=
  { c with libraries := c.libraries.insert l.name l }

def library? (c : Catalog) (name : String) : Option Library := c.libraries.get? name

def libraryNames (c : Catalog) : List String := c.libraries.keys

end Catalog

end ViewerHost
