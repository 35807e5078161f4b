import ViewerHost.Files.Path
import ViewerHost.Text.Dictionary

namespace ViewerHost

inductive Entry where
  | directory
  | text (content : String)
  | binary
deriving DecidableEq, Repr

inductive FileError where
  | notFound
  | alreadyExists
  | notDirectory
  | isDirectory
  | nameTooLong
  | nulInName
  | notText
deriving DecidableEq, Repr

namespace FileError

def message : FileError → String
  | notFound => "No such file or directory (os error 2)"
  | alreadyExists => "File exists (os error 17)"
  | notDirectory => "Not a directory (os error 20)"
  | isDirectory => "Is a directory (os error 21)"
  | nameTooLong => "File name too long (os error 36)"
  | nulInName => "file name contained an unexpected NUL byte"
  | notText => "stream did not contain valid UTF-8"

end FileError

structure FileTree where
  entries : List (List String × Entry)
  workingDirectory : List String

namespace FileTree

def longestName : Nat := 255

def longestPath : Nat := 4095

def entry? (tree : FileTree) : List String → Option Entry
  | [] => some .directory
  | names => tree.entries.lookup names

def walk (tree : FileTree) (place : List String) : List String → Except FileError (List String)
  | [] => .ok place
  | segment :: rest =>
    if tree.entry? place ≠ some .directory then .error .notDirectory
    else if Path.isFiller segment then tree.walk place rest
    else if segment = ".." then tree.walk place.dropLast rest
    else if longestName < segment.utf8ByteSize then .error .nameTooLong
    else if (tree.entry? (place ++ [segment])).isNone then .error .notFound
    else tree.walk (place ++ [segment]) rest

def checkPath (p : Path) : Except FileError Unit :=
  if p.text.toList.contains '\x00' then .error .nulInName
  else if longestPath < p.text.utf8ByteSize then .error .nameTooLong
  else if p.text.isEmpty then .error .notFound
  else .ok ()

def start (tree : FileTree) (p : Path) : List String :=
  if p.isAbsolute then [] else tree.workingDirectory

def locate (tree : FileTree) (p : Path) : Except FileError (List String) := do
  checkPath p
  tree.walk (tree.start p) p.segments

def find (tree : FileTree) (p : Path) : Except FileError Entry := do
  let names ← tree.locate p
  match tree.entry? names with
  | some entry => .ok entry
  | none => .error .notFound

def pathExists (tree : FileTree) (p : Path) : Bool :=
  match tree.find p with
  | .ok _ => true
  | .error _ => false

def isDirectory (tree : FileTree) (p : Path) : Bool :=
  match tree.find p with
  | .ok .directory => true
  | _ => false

def isFile (tree : FileTree) (p : Path) : Bool :=
  match tree.find p with
  | .ok (.text _) | .ok .binary => true
  | _ => false

def readText (tree : FileTree) (p : Path) : Except FileError String := do
  match ← tree.find p with
  | .directory => .error .isDirectory
  | .binary => .error .notText
  | .text content => .ok content

def namesIn (tree : FileTree) (place : List String) : List String :=
  (Dictionary.ofList (tree.entries.filterMap fun (names, _) =>
    if names.dropLast = place then names.getLast?.map (·, ()) else none)).keys

def list (tree : FileTree) (p : Path) : Except FileError (List String) := do
  let names ← tree.locate p
  if tree.entry? names = some .directory then .ok (tree.namesIn names) else .error .notDirectory

def put (tree : FileTree) (names : List String) (entry : Entry) : FileTree :=
  { tree with entries := tree.entries.filter (fun e => e.1 != names) ++ [(names, entry)] }

def placeFor (tree : FileTree) (p : Path) : Except FileError (List String × String) := do
  checkPath p
  -- Slashes at the end do not count.
  match p.segments.reverse.dropWhile (· == "") with
  | [] => .error .alreadyExists
  | name :: before =>
    let place ← tree.walk (tree.start p) before.reverse
    if tree.entry? place ≠ some .directory then .error .notDirectory
    else if Path.isFiller name ∨ name = ".." then .error .alreadyExists
    else if longestName < name.utf8ByteSize then .error .nameTooLong
    else .ok (place, name)

def makeDirectory (tree : FileTree) (p : Path) : Except FileError FileTree := do
  let (place, name) ← tree.placeFor p
  if (tree.entry? (place ++ [name])).isSome then .error .alreadyExists
  else .ok (tree.put (place ++ [name]) .directory)

def makeChain (tree : FileTree) : List Path → Except FileError FileTree
  | [] => .ok tree
  | p :: parents =>
    if p.text = "" ∨ parents = [] then .ok tree
    else
      let settle (tree : FileTree) (e : FileError) : Except FileError FileTree :=
        if e = .alreadyExists ∧ tree.isDirectory p then .ok tree else .error e
      match tree.makeDirectory p with
      | .ok made => .ok made
      | .error .notFound =>
        match tree.makeChain parents with
        | .error e => .error e
        | .ok made =>
          match made.makeDirectory p with
          | .ok made => .ok made
          | .error e => settle made e
      | .error e => settle tree e

def makeDirectories (tree : FileTree) (p : Path) : Except FileError FileTree :=
  tree.makeChain (p :: p.parents)

def write (tree : FileTree) (p : Path) (entry : Entry) : Except FileError FileTree := do
  let (place, name) ← tree.placeFor p
  .ok (tree.put (place ++ [name]) entry)

end FileTree

end ViewerHost
