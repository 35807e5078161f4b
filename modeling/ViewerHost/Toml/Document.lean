import ViewerHost.Toml.Value

/-!
A document while it is read: tables remember how they came about, which decides who may still add
to them.
-/

namespace ViewerHost.Toml

/-- A table has a header of its own, or is only implied by the header of a table inside it, or
comes from a dotted key. -/
inductive Origin where
  | header
  | implied
  | dotted
deriving DecidableEq, Repr

inductive Node where
  | value (v : Toml)
  | table (origin : Origin) (entries : List (String × Node))
  | tables (items : List (List (String × Node)))
deriving Repr

abbrev Entries := List (String × Node)

namespace Node

mutual

def toToml : Node → Toml
  | value v => v
  | table _ entries => .table (toTomls entries)
  | tables items => .array (toTables items)

def toTomls : List (String × Node) → List (String × Toml)
  | [] => []
  | (key, node) :: rest => (key, toToml node) :: toTomls rest

def toTables : List (List (String × Node)) → List Toml
  | [] => []
  | entries :: rest => .table (toTomls entries) :: toTables rest

end

end Node

namespace Entries

def put (key : String) (node : Node) : Entries → Entries
  | [] => [(key, node)]
  | (k, n) :: rest => if k = key then (key, node) :: rest else (k, n) :: put key node rest

def remove (key : String) (entries : Entries) : Entries := entries.filter fun (k, _) => k != key

/-- Walks down a path and lets `act` change the table at its end. Missing tables are made on the
way. A dotted key may only pass through tables without a header of their own; a header may pass
through any table, and through an array of tables into its last one. -/
def descend (dotted : Bool) (act : Origin → Entries → Option (Entries × α)) :
    List String → Origin → Entries → Option (Entries × α)
  | [], origin, entries => act origin entries
  | key :: path, _, entries =>
    match entries.lookup key with
    | none => do
      let (child, a) ← descend dotted act path (if dotted then .dotted else .implied) []
      some (put key (.table (if dotted then .dotted else .implied) child) entries, a)
    | some (.value _) => none
    | some (.table origin inner) =>
      if dotted ∧ origin = .header then none
      else do
        let (child, a) ← descend dotted act path origin inner
        some (put key (.table origin child) entries, a)
    | some (.tables items) =>
      match items.getLast? with
      | none => none
      | some last => do
        let (child, a) ← descend dotted act path .header last
        some (put key (.tables (items.dropLast ++ [child])) entries, a)

/-- Adds the value of a dotted key. The table it lands in must come from dotted keys as well,
unless the key has one part. -/
def addValue (path : List String) (value : Toml) (entries : Entries) : Option Entries :=
  match path.getLast? with
  | none => none
  | some key =>
    let act (origin : Origin) (table : Entries) : Option (Entries × Unit) :=
      if origin = .dotted ↔ path.length = 1 then none
      else if (table.lookup key).isSome then none
      else some (table ++ [(key, .value value)], ())
    (descend true act path.dropLast .header entries).map (·.1)

end Entries

structure Document where
  root : Entries
  path : List String
  isArray : Bool
  current : Entries

namespace Document

def empty : Document := ⟨[], [], false, []⟩

def add (doc : Document) (path : List String) (value : Toml) : Option Document :=
  (doc.current.addValue path value).map fun entries => { doc with current := entries }

def close (doc : Document) : Option Entries :=
  match doc.path.getLast? with
  | none => some doc.current
  | some key =>
    let act (_ : Origin) (table : Entries) : Option (Entries × Unit) :=
      if doc.isArray then
        match table.lookup key with
        | none => some (table.put key (.tables [doc.current]), ())
        | some (.tables items) => some (table.put key (.tables (items ++ [doc.current])), ())
        | some _ => none
      else
        match table.lookup key with
        | none | some (.table .implied _) => some (table.put key (.table .header doc.current), ())
        | some _ => none
    (Entries.descend false act doc.path.dropLast .header doc.root).map (·.1)

/-- Starts a table. One that was only implied keeps its inner tables. -/
def openTable (doc : Document) (path : List String) : Option Document := do
  let root ← doc.close
  let key ← path.getLast?
  let act (_ : Origin) (table : Entries) : Option (Entries × Entries) :=
    match table.lookup key with
    | none => some (table, [])
    | some (.table .implied inner) => some (table.remove key, inner)
    | some _ => none
  let (root, inner) ← Entries.descend false act path.dropLast .header root
  some ⟨root, path, false, inner⟩

def openItem (doc : Document) (path : List String) : Option Document := do
  let root ← doc.close
  let key ← path.getLast?
  let act (_ : Origin) (table : Entries) : Option (Entries × Unit) :=
    match table.lookup key with
    | none => some (table.put key (.tables []), ())
    | some (.tables items) => some (table.put key (.tables items), ())
    | some _ => none
  let (root, _) ← Entries.descend false act path.dropLast .header root
  some ⟨root, path, true, []⟩

def toToml (doc : Document) : Option Toml := do
  let root ← doc.close
  let entries ← settledEntries? (Node.toTomls root)
  some (.table (sortEntries entries))

end Document

end ViewerHost.Toml
