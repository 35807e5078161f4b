import Mathlib.Logic.Relation
import ViewerHost.Proofs.Toml.Leaves

namespace ViewerHost.Toml

variable {value value' : Toml} {before after entries entries' : List (String × Toml)}
  {text text' key key' : String}

def written? (text : String) : Option (List (String × Toml)) :=
  let cs := match text.toList with
    | '\uFEFF' :: rest => rest
    | cs => cs
  (document? .empty cs).bind fun doc => doc.close.map Node.toTomls

def sorted? (entries : List (String × Toml)) : Option (List (String × Toml)) :=
  (settledEntries? entries).map sortEntries

theorem read?_eq (text : String) :
    read? text = ((written? text).bind sorted?).map .table := by
  rw [read?, written?]
  cases document? .empty _ with
  | none => rfl
  | some doc =>
      rw [Option.bind_some, Option.bind_some, Document.toToml]
      cases doc.close with
      | none => rfl
      | some root =>
          show (settledEntries? _).bind _ = ((settledEntries? _).map _).map _
          cases settledEntries? (Node.toTomls root) <;> rfl

theorem isSorted_of_read? (given : read? text = some value) :
    ∃ entries, value = .table entries ∧ value.IsSorted := by
  rw [read?_eq, Option.map_eq_some_iff] at given
  obtain ⟨sorted, given, rfl⟩ := given
  obtain ⟨entries, -, given⟩ := Option.bind_eq_some_iff.mp given
  obtain ⟨results, settled, rfl⟩ := Option.map_eq_some_iff.mp given
  exact ⟨_, rfl, isSorted_sortEntries (isSorted_of_settledEntries settled)⟩

/-- Two neighbours have changed places, in a table or in one inside it. A table that begins with the
reserved key stands for a date, so that what comes first in it counts. -/
inductive Exchanged : List (String × Toml) → List (String × Toml) → Prop where
  | here {before after : List (String × Toml)} {a b : String × Toml} (other : a.1 ≠ b.1) :
      Exchanged (before ++ a :: b :: after) (before ++ b :: a :: after)
  | inside {before after entries entries' : List (String × Toml)} {key : String}
      (plain : underMomentKey? entries = none) (plain' : underMomentKey? entries' = none)
      (exchanged : Exchanged entries entries') :
      Exchanged (before ++ (key, .table entries) :: after)
        (before ++ (key, .table entries') :: after)
  | insideItem {before after entries entries' : List (String × Toml)} {key : String}
      {front back : List Toml} (plain : underMomentKey? entries = none)
      (plain' : underMomentKey? entries' = none) (exchanged : Exchanged entries entries') :
      Exchanged (before ++ (key, .array (front ++ .table entries :: back)) :: after)
        (before ++ (key, .array (front ++ .table entries' :: back)) :: after)

theorem sortEntries_exchanged (other : key ≠ key') :
    sortEntries (before ++ (key, value) :: (key', value') :: after) =
      sortEntries (before ++ (key', value') :: (key, value) :: after) := by
  rw [sortEntries, sortEntries, Dictionary.ofList_swap other]

theorem settledEntries?_append (before after : List (String × Toml)) :
    settledEntries? (before ++ after) = (settledEntries? before).bind fun results =>
      (settledEntries? after).map (results ++ ·) := by
  induction before with
  | nil => simp [settledEntries?]
  | cons entry before ih =>
      obtain ⟨key, value⟩ := entry
      rw [List.cons_append, settledEntries?, settledEntries?, ih]
      cases settled? value <;> cases settledEntries? before <;> cases settledEntries? after <;> rfl

theorem settledItems?_append (before after : List Toml) :
    settledItems? (before ++ after) = (settledItems? before).bind fun results =>
      (settledItems? after).map (results ++ ·) := by
  induction before with
  | nil => simp [settledItems?]
  | cons item before ih =>
      rw [List.cons_append, settledItems?, settledItems?, ih]
      cases settled? item <;> cases settledItems? before <;> cases settledItems? after <;> rfl

theorem settledEntries?_congr (alike : settled? value = settled? value') :
    settledEntries? (before ++ (key, value) :: after) =
      settledEntries? (before ++ (key, value') :: after) := by
  rw [settledEntries?_append, settledEntries?_append, settledEntries?, settledEntries?, alike]

theorem settled?_table (plain : underMomentKey? entries = none) :
    settled? (.table entries) = (sorted? entries).map .table := by
  rw [settled?, plain, sorted?]
  cases settledEntries? entries <;> rfl

theorem sorted?_exchanged (exchanged : Exchanged entries entries') :
    sorted? entries = sorted? entries' := by
  induction exchanged with
  | @here before after a b other =>
      obtain ⟨keyA, a⟩ := a
      obtain ⟨keyB, b⟩ := b
      rw [sorted?, sorted?, settledEntries?_append, settledEntries?_append]
      simp only [settledEntries?]
      cases settledEntries? before <;> cases settled? a <;> cases settled? b <;>
        cases settledEntries? after
      -- Only where all of them can be read is there anything to sort.
      case some.some.some.some => exact congrArg some (sortEntries_exchanged other)
      all_goals rfl
  | inside plain plain' _ ih =>
      rw [sorted?, sorted?, settledEntries?_congr]
      rw [settled?_table plain, settled?_table plain', ih]
  | insideItem plain plain' _ ih =>
      rw [sorted?, sorted?, settledEntries?_congr]
      rw [settled?, settled?, settledItems?_append, settledItems?_append, settledItems?,
        settledItems?, settled?_table plain, settled?_table plain', ih]

theorem sorted?_of_reflTransGen (exchanged : Relation.ReflTransGen Exchanged entries entries') :
    sorted? entries = sorted? entries' := by
  induction exchanged with
  | refl => rfl
  | tail _ last ih => rw [ih, sorted?_exchanged last]

theorem read?_exchanged (written : written? text = some entries)
    (written' : written? text' = some entries')
    (exchanged : Relation.ReflTransGen Exchanged entries entries') : read? text = read? text' := by
  rw [read?_eq, read?_eq, written, written', Option.bind_some, Option.bind_some,
    sorted?_of_reflTransGen exchanged]

end ViewerHost.Toml
