import Mathlib.Data.List.Basic
import ViewerHost.Files.Tree
import ViewerHost.Proofs.Outcome
import ViewerHost.Proofs.Text.Dictionary

namespace ViewerHost

namespace FileTree

open Outcome

variable {tree : FileTree} {p : Path} {place names : List String} {name : String}

theorem mem_namesIn :
    name ∈ tree.namesIn place ↔ ∃ entry, (place ++ [name], entry) ∈ tree.entries := by
  simp only [namesIn, Dictionary.mem_keys_ofList, List.mem_filterMap]
  constructor
  · rintro ⟨⟨⟩, ⟨names, entry⟩, member, listed⟩
    dsimp only at listed
    split at listed
    · rename_i above
      obtain ⟨last, ends, same⟩ := Option.map_eq_some_iff.mp listed
      cases same
      refine ⟨entry, ?_⟩
      rwa [← above, List.dropLast_append_getLast? name ends]
    · cases listed
  · rintro ⟨entry, member⟩
    exact ⟨(), _, member, by simp⟩

theorem list_eq_ok_iff :
    tree.list p = .ok names ↔ ∃ place, tree.locate p = .ok place ∧
      tree.entry? place = some .directory ∧ names = tree.namesIn place := by
  rw [list, bind_eq_ok_iff]
  refine exists_congr fun place => and_congr_right fun _ => ?_
  split
  · rename_i isDirectory
    simp [isDirectory, eq_comm]
  · rename_i other
    simp [other]

theorem pairwise_of_list (listed : tree.list p = .ok names) : names.Pairwise (· < ·) := by
  obtain ⟨place, -, -, rfl⟩ := list_eq_ok_iff.mp listed
  exact Dictionary.keys_ascending _

end FileTree

end ViewerHost
