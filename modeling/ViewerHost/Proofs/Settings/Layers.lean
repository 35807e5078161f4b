import ViewerHost.Proofs.Text.Dictionary
import ViewerHost.Settings.Chain

namespace ViewerHost.Settings

variable {s : Settings} {key : String} {value : Toml} {puts : List (String × Toml)}

theorem get?_flatten (s : Settings) (key : String) : s.flatten.get? key = s.get? key := by
  rw [flatten, get?]
  -- The lookup goes down the layers and the merged map is built up from the last of them.
  induction s.layers with
  | nil => rfl
  | cons layer behind ih =>
      rw [List.foldr_cons, Dictionary.get?_overlay, ih, List.findSome?_cons]
      cases layer.values.get? key with
      | none => rfl
      | some value => rfl

theorem mem_keys_iff : key ∈ s.keys ↔ s.contains key = true := by
  rw [keys, Dictionary.mem_keys_iff, get?_flatten, contains]

theorem keys_ascending (s : Settings) : s.keys.Pairwise (· < ·) := s.flatten.keys_ascending

def putAll (s : Settings) (puts : List (String × Toml)) : Settings :=
  puts.foldl (fun s (key, value) => s.put key value) s

theorem putAll_append (s : Settings) (puts : List (String × Toml)) (key : String) (value : Toml) :
    s.putAll (puts ++ [(key, value)]) = (s.putAll puts).put key value := by
  rw [putAll, List.foldl_append]
  rfl

theorem behind_putAll (s : Settings) (puts : List (String × Toml)) :
    (s.putAll puts).behind = s.behind := by
  induction puts using List.reverseRecOn with
  | nil => rfl
  | append_singleton puts last ih =>
      rw [putAll_append]
      exact ih

theorem get?_putAll (s : Settings) (puts : List (String × Toml)) (key : String) :
    (s.putAll puts).get? key = (puts.reverse.lookup key).or (s.get? key) := by
  induction puts using List.reverseRecOn with
  | nil => rfl
  | append_singleton puts last ih =>
      obtain ⟨last, value⟩ := last
      rw [putAll_append, get?_put, ih, List.reverse_append, List.reverse_singleton,
        List.singleton_append, Dictionary.lookup_entry]
      by_cases same : key = last
      · simp [same]
      · simp [same]

/-- However deep the chain and whatever was put on its nearest layer, a lookup finds what the merged
map holds, and the keys that are found are listed in ascending order. A further value is found under
its own key and under no other, and the layers behind stay as they are. -/
theorem lookup_agrees_with_listing (s : Settings) (puts : List (String × Toml)) :
    let t := s.putAll puts
    (∀ key, t.get? key = t.flatten.get? key) ∧
    (∀ key, t.contains key = true ↔ key ∈ t.keys) ∧
    t.keys.Pairwise (· < ·) ∧
    (∀ key, t.get? key = (puts.reverse.lookup key).or (s.get? key)) ∧
    t.behind = s.behind ∧
    ∀ key value,
      (t.put key value).get? key = some value ∧
      (∀ other, other ≠ key → (t.put key value).get? other = t.get? other) ∧
      (t.put key value).behind = t.behind := by
  intro t
  refine ⟨?_, ?_, t.keys_ascending, s.get?_putAll puts, s.behind_putAll puts, ?_⟩
  · intro key
    exact (t.get?_flatten key).symm
  · intro key
    exact mem_keys_iff.symm
  · intro key value
    refine ⟨?_, ?_, rfl⟩
    · rw [get?_put, if_pos rfl]
    · intro other different
      rw [get?_put, if_neg different]

end ViewerHost.Settings
