import ViewerHost.Toml.Value

namespace ViewerHost.Toml

-- The values inside lists keep the instance from being derived.

mutual

def same : Toml → Toml → Bool
  | string s, string s' => s == s'
  | integer i, integer i' => i == i'
  | float x, float x' => x == x'
  | boolean b, boolean b' => b == b'
  | moment m, moment m' => m == m'
  | array items, array items' => sameItems items items'
  | table entries, table entries' => sameEntries entries entries'
  | _, _ => false

def sameItems : List Toml → List Toml → Bool
  | [], [] => true
  | item :: items, item' :: items' => same item item' && sameItems items items'
  | _, _ => false

def sameEntries : List (String × Toml) → List (String × Toml) → Bool
  | [], [] => true
  | (key, value) :: entries, (key', value') :: entries' =>
    key == key' && same value value' && sameEntries entries entries'
  | _, _ => false

end

mutual

theorem same_iff : ∀ value value' : Toml, same value value' = true ↔ value = value'
  | array items, value' => by
      cases value' with
      | array items' => simp [same, sameItems_iff items items']
      | _ => simp [same]
  | table entries, value' => by
      cases value' with
      | table entries' => simp [same, sameEntries_iff entries entries']
      | _ => simp [same]
  | string _, value' | integer _, value' | float _, value' | boolean _, value'
  | moment _, value' => by cases value' <;> simp [same]

theorem sameItems_iff : ∀ items items' : List Toml, sameItems items items' = true ↔ items = items'
  | [], items' => by cases items' <;> simp [sameItems]
  | item :: items, items' => by
      cases items' with
      | nil => simp [sameItems]
      | cons item' items' => simp [sameItems, same_iff item item', sameItems_iff items items']

theorem sameEntries_iff :
    ∀ entries entries' : List (String × Toml), sameEntries entries entries' = true ↔ entries = entries'
  | [], entries' => by cases entries' <;> simp [sameEntries]
  | (key, value) :: entries, entries' => by
      cases entries' with
      | nil => simp [sameEntries]
      | cons entry entries' =>
          simp [sameEntries, same_iff value entry.2, sameEntries_iff entries entries', Prod.ext_iff]

end

instance decidableEq : DecidableEq Toml :=
  fun value value' => decidable_of_iff _ (same_iff value value')

end ViewerHost.Toml
