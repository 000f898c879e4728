import Mathlib.Data.List.AList

/-!
# Keyed maps

A hash map is an `AList`: entries with distinct keys, in one of the orders in which
the map may be enumerated.
-/

/-- A map from `κ` to `α`. -/
abbrev Dictionary (κ α : Type*) := AList fun _ : κ => α

namespace Dictionary
set_option autoImplicit false

variable {κ α : Type*}

/-- The values, in the order of enumeration. -/
def values (map : Dictionary κ α) : List α := map.entries.map Sigma.snd

variable [DecidableEq κ]

theorem lookup_insert_eq (map : Dictionary κ α) (key key' : κ) (value : α) :
    (map.insert key value).lookup key' = if key' = key then some value else map.lookup key' := by
  split
  case isTrue same =>
    subst same
    exact AList.lookup_insert map
  case isFalse other => exact AList.lookup_insert_ne other

@[simp] theorem lookup_empty_eq (key : κ) : (∅ : Dictionary κ α).lookup key = none :=
  AList.lookup_empty key

theorem mem_values {map : Dictionary κ α} {value : α} :
    value ∈ values map ↔ ∃ key, map.lookup key = some value := by
  unfold values
  rw [List.mem_map]
  constructor
  · rintro ⟨⟨key, value⟩, inside, rfl⟩
    exact ⟨key, AList.mem_lookup_iff.mpr inside⟩
  · rintro ⟨key, found⟩
    exact ⟨⟨key, value⟩, AList.mem_lookup_iff.mp found, rfl⟩

/-! ## Maps that differ in the order of enumeration only -/

theorem perm_iff_lookup {map map' : Dictionary κ α} :
    map.entries.Perm map'.entries ↔ ∀ key, map.lookup key = map'.lookup key := by
  constructor
  · intro perm key
    exact AList.perm_lookup perm
  · intro same
    apply List.lookup_ext map.nodupKeys map'.nodupKeys
    intro key value
    show value ∈ map.lookup key ↔ value ∈ map'.lookup key
    rw [same]

theorem values_perm {map map' : Dictionary κ α} (same : ∀ key, map.lookup key = map'.lookup key) :
    (values map).Perm (values map') := by
  unfold values
  exact List.Perm.map _ (perm_iff_lookup.mpr same)

/-! ## Maps whose values carry their keys -/

/-- Every value is stored under the key that it carries. -/
def CarriesKeys (carried : α → κ) (map : Dictionary κ α) : Prop :=
  ∀ key value, map.lookup key = some value → carried value = key

variable {carried : α → κ} {map map' : Dictionary κ α}

theorem CarriesKeys.map_values (carries : CarriesKeys carried map) :
    (values map).map carried = map.keys := by
  unfold values AList.keys List.keys
  rw [List.map_map]
  apply List.map_congr_left
  rintro ⟨key, value⟩ inside
  exact carries key value (AList.mem_lookup_iff.mpr inside)

theorem CarriesKeys.nodup_values (carries : CarriesKeys carried map) :
    ((values map).map carried).Nodup := by
  rw [carries.map_values]
  exact map.keys_nodup

theorem CarriesKeys.congr (carries : CarriesKeys carried map)
    (same : ∀ key, map.lookup key = map'.lookup key) : CarriesKeys carried map' := by
  intro key value found
  rw [← same] at found
  exact carries key value found

end Dictionary
