import Mathlib.Data.List.Induction
import IdentityBridge.Delta
import IdentityBridge.Properties

/-! One-to-many maps. Pairs are collected under their keys: each key stands where it comes up first, and
has just the values that it is paired with. Where a table is made of a list of entries, the last entry of
a key is the one that is found. -/

namespace IdentityBridge

/-! ### Tables of lists -/

namespace Table

variable {κ ν : Type} [DecidableEq κ]

theorem findIn_append (key : κ) (earlier later : List (κ × ν)) :
    findIn key (earlier ++ later) = (findIn key earlier).or (findIn key later) := by
  induction earlier with
  | nil => rfl
  | cons e rest ih =>
    obtain ⟨k, v⟩ := e
    by_cases h : k = key <;> simp [findIn, h, ih]

theorem findIn_eq_find? (key : κ) (entries : List (κ × ν)) :
    findIn key entries = (entries.find? fun e => e.1 = key).map Prod.snd := by
  induction entries with
  | nil => rfl
  | cons e rest ih =>
    obtain ⟨k, v⟩ := e
    by_cases h : k = key <;> simp [findIn, h, ih]

/-- Of several entries under one key the last one counts. -/
theorem find?_ofList (entries : List (κ × ν)) (key : κ) :
    (ofList entries).find? key = findIn key entries.reverse := by
  have h (t : Table κ ν) : (t.insertAll entries).find? key =
      (findIn key entries.reverse).or (t.find? key) := by
    induction entries generalizing t with
    | nil => rfl
    | cons e rest ih =>
      obtain ⟨k, v⟩ := e
      have hstep : t.insertAll ((k, v) :: rest) = (t.insert k v).insertAll rest := rfl
      rw [hstep, ih, find?_insert, List.reverse_cons, findIn_append, Option.or_assoc]
      by_cases hk : k = key <;> simp [findIn, hk]
  rw [ofList, h, find?_empty, Option.or_none]

theorem keys_insert (t : Table κ ν) (key : κ) (value : ν) :
    (t.insert key value).keys = if key ∈ t.keys then t.keys else t.keys ++ [key] :=
  keys_insertIn key value t.entries

/-- Keys that stand where they come up first do so after a further one. -/
theorem keys_insert_of_keys {t : Table κ ν} {earlier : List κ} (h : t.keys = earlier.eraseDups)
    (key : κ) (value : ν) : (t.insert key value).keys = (earlier ++ [key]).eraseDups := by
  rw [keys_insert, h, List.eraseDups_append]
  by_cases hk : key ∈ earlier
  · rw [if_pos (List.mem_eraseDups.2 hk)]
    simp [List.removeAll, hk]
  · rw [if_neg (mt List.mem_eraseDups.1 hk)]
    simp [List.removeAll, hk, List.eraseDups_cons]

theorem ofList_append (entries : List (κ × ν)) (entry : κ × ν) :
    ofList (entries ++ [entry]) = (ofList entries).insert entry.1 entry.2 := by
  rw [ofList, insertAll, List.foldl_append]
  rfl

theorem keys_ofList (entries : List (κ × ν)) :
    (ofList entries).keys = (entries.map Prod.fst).eraseDups := by
  induction entries using List.reverseRecOn with
  | nil => rfl
  | append_singleton entries entry ih =>
    rw [ofList_append, keys_insert_of_keys ih, List.map_append]
    rfl

end Table

/-! ### Collecting pairs -/

namespace Properties

/-- A further pair adds its value to those of its key. -/
theorem group_append (pairs : List (String × String)) (key value : String) :
    group (pairs ++ [(key, value)]) =
      (group pairs).insert key (insertNew value (((group pairs).find? key).getD [])) := by
  rw [group, List.foldl_append]
  rfl

/-- The keys are in the order in which they come up first. -/
theorem keys_group (pairs : List (String × String)) :
    (group pairs).keys = (pairs.map Prod.fst).eraseDups := by
  induction pairs using List.reverseRecOn with
  | nil => rfl
  | append_singleton pairs pair ih =>
    obtain ⟨key, value⟩ := pair
    rw [group_append, Table.keys_insert_of_keys ih, List.map_append]
    rfl

/-- A key has the values that it is paired with. -/
theorem mem_group {pairs : List (String × String)} {key value : String} :
    value ∈ ((group pairs).find? key).getD [] ↔ (key, value) ∈ pairs := by
  induction pairs using List.reverseRecOn with
  | nil => simp [group]
  | append_singleton pairs pair ih =>
    obtain ⟨key', value'⟩ := pair
    rw [group_append, Table.find?_insert, List.mem_append, ← ih]
    by_cases hk : key' = key
    · subst hk
      simp [or_comm]
    · simp [hk, Ne.symm hk]

end Properties

end IdentityBridge
