/-! Tables: finite maps that keep the order in which their keys were first inserted. Inserting under
a present key replaces the value and keeps the place. -/

namespace IdentityBridge

/-- Keys with their values, in order of first insertion. No key occurs twice. -/
structure Table (κ ν : Type) where
  entries : List (κ × ν) := []
  nodup_keys : (entries.map Prod.fst).Nodup := by simp
deriving Repr, DecidableEq

namespace Table

variable {κ ν : Type} [DecidableEq κ]

def empty : Table κ ν := {}

instance : EmptyCollection (Table κ ν) := ⟨empty⟩

instance : Inhabited (Table κ ν) := ⟨empty⟩

/-! ### Lists of entries -/

def findIn (key : κ) : List (κ × ν) → Option ν
  | [] => none
  | (k, v) :: rest => if k = key then some v else findIn key rest

def insertIn (key : κ) (value : ν) : List (κ × ν) → List (κ × ν)
  | [] => [(key, value)]
  | (k, v) :: rest => if k = key then (k, value) :: rest else (k, v) :: insertIn key value rest

/-- Change the value under a key, if there is one. -/
def modifyIn (key : κ) (f : ν → ν) (entries : List (κ × ν)) : List (κ × ν) :=
  entries.map fun (k, v) => if k = key then (k, f v) else (k, v)

theorem findIn_eq_none {key : κ} {entries : List (κ × ν)} :
    findIn key entries = none ↔ key ∉ entries.map Prod.fst := by
  induction entries with
  | nil => simp [findIn]
  | cons e rest ih =>
    obtain ⟨k, v⟩ := e
    by_cases h : k = key
    · simp [findIn, h]
    · simp only [findIn, h, if_false, ih, List.map_cons, List.mem_cons, not_or]
      exact ⟨fun hr => ⟨Ne.symm h, hr⟩, And.right⟩

/-- Where no key occurs twice, looking up a key finds its entry. -/
theorem findIn_eq_some {key : κ} {value : ν} {entries : List (κ × ν)}
    (hn : (entries.map Prod.fst).Nodup) : findIn key entries = some value ↔ (key, value) ∈ entries := by
  induction entries with
  | nil => simp [findIn]
  | cons e rest ih =>
    obtain ⟨k, v⟩ := e
    obtain ⟨hk, hr⟩ := List.nodup_cons.1 hn
    by_cases h : k = key
    · subst h
      have hv : (k, value) ∉ rest := fun hv => hk (List.mem_map.2 ⟨_, hv, rfl⟩)
      simp [findIn, hv, eq_comm]
    · simp [findIn, h, Ne.symm h, ih hr]

theorem findIn_insertIn (key : κ) (value : ν) (key' : κ) (entries : List (κ × ν)) :
    findIn key' (insertIn key value entries) =
      if key = key' then some value else findIn key' entries := by
  induction entries with
  | nil => simp [insertIn, findIn]
  | cons e rest ih =>
    obtain ⟨k, v⟩ := e
    by_cases h : k = key
    · subst h
      by_cases h' : k = key' <;> simp [insertIn, findIn, h']
    · by_cases h' : k = key'
      · subst h'
        simp [insertIn, findIn, h, Ne.symm h]
      · simp [insertIn, findIn, h, h', ih]

theorem findIn_filter_ne (key key' : κ) (entries : List (κ × ν)) :
    findIn key' (entries.filter (·.1 ≠ key)) = if key = key' then none else findIn key' entries := by
  induction entries with
  | nil => simp [findIn]
  | cons e rest ih =>
    obtain ⟨k, v⟩ := e
    by_cases h : k = key
    · subst h
      by_cases h' : k = key' <;> simp_all [findIn]
    · by_cases h' : k = key'
      · subst h'
        simp [findIn, h, Ne.symm h]
      · simpa [findIn, h, h'] using ih

theorem findIn_modifyIn (key : κ) (f : ν → ν) (key' : κ) (entries : List (κ × ν)) :
    findIn key' (modifyIn key f entries) =
      if key = key' then (findIn key' entries).map f else findIn key' entries := by
  simp only [modifyIn]
  induction entries with
  | nil => simp [findIn]
  | cons e rest ih =>
    obtain ⟨k, v⟩ := e
    by_cases h : k = key
    · subst h
      by_cases h' : k = key' <;> simp_all [findIn]
    · by_cases h' : k = key'
      · subst h'
        simp [findIn, h, Ne.symm h]
      · simpa [findIn, h, h'] using ih

theorem keys_insertIn (key : κ) (value : ν) (entries : List (κ × ν)) :
    (insertIn key value entries).map Prod.fst =
      if key ∈ entries.map Prod.fst then entries.map Prod.fst else entries.map Prod.fst ++ [key] := by
  induction entries with
  | nil => simp [insertIn]
  | cons e rest ih =>
    obtain ⟨k, v⟩ := e
    by_cases h : k = key
    · simp [insertIn, h]
    · have hk : key ∈ ((k, v) :: rest).map Prod.fst ↔ key ∈ rest.map Prod.fst := by
        simp [Ne.symm h]
      by_cases h' : key ∈ rest.map Prod.fst
      · rw [if_pos h'] at ih
        rw [if_pos (hk.2 h')]
        simp [insertIn, h, ih]
      · rw [if_neg h'] at ih
        rw [if_neg (mt hk.1 h')]
        simp [insertIn, h, ih]

theorem nodup_keys_insertIn (key : κ) (value : ν) {entries : List (κ × ν)}
    (hn : (entries.map Prod.fst).Nodup) : ((insertIn key value entries).map Prod.fst).Nodup := by
  rw [keys_insertIn]
  split
  · exact hn
  · next hk =>
    refine List.nodup_append.2 ⟨hn, by simp, fun a ha b hb h => hk ?_⟩
    rwa [← List.mem_singleton.1 hb, ← h]

theorem keys_modifyIn (key : κ) (f : ν → ν) (entries : List (κ × ν)) :
    (modifyIn key f entries).map Prod.fst = entries.map Prod.fst := by
  rw [modifyIn, List.map_map]
  refine List.map_congr_left fun e _ => ?_
  by_cases h : e.1 = key <;> simp [h]

/-! ### Operations -/

/-- The value under a key. -/
def find? (t : Table κ ν) (key : κ) : Option ν := findIn key t.entries

def contains (t : Table κ ν) (key : κ) : Bool := (t.find? key).isSome

def insert (t : Table κ ν) (key : κ) (value : ν) : Table κ ν :=
  ⟨insertIn key value t.entries, nodup_keys_insertIn key value t.nodup_keys⟩

omit [DecidableEq κ] in
/-- The entries that a test passes. -/
def filter (t : Table κ ν) (test : κ × ν → Bool) : Table κ ν :=
  ⟨t.entries.filter test, t.nodup_keys.sublist (List.filter_sublist.map _)⟩

def erase (t : Table κ ν) (key : κ) : Table κ ν := t.filter (·.1 ≠ key)

def insertAll (t : Table κ ν) (entries : List (κ × ν)) : Table κ ν :=
  entries.foldl (fun t (k, v) => t.insert k v) t

/-- The table of a list of entries, later ones overriding earlier ones under the same key. -/
def ofList (entries : List (κ × ν)) : Table κ ν := empty.insertAll entries

def keys (t : Table κ ν) : List κ := t.entries.map (·.1)

def values (t : Table κ ν) : List ν := t.entries.map (·.2)

def isEmpty (t : Table κ ν) : Bool := t.entries.isEmpty

/-- Change the value under a key, if there is one. -/
def modify (t : Table κ ν) (key : κ) (f : ν → ν) : Table κ ν :=
  ⟨modifyIn key f t.entries, by rw [keys_modifyIn]; exact t.nodup_keys⟩

theorem find?_eq_some {t : Table κ ν} {key : κ} {value : ν} :
    t.find? key = some value ↔ (key, value) ∈ t.entries := findIn_eq_some t.nodup_keys

theorem find?_eq_none {t : Table κ ν} {key : κ} :
    t.find? key = none ↔ key ∉ t.entries.map Prod.fst := findIn_eq_none

@[simp] theorem find?_empty (key : κ) : (empty : Table κ ν).find? key = none := rfl

theorem find?_insert (t : Table κ ν) (key : κ) (value : ν) (key' : κ) :
    (t.insert key value).find? key' = if key = key' then some value else t.find? key' :=
  findIn_insertIn key value key' t.entries

theorem find?_erase (t : Table κ ν) (key key' : κ) :
    (t.erase key).find? key' = if key = key' then none else t.find? key' :=
  findIn_filter_ne key key' t.entries

theorem find?_modify (t : Table κ ν) (key : κ) (f : ν → ν) (key' : κ) :
    (t.modify key f).find? key' = if key = key' then (t.find? key').map f else t.find? key' :=
  findIn_modifyIn key f key' t.entries

theorem mem_insert {t : Table κ ν} {key : κ} {value : ν} {e : κ × ν} :
    e ∈ (t.insert key value).entries ↔ e = (key, value) ∨ e.1 ≠ key ∧ e ∈ t.entries := by
  obtain ⟨k, v⟩ := e
  rw [← find?_eq_some, find?_insert, ← find?_eq_some]
  by_cases h : key = k
  · subst h
    simp [eq_comm]
  · simp [h, Ne.symm h]

end Table

end IdentityBridge
