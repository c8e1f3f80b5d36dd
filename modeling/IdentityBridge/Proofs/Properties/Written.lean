import IdentityBridge.Proofs.Properties.Group

/-! Lists and maps written as the text of a property. Items are escaped and joined by a delimiter; reading
the text cuts it at the delimiters that are not escaped and takes the escapes away, so that the items come
back whatever characters they have. A map is written as a list of entries, and an entry is cut at its first
equal sign only after that. -/

namespace IdentityBridge

/-! ### Lists -/

namespace Text.Escaped

variable {c : Char}

/-- An escaped item stays in one cell, at the front of the first one of what follows. -/
theorem cells_escape_append (hc : c ≠ '\\') (item : List Char) {rest cell : List Char}
    {more : List (List Char)} (h : cells (some c) rest = cell :: more) :
    cells (some c) (escape c item ++ rest) = (item ++ cell) :: more := by
  induction item with
  | nil => exact h
  | cons first item ih =>
    by_cases hs : first = c ∨ first = '\\'
    · have he : escape c (first :: item) = '\\' :: first :: escape c item := if_pos hs
      rw [he, List.cons_append, List.cons_append, cells_escaped _ hc, ih]
      rfl
    · have he : escape c (first :: item) = first :: escape c item := if_neg hs
      obtain ⟨hd, hb⟩ := not_or.1 hs
      rw [he, List.cons_append, cells_letter _ hd hb, ih]
      rfl

theorem cells_escape (hc : c ≠ '\\') (item : List Char) : cells (some c) (escape c item) = [item] := by
  have h : cells (some c) (escape c item ++ []) = [item ++ []] := cells_escape_append hc item rfl
  rwa [List.append_nil, List.append_nil] at h

/-- Between two items there is a delimiter that is not escaped. -/
theorem cells_intercalate (hc : c ≠ '\\') {items : List (List Char)} (hne : items ≠ []) :
    cells (some c) ([c].intercalate (items.map (escape c))) = items := by
  induction items with
  | nil => exact absurd rfl hne
  | cons item rest ih =>
    cases rest with
    | nil =>
      rw [List.map_singleton, List.intercalate_singleton]
      exact cells_escape hc item
    | cons next rest =>
      have hcut := cells_escape_append hc item
        (cells_delimiter ([c].intercalate ((next :: rest).map (escape c))))
      rw [ih (List.cons_ne_nil _ _), List.append_nil] at hcut
      rw [List.map_cons, List.map_cons, List.intercalate_cons_cons, ← List.map_cons, List.append_assoc,
        List.singleton_append]
      exact hcut

/-- Items that are not empty are read back as they were written. -/
theorem split_join (hc : c ≠ '\\') {items : List String} (h : "" ∉ items) :
    split (join c items) (String.singleton c) = items := by
  have hd : delimiter? (String.singleton c) = some c := by
    rw [delimiter?, String.toList_singleton]
  rw [split, hd, join, String.toList_ofList]
  by_cases hne : items = []
  · rw [hne]
    rfl
  · have hmap : items.map (fun item => escape c item.toList) =
        (items.map String.toList).map (escape c) := by
      rw [List.map_map]
      rfl
    have hfull : ∀ cell ∈ items.map String.toList, decide (cell ≠ []) = true := by
      intro cell hcell
      obtain ⟨item, hitem, rfl⟩ := List.mem_map.1 hcell
      have hn : item ≠ "" := fun he => h (he ▸ hitem)
      simpa using hn
    rw [hmap, cells_intercalate hc (by simpa using hne), List.filter_eq_self.2 hfull, List.map_map]
    simp

end Text.Escaped

/-! ### Maps -/

namespace Properties

open Text.Escaped

variable {p : Properties} {name : String} {c : Char}

/-- An entry of a map as it is written. -/
def writeEntry (pair : String × String) : String := pair.1 ++ "=" ++ pair.2

theorem writeEntry_ne_empty (pair : String × String) : writeEntry pair ≠ "" := by
  intro h
  have hl := congrArg String.toList h
  simp [writeEntry] at hl

/-- The first equal sign of an entry is the one after its key. -/
theorem read_writeEntry {pair : String × String} (h : '=' ∉ pair.1.toList) :
    mapEntry? (writeEntry pair) = some pair := by
  have hl : (writeEntry pair).toList = pair.1.toList ++ '=' :: pair.2.toList := by
    simp [writeEntry]
  rw [ mapEntry?, Text.Cut.first, hl, Text.cutFirst_append h]
  simp

theorem readAll_writeEntry {pairs : List (String × String)}
    (h : ∀ pair ∈ pairs, '=' ∉ pair.1.toList) : (pairs.map writeEntry).filterMap mapEntry? = pairs := by
  induction pairs with
  | nil => rfl
  | cons pair rest ih =>
    rw [List.map_cons, List.filterMap_cons_some (read_writeEntry (h pair List.mem_cons_self)),
      ih fun pair hp => h pair (List.mem_cons_of_mem _ hp)]

theorem get?_of_configured {text : String} (hp : p.preference? name = none)
    (hv : p.configured? name = some text) : p.get? name = some text := by
  rw [get?, hp]
  exact hv

/-- A list that is written in the configuration, and in no preference, is read as it was. -/
theorem list?_join (hc : c ≠ '\\') {items : List String} (hi : "" ∉ items)
    (hp : p.preference? name = none) (hv : p.configured? name = some (join c items)) :
    p.list? name (String.singleton c) = some items := by
  rw [list?, get?_of_configured hp hv, Option.map_some, split_join hc hi]

/-- So is a map, with each key where it comes first and with its last value. -/
theorem map?_join (hc : c ≠ '\\') {pairs : List (String × String)}
    (hk : ∀ pair ∈ pairs, '=' ∉ pair.1.toList) (hp : p.preference? name = none)
    (hv : p.configured? name = some (join c (pairs.map writeEntry))) :
    p.map? name (String.singleton c) = some (Table.ofList pairs) := by
  have hfull : "" ∉ pairs.map writeEntry := by
    intro h
    obtain ⟨pair, -, he⟩ := List.mem_map.1 h
    exact writeEntry_ne_empty pair he
  rw [map?, list?_join hc hfull hp hv, Option.map_some, readAll_writeEntry hk]
  simp

/-- Lists of items that are not empty survive being written as one text, whatever one character but the
backslash stands between them, and no text has an empty item. So maps survive being written as lists of
entries, as long as no key has an equal sign: they are read as the table of the entries, in which each key
stands where it comes first and has its last value. -/
theorem joined_reads_back (hc : c ≠ '\\') :
    (∀ items : List String, "" ∉ items → split (join c items) (String.singleton c) = items) ∧
    (∀ text delimiter : String, "" ∉ split text delimiter) ∧
    ∀ (p : Properties) (name : String) (pairs : List (String × String)),
      (∀ pair ∈ pairs, '=' ∉ pair.1.toList) → p.preference? name = none →
      p.configured? name = some (join c (pairs.map writeEntry)) →
      ∃ t, p.map? name (String.singleton c) = some t ∧ t = Table.ofList pairs ∧
        t.keys = (pairs.map Prod.fst).eraseDups ∧
        ∀ key, t.find? key = (pairs.reverse.find? fun pair => pair.1 = key).map Prod.snd := by
  refine ⟨fun items hi => split_join hc hi, fun text delimiter h => split_ne_empty h rfl, ?_⟩
  intro p name pairs hk hp hv
  refine ⟨_, map?_join hc hk hp hv, rfl, Table.keys_ofList pairs, fun key => ?_⟩
  rw [Table.find?_ofList, Table.findIn_eq_find?]

/-! ### An example -/

/-- Keys and values of delimiters, backslashes and equal signs; one key comes twice. -/
def sizes : List (String × String) := [("\\", "1|2"), ("|", "=\\"), ("\\", "3=|")]

def awkward : Properties where
  configuration := .ofList [("app.sizes", join '|' (sizes.map writeEntry))]
  configurationPrefix := "app"

theorem awkward_reads_back : '|' ≠ '\\' ∧ "" ∉ ["|", "\\|", "=\\"] ∧
    (∀ pair ∈ sizes, '=' ∉ pair.1.toList) ∧ awkward.preference? "sizes" = none ∧
    awkward.configured? "sizes" = some (join '|' (sizes.map writeEntry)) ∧
    split (join '|' ["|", "\\|", "=\\"]) (String.singleton '|') = ["|", "\\|", "=\\"] ∧
    ∃ t, awkward.map? "sizes" (String.singleton '|') = some t ∧ t.keys = ["\\", "|"] ∧
      t.find? "\\" = some "3=|" := by
  have hc : '|' ≠ '\\' := by decide
  have hi : "" ∉ ["|", "\\|", "=\\"] := by decide
  have hk : ∀ pair ∈ sizes, '=' ∉ pair.1.toList := by decide
  obtain ⟨hlists, -, hmaps⟩ := joined_reads_back hc
  obtain ⟨t, ht, -, hkeys, hfind⟩ := hmaps awkward "sizes" sizes hk rfl rfl
  exact ⟨hc, hi, hk, rfl, rfl, hlists _ hi, t, ht, hkeys.trans (by decide), (hfind "\\").trans (by decide)⟩

end Properties

end IdentityBridge
