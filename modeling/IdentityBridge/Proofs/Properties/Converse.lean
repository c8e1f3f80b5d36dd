import IdentityBridge.Proofs.Properties.Written

/-! One-to-many properties in their two orientations. The entries of a text that have a left side are its
pairs; one orientation collects the right sides of each left side, the other the left sides of each right
side. Both hold just the pairs, so each is the converse of the other. -/

namespace IdentityBridge.Properties

variable {p : Properties} {name text separator entry key value : String} {left : Bool}
  {pair : String × String} {pairs : List (String × String)}

/-! ### Entries -/

/-- An entry stands for a pair: its first equal sign has a character before it, and divides the entry into
the sides of the pair. -/
structure IsPair (entry : String) (pair : String × String) : Prop where
  left_ne_empty : pair.1 ≠ ""
  first : '=' ∉ pair.1.toList
  written : entry = writeEntry pair

theorem mapEntry?_eq_some :
    mapEntry? entry = some pair ↔ '=' ∉ pair.1.toList ∧ entry = writeEntry pair := by
  constructor
  · intro h
    obtain ⟨⟨before, after⟩, hcut, rfl⟩ := Option.map_eq_some_iff.1 h
    obtain ⟨hentry, hfirst⟩ := Text.cutFirst_eq_some hcut
    refine ⟨by simpa using hfirst, String.toList_inj.1 ?_⟩
    simpa [writeEntry] using hentry
  · rintro ⟨hfirst, rfl⟩
    exact read_writeEntry hfirst

theorem pairEntry?_eq_some : pairEntry? entry = some pair ↔ IsPair entry pair := by
  rw [ pairEntry?, ← mapEntry?, Option.filter_eq_some_iff, mapEntry?_eq_some, decide_eq_true_eq]
  constructor
  · rintro ⟨⟨hfirst, hwritten⟩, hleft⟩
    exact ⟨hleft, hfirst, hwritten⟩
  · intro h
    exact ⟨⟨h.first, h.written⟩, h.left_ne_empty⟩

/-- The pairs that a text stands for, in order; entries that stand for none are passed over. -/
def pairsIn (text separator : String) : List (String × String) :=
  (Text.Escaped.split text separator).filterMap pairEntry?

theorem mem_pairsIn :
    pair ∈ pairsIn text separator ↔ ∃ entry ∈ Text.Escaped.split text separator, IsPair entry pair := by
  simp only [pairsIn, List.mem_filterMap, pairEntry?_eq_some]

/-! ### Orientations -/

/-- The key and the value of a pair, with its left or its right side as the key. -/
def orient (left : Bool) (pair : String × String) : String × String := if left then pair else pair.swap

theorem groups?_eq (h : p.get? name = some text) :
    p.groups? name separator left = some (group ((pairsIn text separator).map (orient left))) := by
  rw [groups?, list?, h]
  rfl

theorem mem_map_orient :
    (key, value) ∈ pairs.map (orient left) ↔ orient left (key, value) ∈ pairs := by
  cases left with
  | false =>
    constructor
    · intro h
      obtain ⟨pair, hpair, hswap⟩ := List.mem_map.1 h
      rwa [← hswap]
    · exact fun h => List.mem_map.2 ⟨(value, key), h, rfl⟩
  | true => simp [orient]

/-- A key that comes up in a pair has the value of that pair. -/
theorem group_ne_nil {values : List String} (h : (group pairs).find? key = some values) :
    values ≠ [] := by
  have hkey : key ∈ (group pairs).keys := List.mem_map.2 ⟨_, Table.find?_eq_some.1 h, rfl⟩
  rw [keys_group, List.mem_eraseDups] at hkey
  obtain ⟨⟨_, value⟩, hpair, rfl⟩ := List.mem_map.1 hkey
  have hvalue := mem_group.2 hpair
  rw [h, Option.getD_some] at hvalue
  exact List.ne_nil_of_mem hvalue

/-- Of a text, the left sides with the right sides of each, and the right sides with the left sides of each,
are converse relations: two texts are related just if an entry of the text stands for their pair. No key is
without values, and the keys are in the order in which they come up first. -/
theorem orientations_converse (h : p.get? name = some text) (separator : String) :
    ∃ lefts rights, p.groups? name separator true = some lefts ∧
      p.groups? name separator false = some rights ∧
      (∀ a b, (b ∈ (lefts.find? a).getD [] ↔ a ∈ (rights.find? b).getD []) ∧
        (b ∈ (lefts.find? a).getD [] ↔
          ∃ entry ∈ Text.Escaped.split text separator, IsPair entry (a, b))) ∧
      (∀ key values, lefts.find? key = some values ∨ rights.find? key = some values → values ≠ []) ∧
      lefts.keys = ((pairsIn text separator).map Prod.fst).eraseDups ∧
      rights.keys = ((pairsIn text separator).map Prod.snd).eraseDups := by
  have hlefts (a b : String) :
      b ∈ ((group ((pairsIn text separator).map (orient true))).find? a).getD [] ↔
        (a, b) ∈ pairsIn text separator := mem_group.trans mem_map_orient
  have hrights (a b : String) :
      a ∈ ((group ((pairsIn text separator).map (orient false))).find? b).getD [] ↔
        (a, b) ∈ pairsIn text separator := mem_group.trans mem_map_orient
  refine ⟨_, _, groups?_eq h, groups?_eq h, fun a b => ⟨?_, ?_⟩, fun key values hfind => ?_, ?_, ?_⟩
  · rw [hlefts, hrights]
  · rw [hlefts, mem_pairsIn]
  · rcases hfind with hfind | hfind <;> exact group_ne_nil hfind
  · rw [keys_group, List.map_map]
    rfl
  · rw [keys_group, List.map_map]
    rfl

/-! ### An example -/

/-- A pair that comes twice, an empty right side, further equal signs, an escaped separator, and entries
without a left side or without an equal sign. -/
def keyring : Properties where
  configuration := .ofList [("app.keys", "a=1|b=1|=x|a=2|c|b=|a=1|d=e=f|g\\|=1")]
  configurationPrefix := "app"

theorem keyring_converse :
    keyring.get? "keys" = some "a=1|b=1|=x|a=2|c|b=|a=1|d=e=f|g\\|=1" ∧
    ∃ lefts rights, keyring.groups? "keys" "|" true = some lefts ∧
      keyring.groups? "keys" "|" false = some rights ∧
      lefts.keys = ["a", "b", "d", "g|"] ∧ rights.keys = ["1", "2", "", "e=f"] ∧
      "e=f" ∈ (lefts.find? "d").getD [] ∧ "g|" ∈ (rights.find? "1").getD [] := by
  have h : keyring.get? "keys" = some "a=1|b=1|=x|a=2|c|b=|a=1|d=e=f|g\\|=1" := rfl
  obtain ⟨lefts, rights, hl, hr, hrelated, -, hlefts, hrights⟩ := orientations_converse h "|"
  have hpairs : pairsIn "a=1|b=1|=x|a=2|c|b=|a=1|d=e=f|g\\|=1" "|" =
      [("a", "1"), ("b", "1"), ("a", "2"), ("b", ""), ("a", "1"), ("d", "e=f"), ("g|", "1")] := by
    cbv
  rw [hpairs] at hlefts hrights
  have hin {a b : String} (hmem : (a, b) ∈ pairsIn "a=1|b=1|=x|a=2|c|b=|a=1|d=e=f|g\\|=1" "|") :
      b ∈ (lefts.find? a).getD [] := (hrelated a b).2.2 (mem_pairsIn.1 hmem)
  refine ⟨h, lefts, rights, hl, hr, hlefts.trans (by decide), hrights.trans (by decide),
    hin (by rw [hpairs]; decide), (hrelated "g|" "1").1.1 (hin (by rw [hpairs]; decide))⟩

end IdentityBridge.Properties
