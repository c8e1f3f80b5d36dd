import IdentityBridge.Proofs.Entitlement.Exact
import IdentityBridge.Proofs.Rule.Loading

/-! Rules that recognise every group. A rule without group affixes would do so and is not loaded; yet
the group prefix is recognised without its wiki, so a loaded rule whose affixes name a wiki and nothing
else recognises every group too, and takes away all that is neither granted nor joined. Any other loaded
rule leaves some group alone. -/

namespace IdentityBridge.Rule

variable {r : Rule} {space : String}

/-- The group affixes name a wiki and nothing else. -/
def NamesOnlyWiki (r : Rule) : Prop :=
  r.groupSuffix = "" ∧ ∃ wiki : String, ':' ∉ wiki.toList ∧ r.groupPrefix = wiki ++ ":"

theorem unqualifiedPrefix_eq_empty : r.unqualifiedPrefix = "" ↔
    r.groupPrefix = "" ∨ ∃ wiki : String, ':' ∉ wiki.toList ∧ r.groupPrefix = wiki ++ ":" := by
  unfold unqualifiedPrefix Text.Cut.first
  constructor
  · intro h
    cases hc : Text.cutFirst ':' r.groupPrefix.toList with
    | none =>
      rw [hc] at h
      exact .inl h
    | some parts =>
      obtain ⟨before, after⟩ := parts
      rw [hc] at h
      obtain ⟨hp, hn⟩ := Text.cutFirst_eq_some hc
      have ha : after = [] := by simpa using h
      subst ha
      refine .inr ⟨String.ofList before, by simpa using hn, ?_⟩
      rw [← String.toList_inj, hp]
      simp
  · rintro (h | ⟨wiki, hn, h⟩)
    · rw [h]
      rfl
    · have hp : r.groupPrefix.toList = wiki.toList ++ ':' :: [] := by
        rw [h]
        simp
      rw [hp, Text.cutFirst_append hn]
      rfl

/-! ### Groups that no rule of other affixes recognises -/

/-- There is always another letter. -/
theorem exists_letter_ne (c : Char) : ∃ c', c' ≠ c ∧ Reference.escape [c'] = [c'] := by
  by_cases h : c = 'a'
  · exact ⟨'b', by simp [h], rfl⟩
  · exact ⟨'a', Ne.symm h, rfl⟩

/-- The page named by a letter, in two spaces named by it as well. -/
def marked (c : Char) : Reference where
  wiki := ""
  spaces := [String.singleton c, String.singleton c]
  name := String.singleton c

theorem matchesGroup_marked {c : Char} (hc : Reference.escape [c] = [c]) :
    r.matchesGroup (marked c) space = true ↔
      r.unqualifiedPrefix.toList <+: [c, '.', c, '.', c] ∧
        r.groupSuffix.toList <:+ [c, '.', c, '.', c] := by
  have hl : (marked c).localForm = String.ofList [c, '.', c, '.', c] := by
    simp [marked, Reference.localForm, Reference.localChars, hc, List.intercalate]
  have hn : (marked c).spaces ≠ [space] := by simp [marked]
  simp [matchesGroup, candidates, hn, hl, recognizes]

theorem exists_unmatched (h : ¬ (r.unqualifiedPrefix = "" ∧ r.groupSuffix = "")) (space : String) :
    ∃ g, r.matchesGroup g space = false := by
  have nonempty {s : String} (hs : s ≠ "") : s.toList ≠ [] := by simpa using hs
  by_cases hp : r.unqualifiedPrefix = ""
  · -- the suffix is not empty, and the page ends with a letter that the suffix does not end with
    have hs := nonempty fun hs => h ⟨hp, hs⟩
    obtain ⟨init, last, hl⟩ := (List.eq_nil_or_concat _).resolve_left hs
    obtain ⟨c, hne, hc⟩ := exists_letter_ne last
    refine ⟨marked c, Bool.eq_false_iff.2 fun hm => ?_⟩
    obtain ⟨-, front, hback⟩ := (matchesGroup_marked hc).1 hm
    have hends := congrArg List.getLast? hback
    rw [hl, List.concat_eq_append, ← List.append_assoc, List.getLast?_concat] at hends
    exact hne (Option.some.inj hends).symm
  · obtain ⟨first, rest, hf⟩ := List.exists_cons_of_ne_nil (nonempty hp)
    obtain ⟨c, hne, hc⟩ := exists_letter_ne first
    refine ⟨marked c, Bool.eq_false_iff.2 fun hm => ?_⟩
    obtain ⟨⟨back, hfront⟩, -⟩ := (matchesGroup_marked hc).1 hm
    rw [hf, List.cons_append, List.cons.injEq] at hfront
    exact hne hfront.1.symm

theorem matchesGroup_of_namesOnlyWiki (h : r.NamesOnlyWiki) (g : Reference) (space : String) :
    r.matchesGroup g space = true := by
  have hp : r.unqualifiedPrefix = "" := unqualifiedPrefix_eq_empty.2 (.inr h.2)
  have hall (name : String) : r.recognizes name = true := by simp [recognizes, hp, h.1]
  simp [matchesGroup, candidates, hall]

/-- A safe rule leaves some group alone unless its affixes name only a wiki. -/
theorem exists_unmatched_iff (hs : r.isUnsafe = false) (space : String) :
    (∃ g, r.matchesGroup g space = false) ↔ ¬ r.NamesOnlyWiki := by
  constructor
  · rintro ⟨g, hg⟩ h
    rw [matchesGroup_of_namesOnlyWiki h] at hg
    cases hg
  · intro h
    apply exists_unmatched
    rintro ⟨hp, hsuffix⟩
    rcases unqualifiedPrefix_eq_empty.1 hp with he | hw
    · simp [isUnsafe, he, hsuffix] at hs
    · exact h ⟨hsuffix, hw⟩

end IdentityBridge.Rule

namespace IdentityBridge.Entitlement

open Rule

variable {c : Configuration} {rules : List Rule} {rule : Rule}

/-- A loaded rule leaves some group alone, whatever the default space, unless its affixes name only a
wiki. If they do, the user is taken out of every group that is neither granted nor joined. -/
theorem loaded_recognizes (h : c.rules? = some rules) (hr : rule ∈ rules) :
    (∀ space, (∃ g, rule.matchesGroup g space = false) ↔ ¬ rule.NamesOnlyWiki) ∧
    (rule.NamesOnlyWiki → ∀ δ current, ∀ g ∈ current, g ∉ δ.granted → g ∉ δ.added →
      g ∈ (dropLost c rules current δ).leaves) := by
  refine ⟨exists_unmatched_iff (Configuration.isUnsafe_of_loaded h hr), ?_⟩
  intro hw δ current g hg hgranted hadded
  obtain ⟨leaves, he, hl⟩ := dropLost_eq c rules current δ
  rw [he, hl]
  have hlooks : looksDerived c rules g = true :=
    List.any_eq_true.2 ⟨rule, hr, matchesGroup_of_namesOnlyWiki hw g _⟩
  exact .inr ⟨hg, hlooks, hgranted, hadded⟩

/-! ### An example -/

/-- The groups of teams are to lie in the main wiki, and nothing more is said of their names. -/
def hollow : Configuration :=
  .ofSettings { properties := .ofList [
    ("authentication.trusted.dynamicRole.configurations", "all"),
    ("authentication.trusted.dynamicRole.configuration.all.rolePrefix", "team-"),
    ("authentication.trusted.dynamicRole.configuration.all.groupPrefix", "xwiki:")] }

theorem all_owner : Configuration.ruleOwner "all" = "dynamicRole.configuration.all." := by rfl

theorem all_values : hollow.ruleValues "all" none =
    { name := "all", rolePrefix := "team-", groupPrefix := "xwiki:" } := by
  simp only [Configuration.ruleValues, all_owner, String.reduceAppend]
  cbv

theorem all_page : hollow.properties.getD
    (Configuration.ruleOwner "all" ++ Configuration.fieldOwner ++ "page") "" = "" := by
  simp only [Configuration.fieldOwner, all_owner, String.reduceAppend]
  cbv

theorem all_property : hollow.properties.getD
    (Configuration.ruleOwner "all" ++ Configuration.fieldOwner ++ "propertyName") "" = "" := by
  simp only [Configuration.fieldOwner, all_owner, String.reduceAppend]
  cbv

theorem hollow_rules : ∃ rule, hollow.rules? = some [rule] ∧ rule.NamesOnlyWiki := by
  have hn : hollow.ruleNames = ["all"] := by cbv
  have hg : hollow.generalField = .ok none := by cbv
  refine ⟨.ofAffixes { name := "all", rolePrefix := "team-", groupPrefix := "xwiki:" } rfl, ?_,
    rfl, "xwiki", by decide, rfl⟩
  exact Configuration.rules?_of_lone hn hg all_page all_property rfl all_values (by decide)

/-- A rule is loaded that no group escapes. -/
theorem hollow_wildcard : ∃ rule, hollow.rules? = some [rule] ∧
    ∀ g space, rule.matchesGroup g space = true := by
  obtain ⟨rule, hr, hw⟩ := hollow_rules
  exact ⟨rule, hr, matchesGroup_of_namesOnlyWiki hw⟩

/-- It takes a user out of whatever groups there are. -/
theorem hollow_strips : ∃ rule, hollow.rules? = some [rule] ∧ rule ∈ [rule] ∧
    ∀ current, ∀ g ∈ current, g ∈ (dropLost hollow [rule] current {}).leaves := by
  obtain ⟨rule, hr, hw⟩ := hollow_rules
  have hm : rule ∈ [rule] := List.mem_singleton.2 rfl
  exact ⟨rule, hr, hm, fun current g hg => (loaded_recognizes hr hm).2 hw {} current g hg
    List.not_mem_nil (by simp)⟩

end IdentityBridge.Entitlement
