import IdentityBridge.Proofs.Rule.Affixes
import IdentityBridge.Proofs.Rule.Wildcard

/-! Names in which the group affixes of a rule overlap. A rule recognises the names that are its affixes around
a radical, as the names of its groups are. It also recognises shorter ones, in which the end of the prefix is
the start of the suffix; no role has a group of such a name. So a user is taken out of groups that are none of
the rule, unless its affixes have nothing in common where they meet. -/

namespace IdentityBridge.Rule

variable {r : Rule} {name space : String} {g : Reference}

/-- A text starts with one text and ends with another exactly when something stands between them, or when
they overlap in it. -/
theorem prefix_and_suffix_iff {front back text : List Char} :
    front <+: text ∧ back <:+ text ↔
      (∃ middle, text = front ++ middle ++ back) ∨
      ∃ start shared rest, shared ≠ [] ∧ front = start ++ shared ∧ back = shared ++ rest ∧
        text = start ++ shared ++ rest := by
  constructor
  · rintro ⟨⟨rest, rfl⟩, ⟨start, h⟩⟩
    -- the prefix ends before the suffix starts, or the suffix starts inside of the prefix
    rcases List.append_eq_append_iff.1 h with ⟨shared, rfl, rfl⟩ | ⟨middle, rfl, rfl⟩
    · by_cases hs : shared = []
      · subst hs
        exact .inl ⟨[], by simp⟩
      · exact .inr ⟨start, shared, rest, hs, rfl, rfl, rfl⟩
    · exact .inl ⟨middle, by rw [List.append_assoc]⟩
  · rintro (⟨middle, rfl⟩ | ⟨start, shared, rest, -, rfl, rfl, rfl⟩)
    · exact ⟨⟨middle ++ back, by rw [List.append_assoc]⟩, ⟨front ++ middle, rfl⟩⟩
    · exact ⟨⟨rest, rfl⟩, ⟨start, by rw [List.append_assoc]⟩⟩

/-- The name is the group affixes around a radical. -/
def Affixed (r : Rule) (name : String) : Prop :=
  ∃ radical, name = r.unqualifiedPrefix ++ radical ++ r.groupSuffix

/-- The group prefix ends with what the group suffix starts with, and the name has this only once. -/
def Overlapped (r : Rule) (name : String) : Prop :=
  ∃ front shared back, shared ≠ "" ∧ r.unqualifiedPrefix = front ++ shared ∧
    r.groupSuffix = shared ++ back ∧ name = front ++ shared ++ back

/-- The group prefix ends with nothing that the group suffix starts with. -/
def MeetsApart (r : Rule) : Prop :=
  ∀ front shared back, r.unqualifiedPrefix = front ++ shared → r.groupSuffix = shared ++ back →
    shared = ""

/-- The name is the local form of the group, or its page name if the group lies directly in the default
space. -/
def NamedBy (g : Reference) (space name : String) : Prop :=
  name = g.localForm ∨ g.spaces = [space] ∧ name = g.name

theorem overlapped_iff : r.Overlapped name ↔ ∃ start shared rest, shared ≠ [] ∧
    r.unqualifiedPrefix.toList = start ++ shared ∧ r.groupSuffix.toList = shared ++ rest ∧
      name.toList = start ++ shared ++ rest := by
  constructor
  · rintro ⟨front, shared, back, hne, hp, hs, rfl⟩
    refine ⟨front.toList, shared.toList, back.toList, by simpa using hne, ?_, ?_, ?_⟩
    · rw [hp, String.toList_append]
    · rw [hs, String.toList_append]
    · rw [String.toList_append, String.toList_append]
  · rintro ⟨start, shared, rest, hne, hp, hs, hname⟩
    refine ⟨String.ofList start, String.ofList shared, String.ofList rest, by simpa using hne, ?_, ?_, ?_⟩
    · rw [← String.ofList_append, ← hp, String.ofList_toList]
    · rw [← String.ofList_append, ← hs, String.ofList_toList]
    · rw [← String.ofList_append, ← String.ofList_append, ← hname, String.ofList_toList]

/-- A name in which the affixes overlap has no room for both of them. -/
theorem Overlapped.not_affixed (h : r.Overlapped name) : ¬ r.Affixed name := by
  obtain ⟨front, shared, back, hne, hp, hs, rfl⟩ := h
  rintro ⟨radical, h⟩
  have hlength := congrArg String.length h
  have hshared : shared.length ≠ 0 := mt String.length_eq_zero_iff.1 hne
  rw [hp, hs] at hlength
  simp only [String.length_append] at hlength
  omega

theorem MeetsApart.not_overlapped (h : r.MeetsApart) : ¬ r.Overlapped name := by
  rintro ⟨front, shared, back, hne, hp, hs, -⟩
  exact hne (h front shared back hp hs)

theorem exists_overlapped (h : ¬ r.MeetsApart) : ∃ name, r.Overlapped name := by
  simp only [MeetsApart, Classical.not_forall] at h
  obtain ⟨front, shared, back, hp, hs, hne⟩ := h
  exact ⟨_, front, shared, back, hne, hp, hs, rfl⟩

theorem recognizes_iff : r.recognizes name = true ↔ r.Affixed name ∨ r.Overlapped name := by
  rw [recognizes, Bool.and_eq_true, List.isPrefixOf_iff_prefix, List.isSuffixOf_iff_suffix,
    prefix_and_suffix_iff, exists_middle_iff, overlapped_iff]
  rfl

theorem mem_candidates : name ∈ candidates g space ↔ NamedBy g space name := by
  by_cases h : g.spaces = [space] <;> simp [candidates, NamedBy, h]

theorem matchesGroup_iff : r.matchesGroup g space = true ↔
    ∃ name, NamedBy g space name ∧ (r.Affixed name ∨ r.Overlapped name) := by
  simp only [matchesGroup, List.any_eq_true, recognizes_iff, mem_candidates]

/-! ### Groups that are none of the rule -/

/-- The page of a name in a space that is named by a letter. -/
def inLetter (c : Char) (name : String) : Reference := .inSpace "" (String.singleton c) name

/-- Where the affixes can overlap, a group that is none of the rule is recognised: its page name has the
affixes overlap, and its space is named by a letter that the prefix does not start with. -/
theorem exists_unaffixed (h : ¬ r.MeetsApart) :
    ∃ g space, r.matchesGroup g space = true ∧ ∀ name, NamedBy g space name → ¬ r.Affixed name := by
  obtain ⟨name, hname⟩ := exists_overlapped h
  obtain ⟨start, shared, -, hne, hp, -, -⟩ := overlapped_iff.1 hname
  obtain ⟨first, rest, hfirst⟩ : ∃ first rest, r.unqualifiedPrefix.toList = first :: rest := by
    apply List.exists_cons_of_ne_nil
    rw [hp]
    exact List.append_ne_nil_of_right_ne_nil _ hne
  obtain ⟨c, hc, hescape⟩ := exists_letter_ne first
  have hlocal : ¬ r.Affixed (inLetter c name).localForm := by
    rintro ⟨radical, he⟩
    have hhead := congrArg (·.toList.head?) he
    apply hc
    simpa [inLetter, Reference.inSpace, Reference.localForm, Reference.localChars, hescape, hfirst,
      List.intercalate] using hhead
  refine ⟨inLetter c name, String.singleton c, ?_, ?_⟩
  · exact matchesGroup_iff.2 ⟨name, .inr ⟨rfl, rfl⟩, .inr hname⟩
  · rintro name' (rfl | ⟨-, rfl⟩)
    · exact hlocal
    · exact hname.not_affixed

theorem lost_iff {c : Configuration} {rules : List Rule} {δ : Delta} :
    δ.Lost (Entitlement.looksDerived c rules) g ↔ g ∉ δ.granted ∧ g ∉ δ.added ∧ ∃ rule ∈ rules,
      ∃ name, NamedBy g c.userSpace name ∧ (rule.Affixed name ∨ rule.Overlapped name) := by
  rw [Delta.Lost, and_comm, and_assoc]
  simp only [Entitlement.looksDerived, List.any_eq_true, matchesGroup_iff]

/-- A rule recognises the groups whose local form, or page name in the default space, is its affixes around a
radical or has them overlap. All of them are its affixes around a radical exactly when the affixes meet apart.
The groups that a user is taken out of for the rules are those among the present ones that a rule recognises
and that are neither granted nor joined. -/
theorem removal_targets (r : Rule) (c : Configuration) (rules : List Rule) (current : List Reference)
    (δ : Delta) :
    (∀ g space, r.matchesGroup g space = true ↔
      ∃ name, NamedBy g space name ∧ (r.Affixed name ∨ r.Overlapped name)) ∧
    ((∀ g space, r.matchesGroup g space = true → ∃ name, NamedBy g space name ∧ r.Affixed name) ↔
      r.MeetsApart) ∧
    ∀ g, g ∈ (Entitlement.dropLost c rules current δ).leaves ↔ g ∈ δ.leaves ∨
      g ∈ current ∧ g ∉ δ.granted ∧ g ∉ δ.added ∧ ∃ rule ∈ rules,
        ∃ name, NamedBy g c.userSpace name ∧ (rule.Affixed name ∨ rule.Overlapped name) := by
  refine ⟨fun g space => matchesGroup_iff, ⟨fun h => ?_, fun h g space hm => ?_⟩, fun g => ?_⟩
  · refine Classical.byContradiction fun hapart => ?_
    obtain ⟨g, space, hm, hn⟩ := exists_unaffixed hapart
    obtain ⟨name, hname, ha⟩ := h g space hm
    exact hn name hname ha
  · obtain ⟨name, hname, ha⟩ := matchesGroup_iff.1 hm
    exact ⟨name, hname, ha.resolve_right h.not_overlapped⟩
  · obtain ⟨leaves, he, hl⟩ := Entitlement.dropLost_eq c rules current δ
    rw [he, hl, lost_iff]

/-! ### An example -/

/-- Whoever has a role of a crew belongs to the team of the crew. -/
def crews : Configuration :=
  .ofSettings { properties := .ofList [
    ("authentication.trusted.dynamicRole.configurations", "crew"),
    ("authentication.trusted.dynamicRole.configuration.crew.rolePrefix", "crew-"),
    ("authentication.trusted.dynamicRole.configuration.crew.groupPrefix", "Staff-"),
    ("authentication.trusted.dynamicRole.configuration.crew.groupSuffix", "-Team")] }

def crewRule : Rule :=
  .ofAffixes { name := "crew", rolePrefix := "crew-", groupPrefix := "Staff-", groupSuffix := "-Team" } rfl

theorem crew_owner : Configuration.ruleOwner "crew" = "dynamicRole.configuration.crew." := by rfl

theorem crew_values : crews.ruleValues "crew" none =
    { name := "crew", rolePrefix := "crew-", groupPrefix := "Staff-", groupSuffix := "-Team" } := by
  simp only [Configuration.ruleValues, crew_owner, String.reduceAppend]
  cbv

theorem crew_unnamed : crews.properties.getD
      (Configuration.ruleOwner "crew" ++ Configuration.fieldOwner ++ "page") "" = "" ∧
    crews.properties.getD
      (Configuration.ruleOwner "crew" ++ Configuration.fieldOwner ++ "propertyName") "" = "" := by
  simp only [Configuration.fieldOwner, crew_owner, String.reduceAppend]
  exact ⟨by cbv, by cbv⟩

theorem crews_load : crews.rules? = some [crewRule] := by
  have hn : crews.ruleNames = ["crew"] := by cbv
  have hg : crews.generalField = .ok none := by cbv
  exact Configuration.rules?_of_lone hn hg crew_unnamed.1 crew_unnamed.2 rfl crew_values (by decide)

/-- The team of the crew without a name, and a group of people who belong to no crew. -/
def namelessTeam : Reference := .inSpace "xwiki" "XWiki" "Staff--Team"

def staffTeam : Reference := .inSpace "xwiki" "XWiki" "Staff-Team"

/-- A user is taken out of the team of a crew. -/
theorem crew_leaves : crews.rules? = some [crewRule] ∧
    namelessTeam ∈ (Entitlement.dropLost crews [crewRule] [namelessTeam] {}).leaves := by
  obtain ⟨-, -, hleaves⟩ := removal_targets crewRule crews [crewRule] [namelessTeam] {}
  have haffixed : crewRule.Affixed "Staff--Team" := ⟨"", by decide⟩
  refine ⟨crews_load, (hleaves namelessTeam).2 (.inr ?_)⟩
  exact ⟨List.mem_cons_self, List.not_mem_nil, by simp, crewRule, List.mem_cons_self,
    "Staff--Team", .inr ⟨rfl, rfl⟩, .inl haffixed⟩

theorem staffTeam_overlapped : crewRule.Overlapped "Staff-Team" :=
  ⟨"Staff", "-", "Team", by decide, by decide, by decide, by decide⟩

/-- A user is also taken out of a group that is the team of no crew. -/
theorem staffTeam_lost : crews.rules? = some [crewRule] ∧ crewRule.rolePattern = "" ∧
    crewRule.matchesGroup staffTeam "XWiki" = true ∧
    (∀ name, NamedBy staffTeam "XWiki" name → ¬ crewRule.Affixed name) ∧
    staffTeam ∈ (Entitlement.dropLost crews [crewRule] [staffTeam] {}).leaves := by
  have hlocal : ¬ crewRule.Affixed staffTeam.localForm := fun h =>
    absurd (recognizes_iff.2 (.inl h)) (by decide)
  refine ⟨crews_load, rfl, by decide, ?_, by decide⟩
  rintro name (rfl | ⟨-, rfl⟩)
  · exact hlocal
  · exact staffTeam_overlapped.not_affixed

end IdentityBridge.Rule
