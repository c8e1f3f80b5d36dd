import IdentityBridge.Proofs.Rule.Loading
import IdentityBridge.Proofs.Rule.Recognition

/-! Rules that swap affixes. A role that such a rule applies to is the role affixes around a radical, and the
name of its group is the group affixes around the same radical, so that different roles have groups of
different names. Where the name has no escapes, and no colon but perhaps one that ends the wiki of the group
prefix, the rule recognises the group that is read from it, whatever completes the name. -/

namespace IdentityBridge.Rule

open Reference

variable {r : Rule} {role role' radical : String}

/-! ### Radicals -/

/-- A text has its affixes exactly when it is the affixes around a middle. -/
theorem hasAffixes_iff {front back text : List Char} :
    hasAffixes front back text = true ↔ ∃ middle, text = front ++ middle ++ back := by
  simp only [hasAffixes, Bool.and_eq_true, List.isPrefixOf_iff_prefix, List.isSuffixOf_iff_suffix,
    decide_eq_true_eq]
  constructor
  · rintro ⟨⟨⟨rest, rfl⟩, hback⟩, hlength⟩
    rw [List.length_append] at hlength
    -- the suffix is no longer than what follows the prefix
    obtain ⟨middle, rfl⟩ : back <:+ rest :=
      List.suffix_of_suffix_length_le hback (List.suffix_append _ _) (by omega)
    exact ⟨middle, (List.append_assoc _ _ _).symm⟩
  · rintro ⟨middle, rfl⟩
    refine ⟨⟨⟨middle ++ back, (List.append_assoc _ _ _).symm⟩, ⟨front ++ middle, rfl⟩⟩, ?_⟩
    simp only [List.length_append]
    omega

theorem exists_middle_iff {front back text : String} :
    (∃ middle, text.toList = front.toList ++ middle ++ back.toList) ↔
      ∃ middle, text = front ++ middle ++ back := by
  constructor
  · rintro ⟨middle, h⟩
    refine ⟨String.ofList middle, ?_⟩
    apply String.toList_inj.1
    rw [h, String.toList_append, String.toList_append, String.toList_ofList]
  · rintro ⟨middle, rfl⟩
    exact ⟨middle.toList, by rw [String.toList_append, String.toList_append]⟩

theorem radical_affixed (r : Rule) (radical : String) :
    r.radical (r.rolePrefix ++ radical ++ r.roleSuffix) = radical.toList := by
  have hend : endBefore (r.rolePrefix ++ radical ++ r.roleSuffix).length r.roleSuffix.length =
      (r.rolePrefix.toList ++ radical.toList).length := by
    simp only [endBefore, String.length_append, List.length_append, String.length_toList]
    rw [if_pos (by omega)]
    omega
  rw [Rule.radical, hend, String.toList_append, String.toList_append, List.take_left,
    List.drop_left' String.length_toList]

/-- The affixes are swapped around the radical. -/
theorem affixName_affixed (r : Rule) (radical : String) :
    r.affixName (r.rolePrefix ++ radical ++ r.roleSuffix) =
      r.groupPrefix ++ radical ++ r.groupSuffix := by
  apply String.toList_inj.1
  rw [affixName, radical_affixed, String.toList_ofList, String.toList_append, String.toList_append]

/-! ### Roles -/

theorem pattern_eq_some {p : Pattern} :
    r.pattern = some p ↔ r.rolePattern ≠ "" ∧ Pattern.read? r.rolePattern r.characters = some p := by
  rw [r.read_pattern]
  by_cases h : r.rolePattern = "" <;> simp [h]

theorem all_pattern_iff : (r.pattern.all fun p => (p.matchWhole? role).isSome) = true ↔
    (r.rolePattern ≠ "" →
      ∃ p, Pattern.read? r.rolePattern r.characters = some p ∧ (p.matchWhole? role).isSome = true) := by
  cases hp : r.pattern with
  | none =>
    have he : r.rolePattern = "" := Decidable.byContradiction fun hne => by
      have hsome := r.isSome_pattern hne
      rw [hp] at hsome
      cases hsome
    simp [he]
  | some p =>
    obtain ⟨hne, hread⟩ := pattern_eq_some.1 hp
    simp [hne, hread]

/-- A rule with a condition applies to a role that its affixes fit in without overlap, and that its pattern,
if it has one, matches as a whole. -/
theorem matchesRole_iff : r.matchesRole role = true ↔
    (r.rolePrefix ≠ "" ∨ r.roleSuffix ≠ "" ∨ r.rolePattern ≠ "") ∧
    (∃ radical, role = r.rolePrefix ++ radical ++ r.roleSuffix) ∧
    (r.rolePattern ≠ "" →
      ∃ p, Pattern.read? r.rolePattern r.characters = some p ∧ (p.matchWhole? role).isSome = true) := by
  have hcondition : (!(r.rolePrefix = "" && r.roleSuffix = "" && r.rolePattern = "")) = true ↔
      (r.rolePrefix ≠ "" ∨ r.roleSuffix ≠ "" ∨ r.rolePattern ≠ "") := by
    simp [or_assoc]
  rw [matchesRole, Bool.and_eq_true, Bool.and_eq_true, hcondition, hasAffixes_iff, exists_middle_iff,
    all_pattern_iff, and_assoc]

/-- A role that the rule applies to has a radical, and so has the name of its group. -/
theorem exists_radical (ha : r.rolePattern = "" ∨ r.replacement = "") (hm : r.matchesRole role = true) :
    ∃ radical, role = r.rolePrefix ++ radical ++ r.roleSuffix ∧
      r.groupName role = .ok (r.groupPrefix ++ radical ++ r.groupSuffix) := by
  obtain ⟨-, ⟨radical, rfl⟩, -⟩ := matchesRole_iff.1 hm
  exact ⟨radical, rfl, by rw [groupName_of_affixed ha, affixName_affixed]⟩

theorem groupName_ne (ha : r.rolePattern = "" ∨ r.replacement = "") (hm : r.matchesRole role = true)
    (hm' : r.matchesRole role' = true) (hne : role ≠ role') : r.groupName role ≠ r.groupName role' := by
  obtain ⟨radical, rfl, hg⟩ := exists_radical ha hm
  obtain ⟨radical', rfl, hg'⟩ := exists_radical ha hm'
  rw [hg, hg']
  intro he
  have hr : radical = radical' := by
    simpa only [Except.ok.injEq, String.append_left_inj, String.append_right_inj] using he
  exact hne (by rw [hr])

/-- A rule that swaps affixes applies to the roles that are its role affixes around some radical, have some
condition to fulfil and fulfil that of the pattern. The names of their groups are the group affixes around
the same radicals, and they are different. A plain rule recognises the group of a radical without escapes
and colons by the space that completed its name. -/
theorem affixes_swapped (ha : r.rolePattern = "" ∨ r.replacement = "") :
    (∀ role, r.matchesRole role = true ↔
      (r.rolePrefix ≠ "" ∨ r.roleSuffix ≠ "" ∨ r.rolePattern ≠ "") ∧
      (∃ radical, role = r.rolePrefix ++ radical ++ r.roleSuffix) ∧
      (r.rolePattern ≠ "" →
        ∃ p, Pattern.read? r.rolePattern r.characters = some p ∧ (p.matchWhole? role).isSome = true)) ∧
    (∀ role, r.matchesRole role = true → ∃ radical,
      role = r.rolePrefix ++ radical ++ r.roleSuffix ∧
      r.groupName role = .ok (r.groupPrefix ++ radical ++ r.groupSuffix) ∧
      (r.Plain → Dotted radical.toList → ∀ wiki space : String, r.matchesGroup
        (resolve (r.groupPrefix ++ radical ++ r.groupSuffix) wiki space) space = true)) ∧
    (∀ role role', r.matchesRole role = true → r.matchesRole role' = true → role ≠ role' →
      r.groupName role ≠ r.groupName role') := by
  refine ⟨fun role => matchesRole_iff, fun role hm => ?_, fun role role' => groupName_ne ha⟩
  obtain ⟨radical, rfl, hg⟩ := exists_radical ha hm
  refine ⟨radical, rfl, hg, fun hplain hradical wiki space => ?_⟩
  rw [← affixName_affixed]
  exact hplain.matchesGroup_resolve (by rwa [radical_affixed]) wiki space

/-! ### An example -/

/-- Whoever administers a project belongs to a group of the project. -/
def projectRule : Rule :=
  .ofAffixes { name := "project", rolePrefix := "proj-", roleSuffix := "-admin",
               groupPrefix := "xwiki:Projects.P", groupSuffix := "-Admins" } rfl

theorem projectRule_plain : projectRule.Plain := by
  refine ⟨.inl rfl, by decide, by decide, fun front back h => ?_, ⟨by decide, by decide⟩⟩
  have hcut : Text.cutFirst ':' projectRule.groupPrefix.toList =
      some ("xwiki".toList, "Projects.P".toList) := by decide
  have hfront : ':' ∉ front := fun hm => by
    have hcount := congrArg (List.count ':') h
    rw [List.count_append, List.count_cons_self] at hcount
    have hone : projectRule.groupPrefix.toList.count ':' = 1 := by decide
    have hpos := List.count_pos_iff.2 hm
    omega
  rw [h, Text.cutFirst_append hfront] at hcut
  cases hcut
  decide

theorem projectRule_recognizes :
    projectRule.matchesRole "proj-4.2-admin" = true ∧
    projectRule.groupName "proj-4.2-admin" = .ok "xwiki:Projects.P4.2-Admins" ∧
    projectRule.matchesGroup (resolve "xwiki:Projects.P4.2-Admins" "farm" "XWiki") "XWiki" = true := by
  obtain ⟨happlies, hderives, -⟩ := affixes_swapped (r := projectRule) (.inl rfl)
  have hm : projectRule.matchesRole "proj-4.2-admin" = true :=
    (happlies _).2 ⟨.inl (by decide), ⟨"4.2", by decide⟩, fun h => absurd rfl h⟩
  obtain ⟨radical, hrole, hg, hmatches⟩ := hderives _ hm
  have hradical : radical = "4.2" := by
    have h : projectRule.rolePrefix ++ "4.2" ++ projectRule.roleSuffix =
        projectRule.rolePrefix ++ radical ++ projectRule.roleSuffix := hrole
    simpa only [String.append_left_inj, String.append_right_inj, eq_comm] using h
  subst hradical
  exact ⟨hm, hg, hmatches projectRule_plain ⟨by decide, by decide⟩ "farm" "XWiki"⟩

end IdentityBridge.Rule
