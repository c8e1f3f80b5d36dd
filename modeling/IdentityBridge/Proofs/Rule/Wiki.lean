import IdentityBridge.Proofs.Rule.Affixes

/-! The wiki of a derived group. The name of a group is read as a reference, and the radical of a role is a part
of the name as it is. Where the group affixes say nothing of a wiki, the radical may: what stands before its
first colon names a wiki together with the group prefix, unless a dot comes before. So a group lies in the
completing wiki when the radical has no colon, or when the prefix has a dot. -/

namespace IdentityBridge

namespace Reference

variable {front back : List Char}

/-- The wiki that a text says. -/
def wikiPart (cs : List Char) : Option (List Char) := (cutWiki (marks cs)).map Prod.fst

theorem scan_wiki (text : String) :
    (Parts.scan text).wiki = (wikiPart text.toList).map String.ofList := by
  unfold wikiPart
  cases h : cutWiki (marks text.toList) <;> simp only [Parts.scan, h] <;> rfl

theorem wikiPart_dot (cs : List Char) : wikiPart ('.' :: cs) = none := by
  rw [wikiPart, marks_dot]
  rfl

theorem wikiPart_colon (cs : List Char) : wikiPart (':' :: cs) = some [] := by
  rw [wikiPart, marks_colon]
  rfl

theorem map_fst_cutWiki_letter (c : Char) (ms : List Mark) :
    (cutWiki (.letter c :: ms)).map Prod.fst = ((cutWiki ms).map Prod.fst).map (c :: ·) := by
  rw [cutWiki, Option.map_map, Option.map_map]
  rfl

theorem wikiPart_letter {c : Char} (h : ¬ (c = '\\' ∨ c = '.' ∨ c = ':')) (cs : List Char) :
    wikiPart (c :: cs) = (wikiPart cs).map (c :: ·) := by
  rw [not_or, not_or] at h
  rw [wikiPart, marks_cons cs h.1 h.2.1 h.2.2, map_fst_cutWiki_letter]
  rfl

theorem wikiPart_escaped (c : Char) (cs : List Char) :
    wikiPart ('\\' :: c :: cs) = (wikiPart cs).map (c :: ·) := by
  rw [wikiPart, marks, map_fst_cutWiki_letter]
  rfl

theorem wikiPart_of_no_colon {cs : List Char} (h : ':' ∉ cs) : wikiPart cs = none := by
  fun_induction marks cs with
  | case1 => rfl
  | case2 c rest ih =>
    rw [wikiPart_escaped, ih fun hc => h (List.mem_cons_of_mem _ (List.mem_cons_of_mem _ hc))]
    rfl
  | case3 rest hlast =>
    cases rest with
    | nil => rfl
    | cons c rest => exact (hlast c rest rfl rfl).elim
  | case4 rest => exact absurd List.mem_cons_self h
  | case5 rest => exact wikiPart_dot rest
  | case6 c rest _ hb hc hd ih =>
    rw [wikiPart_letter (by simp [hb, hc, hd]), ih fun hc => h (List.mem_cons_of_mem _ hc)]
    rfl

/-- What follows says nothing of the wiki if it has no colon. -/
theorem wikiPart_append (h : ':' ∉ back) (cs : List Char) : wikiPart (cs ++ back) = wikiPart cs := by
  fun_induction marks cs with
  | case1 => exact wikiPart_of_no_colon h
  | case2 c rest ih => rw [List.cons_append, List.cons_append, wikiPart_escaped, wikiPart_escaped, ih]
  | case3 rest hlast =>
    cases rest with
    | cons c rest => exact (hlast c rest rfl rfl).elim
    | nil =>
      -- a backslash at the end of the text takes the meaning of what follows
      cases back with
      | nil => rfl
      | cons c back =>
        change wikiPart ('\\' :: c :: back) = none
        rw [wikiPart_escaped, wikiPart_of_no_colon fun hc => h (List.mem_cons_of_mem _ hc)]
        rfl
  | case4 rest => rw [List.cons_append, wikiPart_colon, wikiPart_colon]
  | case5 rest => rw [List.cons_append, wikiPart_dot, wikiPart_dot]
  | case6 c rest _ hb hc hd ih =>
    have hletter : ¬ (c = '\\' ∨ c = '.' ∨ c = ':') := by simp [hb, hc, hd]
    rw [List.cons_append, wikiPart_letter hletter, wikiPart_letter hletter, ih]

/-- A wiki that is said behind a text is said together with it, but not behind a dot. -/
theorem append_wikiPart (h : Dotted front) (cs : List Char) : wikiPart (front ++ cs) =
    if '.' ∈ front then none else (wikiPart cs).map (front ++ ·) := by
  induction front with
  | nil => simp
  | cons c front ih =>
    by_cases hd : c = '.'
    · subst hd
      rw [List.cons_append, wikiPart_dot, if_pos List.mem_cons_self]
    · rw [List.cons_append, wikiPart_letter (h.letter hd), ih h.tail]
      by_cases hf : '.' ∈ front
      · rw [if_pos hf, if_pos (List.mem_cons_of_mem _ hf)]
        rfl
      · rw [if_neg hf, if_neg (by simp [hf, Ne.symm hd]), Option.map_map]
        rfl

end Reference

namespace Rule

open Reference

variable {r : Rule} {role : String}

/-- The wiki that a radical says behind the group prefix. -/
def chosenWiki (r : Rule) (radical : String) : Option String :=
  if '.' ∈ r.groupPrefix.toList then none
  else (Parts.scan radical).wiki.map (r.groupPrefix ++ ·)

theorem scan_affixed (hp : Dotted r.groupPrefix.toList) (hs : ':' ∉ r.groupSuffix.toList)
    (radical : String) :
    (Parts.scan (r.groupPrefix ++ radical ++ r.groupSuffix)).wiki = r.chosenWiki radical := by
  rw [scan_wiki, String.toList_append, String.toList_append, wikiPart_append hs, append_wikiPart hp,
    chosenWiki, scan_wiki]
  by_cases hd : '.' ∈ r.groupPrefix.toList
  · rw [if_pos hd, if_pos hd]
    rfl
  · rw [if_neg hd, if_neg hd, Option.map_map, Option.map_map]
    congr 1
    funext wiki
    simp

theorem wiki_resolve (text wiki space : String) :
    (resolve text wiki space).wiki = ((Parts.scan text).wiki.filter (· ≠ "")).getD wiki := by
  have hwiki : (resolve text wiki space).wiki = (Parts.scan text).wikiOr wiki := by
    unfold resolve Parts.complete
    split <;> rfl
  rw [hwiki, Parts.wikiOr]
  cases (Parts.scan text).wiki with
  | none => rfl
  | some w => by_cases hw : w = "" <;> simp [Option.filter, hw]

theorem chosenWiki_of_no_colon {radical : String} (h : ':' ∉ radical.toList) :
    r.chosenWiki radical = none := by
  rw [chosenWiki, scan_wiki, wikiPart_of_no_colon h]
  split <;> rfl

/-- Before the first colon of the radical stands a wiki, if no dot comes before. -/
theorem chosenWiki_of_colon (hd : '.' ∉ r.groupPrefix.toList) {w : String} (hw : Dotted w.toList)
    (hdot : '.' ∉ w.toList) (rest : String) :
    r.chosenWiki (w ++ ":" ++ rest) = some (r.groupPrefix ++ w) := by
  have hpart : wikiPart (w ++ ":" ++ rest).toList = some w.toList := by
    rw [String.toList_append, String.toList_append, List.append_assoc, append_wikiPart hw, if_neg hdot]
    change (wikiPart (':' :: rest.toList)).map _ = _
    rw [wikiPart_colon, Option.map_some, List.append_nil]
  rw [chosenWiki, if_neg hd, scan_wiki, hpart, Option.map_some, Option.map_some, String.ofList_toList]

/-- The group of a role lies in the completing wiki, unless the radical of the role chooses another one behind
a group prefix without dots. It chooses none where it has no colon; and where a text without dots comes before
its first colon, it chooses the wiki named by the prefix and this text. -/
theorem role_chooses_wiki (ha : r.rolePattern = "" ∨ r.replacement = "")
    (hp : Dotted r.groupPrefix.toList) (hs : ':' ∉ r.groupSuffix.toList)
    (hm : r.matchesRole role = true) (wiki space : String) :
    ∃ radical name, role = r.rolePrefix ++ radical ++ r.roleSuffix ∧ r.groupName role = .ok name ∧
      (resolve name wiki space).wiki = ((r.chosenWiki radical).filter (· ≠ "")).getD wiki ∧
      (':' ∉ radical.toList ∨ '.' ∈ r.groupPrefix.toList → (resolve name wiki space).wiki = wiki) ∧
      ∀ w rest : String, radical = w ++ ":" ++ rest → Dotted w.toList → '.' ∉ w.toList →
        '.' ∉ r.groupPrefix.toList → r.chosenWiki radical = some (r.groupPrefix ++ w) := by
  obtain ⟨radical, rfl, hg⟩ := exists_radical ha hm
  have hwiki : (resolve (r.groupPrefix ++ radical ++ r.groupSuffix) wiki space).wiki =
      ((r.chosenWiki radical).filter (· ≠ "")).getD wiki := by
    rw [wiki_resolve, scan_affixed hp hs]
  refine ⟨radical, _, rfl, hg, hwiki, fun h => ?_, ?_⟩
  · have hnone : r.chosenWiki radical = none := by
      rcases h with hc | hd
      · exact chosenWiki_of_no_colon hc
      · exact if_pos hd
    rw [hwiki, hnone]
    rfl
  · rintro w rest rfl hw hdot hd
    exact chosenWiki_of_colon hd hw hdot rest

/-! ### An example -/

/-- Whoever has the role of a guild belongs to the group of the guild. -/
def guildRule : Rule := .ofAffixes { name := "guild", rolePrefix := "guild-", groupSuffix := "Group" } rfl

theorem guild_applies (radical : String) : guildRule.matchesRole ("guild-" ++ radical) = true :=
  matchesRole_iff.2 ⟨.inl (by decide), ⟨radical, by simp [guildRule, ofAffixes]⟩, fun h => absurd rfl h⟩

/-- Bakers have their group in the completing wiki. -/
theorem bakers_confined : guildRule.matchesRole "guild-Bakers" = true ∧
    ∃ name, guildRule.groupName "guild-Bakers" = .ok name ∧
      (resolve name "xwiki" "XWiki").wiki = "xwiki" := by
  have hm : guildRule.matchesRole "guild-Bakers" = true := guild_applies "Bakers"
  obtain ⟨radical, name, hrole, hg, -, hconfined, -⟩ := role_chooses_wiki (r := guildRule) (.inl rfl)
    ⟨by decide, by decide⟩ (by decide) hm "xwiki" "XWiki"
  have hcolon : ':' ∉ radical.toList := fun h => by
    have hin : ':' ∈ "guild-Bakers".toList := by
      rw [hrole, String.toList_append, String.toList_append]
      exact List.mem_append_left _ (List.mem_append_right _ h)
    exact absurd hin (by decide)
  exact ⟨hm, name, hg, hconfined (.inl hcolon)⟩

/-- A role can put its holder among the administrators of another wiki. -/
theorem admins_elsewhere : guildRule.rolePattern = "" ∧ Dotted guildRule.groupPrefix.toList ∧
    Dotted guildRule.groupSuffix.toList ∧ guildRule.matchesRole "guild-sub:XWikiAdmin" = true ∧
    guildRule.groupName "guild-sub:XWikiAdmin" = .ok "sub:XWikiAdminGroup" ∧
    resolve "sub:XWikiAdminGroup" "xwiki" "XWiki" = .inSpace "sub" "XWiki" "XWikiAdminGroup" :=
  ⟨rfl, ⟨by decide, by decide⟩, ⟨by decide, by decide⟩, guild_applies "sub:XWikiAdmin", by rfl,
    by decide⟩

end Rule

end IdentityBridge
