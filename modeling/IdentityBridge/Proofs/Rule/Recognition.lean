import IdentityBridge.Entitlement
import IdentityBridge.Proofs.Reference.RoundTrip

/-! Rules that recognise their own groups. A group is derived by reading a name as a reference, and it is
recognised by that reference written again without its wiki. Where neither the affixes nor the role hold
escapes, and there is no colon but perhaps one that ends the wiki of the prefix, what is written again is
the name that was read. So a rule without replacement recognises every group that it derives. -/

namespace IdentityBridge

namespace Reference

variable {cs cs' front : List Char} {c : Char} {text wiki space : String}

/-! ### Texts that are read as they are -/

/-- A text that reading does no more to than cutting it at its dots. -/
structure Dotted (cs : List Char) : Prop where
  unescaped : '\\' ∉ cs
  no_colon : ':' ∉ cs

theorem Dotted.tail (h : Dotted (c :: cs)) : Dotted cs :=
  ⟨fun hm => h.unescaped (List.mem_cons_of_mem _ hm), fun hm => h.no_colon (List.mem_cons_of_mem _ hm)⟩

theorem Dotted.append (h : Dotted cs) (h' : Dotted cs') : Dotted (cs ++ cs') :=
  ⟨fun hm => (List.mem_append.1 hm).elim h.unescaped h'.unescaped,
    fun hm => (List.mem_append.1 hm).elim h.no_colon h'.no_colon⟩

theorem Dotted.letter (h : Dotted (c :: cs)) (hd : c ≠ '.') : ¬ (c = '\\' ∨ c = '.' ∨ c = ':') := by
  rintro (rfl | rfl | rfl)
  · exact h.unescaped List.mem_cons_self
  · exact hd rfl
  · exact h.no_colon List.mem_cons_self

theorem escape_of_dotted (h : Dotted cs) (hd : '.' ∉ cs) : escape cs = cs := by
  induction cs with
  | nil => rfl
  | cons c rest ih =>
    rw [List.mem_cons, not_or] at hd
    rw [escape, if_neg (h.letter (Ne.symm hd.1)), ih h.tail hd.2]

theorem marks_of_letter (h : Dotted (c :: cs)) (hd : c ≠ '.') :
    marks (c :: cs) = .letter c :: marks cs := by
  have hl := h.letter hd
  rw [not_or, not_or] at hl
  exact marks_cons cs hl.1 hl.2.1 hl.2.2

theorem cutWiki_of_dotted (h : Dotted cs) : cutWiki (marks cs) = none := by
  induction cs with
  | nil => rfl
  | cons c rest ih =>
    by_cases hd : c = '.'
    · subst hd
      rw [marks_dot]
      rfl
    · rw [marks_of_letter h hd, cutWiki, ih h.tail]
      rfl

theorem segments_ne_nil (ms : List Mark) : segments ms ≠ [] := by
  have hextend (c : Char) (parts : List (List Char)) : Text.extendFirst c parts ≠ [] := by
    cases parts <;> simp [Text.extendFirst]
  cases ms with
  | nil => exact List.cons_ne_nil _ _
  | cons m ms =>
    cases m with
    | letter c => exact hextend c _
    | wikiEnd => exact hextend ':' _
    | spaceEnd => exact List.cons_ne_nil _ _

/-- Joined by dots, the parts of such a text are the text. -/
theorem intercalate_segments (h : Dotted cs) : ['.'].intercalate (segments (marks cs)) = cs := by
  induction cs with
  | nil => rfl
  | cons c rest ih =>
    have ih := ih h.tail
    obtain ⟨part, parts, hp⟩ := List.exists_cons_of_ne_nil (segments_ne_nil (marks rest))
    by_cases hd : c = '.'
    · subst hd
      rw [marks_dot, segments, hp, List.intercalate_cons_cons, ← hp, ih]
      rfl
    · rw [hp] at ih
      rw [marks_of_letter h hd, segments, hp, Text.extendFirst]
      cases parts with
      | nil =>
        rw [List.intercalate_singleton] at ih ⊢
        rw [ih]
      | cons next parts =>
        rw [List.intercalate_cons_cons] at ih ⊢
        rw [List.cons_append, List.cons_append, ih]

/-- The parts of such a text need no escapes. -/
theorem escape_segment (h : Dotted cs) {part : List Char} (hp : part ∈ segments (marks cs)) :
    escape part = part := by
  induction cs generalizing part with
  | nil =>
    rw [List.mem_singleton.1 hp]
    rfl
  | cons c rest ih =>
    by_cases hd : c = '.'
    · subst hd
      rw [marks_dot, segments] at hp
      rcases List.mem_cons.1 hp with rfl | hp
      · rfl
      · exact ih h.tail hp
    · obtain ⟨first, parts, hs⟩ := List.exists_cons_of_ne_nil (segments_ne_nil (marks rest))
      rw [marks_of_letter h hd, segments, hs, Text.extendFirst] at hp
      rw [hs] at ih
      rcases List.mem_cons.1 hp with rfl | hp
      · rw [escape, if_neg (h.letter hd), ih h.tail List.mem_cons_self]
      · exact ih h.tail (List.mem_cons_of_mem _ hp)

/-! ### Reading and writing again -/

/-- A text says a wiki and then `cs`, or `cs` alone. -/
def Qualifies (text cs : List Char) : Prop :=
  text = cs ∨ ∃ wiki, Dotted wiki ∧ '.' ∉ wiki ∧ text = wiki ++ ':' :: cs

/-- Reading cuts what follows the wiki at its dots. -/
theorem scan_of_qualifies (h : Dotted cs) (hq : Qualifies text.toList cs) :
    (Parts.scan text).path ++ [(Parts.scan text).name] =
      (segments (marks cs)).map String.ofList := by
  have hlast {parts : List String} (hn : parts ≠ []) :
      parts.dropLast ++ [parts.getLast?.getD ""] = parts := by
    rw [List.getLast?_eq_some_getLast hn, Option.getD_some, List.dropLast_concat_getLast]
  have hn : (segments (marks cs)).map String.ofList ≠ [] := by simpa using segments_ne_nil (marks cs)
  rcases hq with hq | ⟨front, hf, hd, hq⟩
  · simp only [Parts.scan, hq, cutWiki_of_dotted h]
    exact hlast hn
  · have hcut : cutWiki (marks (front ++ ':' :: cs)) = some (front, marks cs) := by
      have hm := marks_escape front (':' :: cs)
      rw [escape_of_dotted hf hd] at hm
      rw [hm, marks_colon, cutWiki_letters]
    simp only [Parts.scan, hq, hcut]
    exact hlast hn

theorem intercalate_concat {parts : List (List Char)} (h : parts ≠ []) (last : List Char) :
    ['.'].intercalate (parts ++ [last]) = ['.'].intercalate parts ++ '.' :: last := by
  induction parts with
  | nil => exact absurd rfl h
  | cons part rest ih =>
    cases rest with
    | nil =>
      rw [List.cons_append, List.nil_append, List.intercalate_cons_cons, List.intercalate_singleton,
        List.intercalate_singleton, List.append_assoc]
      rfl
    | cons next rest =>
      rw [List.cons_append, List.cons_append, List.intercalate_cons_cons, ← List.cons_append,
        ih (List.cons_ne_nil _ _), List.intercalate_cons_cons, List.append_assoc, List.append_assoc,
        List.append_assoc]

theorem localChars_eq (r : Reference) : r.localChars =
    ['.'].intercalate ((r.spaces ++ [r.name]).map fun part => escape part.toList) := by
  rw [List.map_append, List.map_singleton, intercalate_concat (by simpa using r.spaces_ne_nil)]
  rfl

/-- What has been read is written again, unless there was nothing but the name of a page. -/
theorem candidates_resolve (h : Dotted cs) (hq : Qualifies text.toList cs) :
    String.ofList cs ∈ Rule.candidates (resolve text wiki space) space := by
  have hscan := scan_of_qualifies h hq
  have hjoin := intercalate_segments h
  by_cases hp : (Parts.scan text).path = []
  · have hr : resolve text wiki space =
        ⟨(Parts.scan text).wikiOr wiki, [space], (Parts.scan text).name, by simp⟩ := by
      rw [resolve, Parts.complete, dif_pos hp]
    rw [hp, List.nil_append] at hscan
    obtain ⟨part, hpart, hname⟩ := List.map_eq_singleton_iff.1 hscan.symm
    rw [hpart, List.intercalate_singleton] at hjoin
    rw [Rule.candidates, hr, if_pos rfl, ← hname, hjoin]
    exact List.mem_cons_of_mem _ (List.mem_singleton.2 rfl)
  · have hr : resolve text wiki space =
        ⟨(Parts.scan text).wikiOr wiki, (Parts.scan text).path, (Parts.scan text).name, hp⟩ := by
      rw [resolve, Parts.complete, dif_neg hp]
    have hescape : (segments (marks cs)).map (fun part => escape (String.ofList part).toList) =
        segments (marks cs) := by
      refine (List.map_congr_left fun part hpart => ?_).trans (List.map_id _)
      rw [String.toList_ofList, escape_segment h hpart]
      rfl
    have hlocal : (resolve text wiki space).localForm = String.ofList cs := by
      rw [localForm, localChars_eq, hr, hscan, List.map_map]
      exact congrArg String.ofList ((congrArg _ hescape).trans hjoin)
    rw [Rule.candidates, hlocal]
    exact List.mem_cons_self

end Reference

namespace Rule

open Reference

variable {r : Rule} {role : String} {wiki space : String}

/-- A rule that swaps affixes which hold no escapes, and no colon but perhaps one that ends the wiki of
the group prefix. -/
structure Plain (r : Rule) : Prop where
  affixed : r.rolePattern = "" ∨ r.replacement = ""
  prefix_unescaped : '\\' ∉ r.groupPrefix.toList
  prefix_colon : r.groupPrefix.toList.count ':' ≤ 1
  no_dot_before_colon (front back : List Char) :
    r.groupPrefix.toList = front ++ ':' :: back → '.' ∉ front
  suffix_dotted : Dotted r.groupSuffix.toList

/-- The name of a group without its wiki. -/
def unqualifiedName (r : Rule) (role : String) : List Char :=
  r.unqualifiedPrefix.toList ++ r.radical role ++ r.groupSuffix.toList

theorem Plain.qualifies_groupPrefix (h : r.Plain) : Dotted r.unqualifiedPrefix.toList ∧
    Qualifies r.groupPrefix.toList r.unqualifiedPrefix.toList := by
  have he := h.prefix_unescaped
  have hc := h.prefix_colon
  unfold unqualifiedPrefix Text.Cut.first
  cases hcut : Text.cutFirst ':' r.groupPrefix.toList with
  | none => exact ⟨⟨he, Text.cutFirst_eq_none hcut⟩, .inl rfl⟩
  | some parts =>
    obtain ⟨front, back⟩ := parts
    obtain ⟨hp, hn⟩ := Text.cutFirst_eq_some hcut
    have hback : ':' ∉ back := by
      rw [hp, List.count_append, List.count_cons_self] at hc
      exact List.count_eq_zero.1 (by omega)
    rw [hp, List.mem_append, List.mem_cons, not_or, not_or] at he
    simp only [Option.map_some, String.toList_ofList]
    exact ⟨⟨he.2.2, hback⟩, .inr ⟨front, ⟨he.1, hn⟩, h.no_dot_before_colon front back hp, hp⟩⟩

theorem radical_subset (r : Rule) (role : String) : r.radical role ⊆ role.toList :=
  ((List.drop_sublist _ _).trans (List.take_sublist _ _)).subset

theorem dotted_radical (h : Dotted role.toList) : Dotted (r.radical role) :=
  ⟨fun hm => h.unescaped (radical_subset r role hm), fun hm => h.no_colon (radical_subset r role hm)⟩

theorem Plain.qualifies_affixName (h : r.Plain) (hr : Dotted (r.radical role)) :
    Dotted (r.unqualifiedName role) ∧
      Qualifies (r.affixName role).toList (r.unqualifiedName role) := by
  obtain ⟨hd, hq⟩ := h.qualifies_groupPrefix
  refine ⟨(hd.append hr).append h.suffix_dotted, ?_⟩
  rw [affixName, String.toList_ofList]
  rcases hq with hq | ⟨front, hf, hn, hq⟩
  · exact .inl (by rw [hq, unqualifiedName])
  · refine .inr ⟨front, hf, hn, ?_⟩
    rw [hq, unqualifiedName, List.append_assoc, List.append_assoc, List.append_assoc]
    rfl

theorem recognizes_unqualifiedName (r : Rule) (role : String) :
    r.recognizes (String.ofList (r.unqualifiedName role)) = true := by
  simp only [recognizes, String.toList_ofList, Bool.and_eq_true, List.isPrefixOf_iff_prefix,
    List.isSuffixOf_iff_suffix]
  exact ⟨⟨_, (List.append_assoc _ _ _).symm⟩, ⟨_, rfl⟩⟩

/-- Such a rule recognises what it derives, from whatever wiki and space the group is completed. -/
theorem Plain.matchesGroup_resolve (h : r.Plain) (hr : Dotted (r.radical role)) (wiki space : String) :
    r.matchesGroup (resolve (r.affixName role) wiki space) space = true := by
  obtain ⟨hd, hq⟩ := h.qualifies_affixName hr
  exact List.any_eq_true.2 ⟨_, candidates_resolve hd hq, recognizes_unqualifiedName r role⟩

/-- Such a rule recognises the group that it derives from a role without escapes and colons. -/
theorem Plain.matchesGroup (h : r.Plain) {c : Configuration} {group : Reference}
    (hr : Dotted role.toList) (hg : Entitlement.derivedGroup c r role = .ok group) :
    r.matchesGroup group c.userSpace = true := by
  simp only [Entitlement.derivedGroup, groupName_of_affixed h.affixed, Except.ok.injEq] at hg
  subst hg
  exact h.matchesGroup_resolve (dotted_radical hr) c.mainWiki c.userSpace

end Rule

end IdentityBridge
