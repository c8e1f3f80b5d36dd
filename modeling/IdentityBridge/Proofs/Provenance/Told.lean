import IdentityBridge.Proofs.Provenance.Addition
import IdentityBridge.Proofs.Provenance.Default

/-! What the text of a default field tells. A group counts as recorded where a part of the text, from the
start or a separator up to an equal sign, is the page name of the group or an end of its written form. -/

namespace IdentityBridge.Provenance

variable {d : Char} {cs s : List Char} {f : Field} {group : Reference} {role text entry told : String}

/-! ### Pieces -/

theorem not_mem_of_mem_splitOn {piece : List Char} (h : piece ∈ cs.splitOn d) : d ∉ piece := by
  induction cs generalizing piece with
  | nil =>
    obtain rfl := List.mem_singleton.1 h
    exact List.not_mem_nil
  | cons c rest ih =>
    rw [List.splitOn_cons_eq_if_modifyHead] at h
    split at h
    · rcases List.mem_cons.1 h with rfl | h
      · exact List.not_mem_nil
      · exact ih h
    · next hc =>
      obtain ⟨first, later, hs⟩ := List.exists_cons_of_ne_nil (List.splitOn_ne_nil d rest)
      rw [hs, List.modifyHead_cons] at h
      rcases List.mem_cons.1 h with rfl | h
      · have hne : d ≠ c := fun he => hc (he ▸ beq_self_eq_true d)
        exact fun hm => (List.mem_cons.1 hm).elim hne (ih (hs ▸ List.mem_cons_self))
      · exact ih (hs ▸ List.mem_cons_of_mem _ h)

/-- The characters stand at the start of a list or behind a separator in it. -/
def Begins (d : Char) (s cs : List Char) : Prop :=
  ∃ before after, cs = before ++ s ++ after ∧ (before = [] ∨ ∃ earlier, before = earlier ++ [d])

theorem begins_intercalate (d : Char) (earlier : List (List Char)) (piece : List Char)
    (later : List (List Char)) : Begins d piece ([d].intercalate (earlier ++ piece :: later)) := by
  induction earlier with
  | nil =>
    cases later with
    | nil => exact ⟨[], [], by simp, .inl rfl⟩
    | cons next later => exact ⟨[], _, List.intercalate_cons_cons.trans (List.append_assoc ..), .inl rfl⟩
  | cons first earlier ih =>
    obtain ⟨before, after, h, hb⟩ := ih
    obtain ⟨next, others, hn⟩ := List.exists_cons_of_ne_nil
      (List.append_ne_nil_of_right_ne_nil earlier (List.cons_ne_nil piece later))
    refine ⟨first ++ [d] ++ before, after, ?_, .inr ?_⟩
    · rw [List.cons_append, hn, List.intercalate_cons_cons, ← hn, h]
      simp only [List.append_assoc]
    · obtain rfl | ⟨e, rfl⟩ := hb
      · exact ⟨first, List.append_nil _⟩
      · exact ⟨first ++ [d] ++ e, (List.append_assoc ..).symm⟩

theorem exists_piece_prefix (hs : d ∉ s) (after : List Char) :
    ∃ piece ∈ (s ++ after).splitOn d, s <+: piece := by
  by_cases h : d ∈ after
  · obtain ⟨first, later, rfl, hf⟩ := List.eq_append_cons_of_mem h
    refine ⟨s ++ first, ?_, List.prefix_append s first⟩
    rw [← List.append_assoc, List.splitOn_append_cons_self_of_not_mem (by simp [hs, hf])]
    exact List.mem_cons_self
  · refine ⟨s ++ after, ?_, List.prefix_append s after⟩
    rw [List.splitOn_eq_singleton (by simp [hs, h])]
    exact List.mem_singleton_self _

/-- Characters other than the separator begin a piece where they stand at the start or behind a
separator. -/
theorem begins_iff (hs : d ∉ s) : Begins d s cs ↔ ∃ piece ∈ cs.splitOn d, s <+: piece := by
  constructor
  · rintro ⟨before, after, rfl, rfl | ⟨earlier, rfl⟩⟩
    · exact exists_piece_prefix hs after
    · obtain ⟨piece, hp, hprefix⟩ := exists_piece_prefix hs after
      refine ⟨piece, ?_, hprefix⟩
      rw [List.append_assoc, List.append_assoc, List.singleton_append, List.splitOn_append_cons_self]
      exact List.mem_append_right _ hp
  · rintro ⟨piece, hp, after, rfl⟩
    obtain ⟨earlier, later, hsplit⟩ := List.append_of_mem hp
    obtain ⟨before, after', h, hb⟩ := begins_intercalate d earlier (s ++ after) later
    rw [← hsplit, List.intercalate_splitOn] at h
    exact ⟨before, after ++ after', by rw [h]; simp only [List.append_assoc], hb⟩

/-! ### What a text tells -/

/-- The text has what is told, with an equal sign behind it, at its start or behind a separator. -/
def Heads (told text : String) : Prop :=
  ∃ before after, text = before ++ told ++ "=" ++ after ∧
    (before = "" ∨ ∃ earlier, before = earlier ++ "|")

/-- The text tells of the group: by its page name, or by an end of its written form. -/
def Tells (text : String) (group : Reference) : Prop :=
  ∃ told, told ≠ "" ∧ '=' ∉ told.toList ∧ '|' ∉ told.toList ∧ Field.namesGroup group told ∧
    Heads told text

theorem heads_iff_begins : Heads told text ↔ Begins '|' (told.toList ++ ['=']) text.toList := by
  constructor
  · rintro ⟨before, after, rfl, hb⟩
    refine ⟨before.toList, after.toList, by simp, ?_⟩
    rcases hb with rfl | ⟨earlier, rfl⟩
    · exact .inl rfl
    · exact .inr ⟨earlier.toList, String.toList_append⟩
  · rintro ⟨before, after, ht, hb⟩
    refine ⟨String.ofList before, String.ofList after, ?_, ?_⟩
    · rw [← String.toList_inj, ht]
      simp
    · rcases hb with rfl | ⟨earlier, rfl⟩
      · exact .inl rfl
      · exact .inr ⟨String.ofList earlier, by rw [← String.toList_inj]; simp⟩

/-- What is told heads a piece. -/
theorem heads_iff (h : '|' ∉ told.toList) :
    Heads told text ↔ ∃ piece ∈ text.toList.splitOn '|', told.toList ++ ['='] <+: piece := by
  rw [heads_iff_begins]
  exact begins_iff (by simpa using h)

/-- A default field has an entry for a group where its text tells of the group, whatever the role is. -/
theorem Field.IsDefault.hasEntry_iff (h : f.IsDefault) :
    f.hasEntry group role text ↔ Tells text group := by
  rw [Field.hasEntry, List.any_eq_true]
  constructor
  · rintro ⟨entry, he, hr⟩
    obtain ⟨hpiece, -⟩ := h.mem_entries.1 he
    obtain ⟨told, rest, rfl, hne, hequal, hg⟩ := h.records_iff.1 hr
    have hbar : '|' ∉ told.toList := fun hm =>
      not_mem_of_mem_splitOn hpiece (by simp [hm])
    exact ⟨told, hne, hequal, hbar, hg, (heads_iff hbar).2 ⟨_, hpiece, rest.toList, by simp⟩⟩
  · rintro ⟨told, hne, hequal, hbar, hg, ht⟩
    obtain ⟨piece, hp, rest, rfl⟩ := (heads_iff hbar).1 ht
    refine ⟨String.ofList (told.toList ++ ['='] ++ rest), h.mem_entries.2 ⟨?_, ?_⟩, ?_⟩
    · rwa [String.toList_ofList]
    · simp
    · refine h.records_iff.2 ⟨told, String.ofList rest, ?_, hne, hequal, hg⟩
      rw [← String.toList_inj]
      simp

/-- What is told in a text with an entry added, is told in the text or in the entry. -/
theorem heads_join (h : '|' ∉ told.toList) :
    Heads told (text ++ "|" ++ entry) ↔ Heads told text ∨ Heads told entry := by
  have hsplit : (text ++ "|" ++ entry).toList.splitOn '|' =
      text.toList.splitOn '|' ++ entry.toList.splitOn '|' := by
    rw [← List.splitOn_append_cons_self]
    simp
  rw [heads_iff h, heads_iff h, heads_iff h, hsplit]
  simp only [List.mem_append, or_and_right, exists_or]

theorem not_heads_empty (told : String) : ¬ Heads told "" := by
  rintro ⟨before, after, h, -⟩
  have hlist := congrArg String.toList h
  simp at hlist

theorem heads_extend (hf : f.IsDefault) (h : '|' ∉ told.toList) :
    Heads told (Batch.extend f text entry) ↔ Heads told text ∨ Heads told entry := by
  rw [Batch.extend]
  split
  · next ht =>
    subst ht
    exact (or_iff_right (not_heads_empty told)).symm
  · rw [hf.separator]
    exact heads_join h

theorem tells_extend (hf : f.IsDefault) :
    Tells (Batch.extend f text entry) group ↔ Tells text group ∨ Tells entry group := by
  constructor
  · rintro ⟨told, hne, hequal, hbar, hg, h⟩
    exact ((heads_extend hf hbar).1 h).imp (⟨told, hne, hequal, hbar, hg, ·⟩)
      (⟨told, hne, hequal, hbar, hg, ·⟩)
  · rintro (⟨told, hne, hequal, hbar, hg, h⟩ | ⟨told, hne, hequal, hbar, hg, h⟩)
    · exact ⟨told, hne, hequal, hbar, hg, (heads_extend hf hbar).2 (.inl h)⟩
    · exact ⟨told, hne, hequal, hbar, hg, (heads_extend hf hbar).2 (.inr h)⟩

/-- After a group has been recorded, the text tells of it if it did so before, or if the entry does. -/
theorem tells_record (hf : f.IsDefault) :
    Tells (f.record text group role) group ↔ Tells text group ∨ Tells (f.entry group role) group := by
  rw [Field.record]
  split
  · next h =>
    have ht := hf.hasEntry_iff.1 h
    exact iff_of_true ht (.inl ht)
  · exact tells_extend hf

/-! ### The entry of a group -/

/-- An end of the local form names the group. -/
theorem namesGroup_of_suffix (h : told.toList <:+ group.localForm.toList) :
    Field.namesGroup group told := by
  have hlocal : group.localForm.toList <:+ group.serialize.toList := by
    rw [Reference.localForm, Reference.serialize, String.toList_ofList, String.toList_ofList]
    exact (List.suffix_cons ':' _).trans (List.suffix_append _ _)
  rw [Field.namesGroup, Bool.or_eq_true, List.isSuffixOf_iff_suffix]
  exact .inr (h.trans hlocal)

theorem localForm_ne_empty (group : Reference) : group.localForm ≠ "" := by
  have hdot : '.' ∈ group.localForm.toList := by simp [Reference.localForm, Reference.localChars]
  intro h
  simp [h] at hdot

theorem heads_entry (group : Reference) (role : String) :
    Heads group.localForm (group.localForm ++ "=" ++ role) := ⟨"", role, by simp, .inl rfl⟩

/-- The entry of a group tells of it, if the local form of the group has no equal sign and does not end in
the separator. -/
theorem tells_entry (hequal : '=' ∉ group.localForm.toList)
    (hend : group.localForm.toList.getLast? ≠ some '|') (role : String) :
    Tells (group.localForm ++ "=" ++ role) group := by
  by_cases hbar : '|' ∈ group.localForm.toList
  · -- What stands behind the last separator in the local form is told.
    obtain ⟨last, earlier, hr, hlast⟩ :=
      List.eq_append_cons_of_mem (List.mem_reverse.2 hbar)
    have hform : group.localForm.toList = earlier.reverse ++ '|' :: last.reverse := by
      rw [← List.reverse_reverse group.localForm.toList, hr]
      simp
    refine ⟨String.ofList last.reverse, ?_, ?_, ?_, ?_,
      String.ofList (earlier.reverse ++ ['|']), role, ?_, .inr ⟨String.ofList earlier.reverse, ?_⟩⟩
    · intro h
      have hnil : last = [] := by simpa using h
      exact hend (by simp [hform, hnil])
    · intro hm
      rw [String.toList_ofList] at hm
      exact hequal (hform ▸ List.mem_append_right _ (List.mem_cons_of_mem _ hm))
    · simpa using hlast
    · refine namesGroup_of_suffix ?_
      rw [hform, String.toList_ofList]
      exact (List.suffix_cons '|' _).trans (List.suffix_append _ _)
    · rw [← String.toList_inj]
      simp [hform]
    · rw [← String.toList_inj]
      simp
  · exact ⟨group.localForm, localForm_ne_empty group, hequal, hbar,
      namesGroup_of_suffix (List.suffix_refl _), heads_entry group role⟩

/-- In the entry of a group nothing is told but its local form, if neither this nor the role has a
separator. -/
theorem eq_of_heads_entry {form role : String} (hform : '=' ∉ form.toList ∧ '|' ∉ form.toList)
    (hrole : '|' ∉ role.toList) (htold : '=' ∉ told.toList) (h : Heads told (form ++ "=" ++ role)) :
    told = form := by
  obtain ⟨before, after, he, rfl | ⟨earlier, rfl⟩⟩ := h
  · have hlist : form.toList ++ '=' :: role.toList = told.toList ++ '=' :: after.toList := by
      simpa using congrArg String.toList he
    have hcut := Text.cutFirst_append hform.1 role.toList
    rw [hlist, Text.cutFirst_append htold] at hcut
    exact String.toList_inj.1 (Prod.mk.inj (Option.some.inj hcut)).1
  · have hbar : '|' ∈ (form ++ "=" ++ role).toList := by simp [he]
    simp [hform.2, hrole] at hbar

end IdentityBridge.Provenance
