import IdentityBridge.Proofs.Provenance.Recording
import IdentityBridge.Proofs.Provenance.Told

/-! Groups recorded in one default field by one batch. Afterwards the text of the field tells of each of them.
It does so by the local form of the group, unless the text told of the group in another way before. -/

namespace IdentityBridge.Provenance

variable {f : Field} {group : Reference} {text told : String} {calls : List Call} {c : Call}

/-! ### Texts -/

/-- What is told stays told. -/
theorem Heads.record (h : Heads told text) (hf : f.IsDefault) (hbar : '|' ∉ told.toList)
    (group : Reference) (role : String) : Heads told (f.record text group role) := by
  rw [Field.record]
  split
  · exact h
  · exact (heads_extend hf hbar).2 (.inl h)

theorem Heads.recordCalls (h : Heads told text) (hf : f.IsDefault) (hbar : '|' ∉ told.toList)
    (calls : List Call) : Heads told (f.recordCalls text calls) := by
  induction calls generalizing text with
  | nil => exact h
  | cons c rest ih => exact ih (h.record hf hbar c.group c.role)

/-- The local form of the group has neither an equal sign nor a separator. -/
structure Call.Clear (c : Call) : Prop where
  equalSign : '=' ∉ c.group.localForm.toList
  separator : '|' ∉ c.group.localForm.toList

/-- After its call the text tells of a group. -/
theorem Call.Clear.tells (hc : c.Clear) (hf : f.IsDefault) (text : String) :
    Tells (f.record text c.group c.role) c.group := by
  refine (tells_record hf).2 (.inr ?_)
  rw [hf.entry_eq]
  exact tells_entry hc.equalSign (fun h => hc.separator (List.mem_of_getLast? h)) c.role

/-- Calls for roles without separators add no more to what is told than the local forms of their groups. -/
theorem exists_of_heads_recordCalls (hf : f.IsDefault) (hclear : ∀ c ∈ calls, c.Clear)
    (hroles : ∀ c ∈ calls, '|' ∉ c.role.toList) (hequal : '=' ∉ told.toList)
    (hbar : '|' ∉ told.toList) (h : Heads told (f.recordCalls text calls)) :
    Heads told text ∨ ∃ c ∈ calls, c.group.localForm = told := by
  induction calls generalizing text with
  | nil => exact .inl h
  | cons c rest ih =>
    rw [List.forall_mem_cons] at hclear hroles
    rw [Field.recordCalls_cons] at h
    rcases ih hclear.2 hroles.2 h with h | ⟨c', hc', he⟩
    · rw [Field.record] at h
      split at h
      · exact .inl h
      · rw [heads_extend hf hbar, hf.entry_eq] at h
        refine h.imp_right fun h => ⟨c, List.mem_cons_self, ?_⟩
        exact (eq_of_heads_entry ⟨hclear.1.equalSign, hclear.1.separator⟩ hroles.1 hequal h).symm
    · exact .inr ⟨c', List.mem_cons_of_mem _ hc', he⟩

/-- A group is recorded by its local form, unless the text tells of it before. -/
theorem heads_of_not_tells (hf : f.IsDefault) (hc : c.Clear) (h : ¬ Tells text c.group) :
    Heads c.group.localForm (f.record text c.group c.role) := by
  rw [Field.record, if_neg (mt hf.hasEntry_iff.1 h), heads_extend hf hc.separator, hf.entry_eq]
  exact .inr (heads_entry c.group c.role)

/-- After calls for roles without separators, a text that was empty tells of a group by the local form of one
of the recorded groups. -/
theorem exists_of_tells_recordCalls (hf : f.IsDefault) (hclear : ∀ c ∈ calls, c.Clear)
    (hroles : ∀ c ∈ calls, '|' ∉ c.role.toList) (h : Tells (f.recordCalls "" calls) group) :
    ∃ c ∈ calls, Field.namesGroup group c.group.localForm ∧
      Heads c.group.localForm (f.recordCalls "" calls) := by
  obtain ⟨told, -, hequal, hbar, hg, h⟩ := h
  obtain hempty | ⟨c, hc, rfl⟩ := exists_of_heads_recordCalls hf hclear hroles hequal hbar h
  · exact absurd hempty (not_heads_empty told)
  · exact ⟨c, hc, hg, h⟩

/-! ### Pages -/

namespace Batch

/-- Recording groups in an empty field leaves a text that tells of each of them. A group is told by its own
local form, unless the text told of it when its turn came; where the roles before it have no separators, this
takes a group before it whose local form is its page name or an end of its written form. -/
theorem recorded_groups_told {mainWiki defaultSpace : String} {d : Directory} {o : PageObject}
    (ho : d.outages = {}) (hf : f.IsDefault) (hp : f.values.page ≠ "")
    (hcalls : ∀ c ∈ calls, c.field = f ∧ c.Clear)
    (hs : (blank mainWiki defaultSpace).selected d f = some o) (hempty : f.textIn o = "") :
    let b := blank mainWiki defaultSpace
    ∃ o', b.selected (b.recordAll d calls) f = some o' ∧
      o'.className = o.className ∧ o'.number = o.number ∧
      ∀ before c after, calls = before ++ c :: after →
        Tells (f.textIn o') c.group ∧
        (¬ Tells (f.recordCalls "" before) c.group → Heads c.group.localForm (f.textIn o')) ∧
        ((∀ c' ∈ before, '|' ∉ c'.role.toList ∧
            (Field.namesGroup c.group c'.group.localForm → c'.group.localForm = c.group.localForm)) →
          Heads c.group.localForm (f.textIn o')) := by
  intro b
  obtain ⟨o', hs', hc, hn, htext⟩ := selected_recordAll ho hp (fun c hc => (hcalls c hc).1) hs
  refine ⟨o', hs', hc, hn, ?_⟩
  rintro before c after rfl
  have hclear : c.Clear := (hcalls c (by simp)).2
  have hearlier : ∀ c' ∈ before, c'.Clear := fun c' hc' => (hcalls c' (List.mem_append_left _ hc')).2
  rw [hempty, Field.recordCalls_append, Field.recordCalls_cons] at htext
  have hnew (h : ¬ Tells (f.recordCalls "" before) c.group) :
      Heads c.group.localForm (f.textIn o') := by
    rw [htext]
    exact (heads_of_not_tells hf hclear h).recordCalls hf hclear.separator after
  refine ⟨?_, hnew, fun hother => ?_⟩
  · obtain ⟨told, hne, hequal, hbar, hg, h⟩ := hclear.tells hf (f.recordCalls "" before)
    exact ⟨told, hne, hequal, hbar, hg, htext ▸ h.recordCalls hf hbar after⟩
  · by_cases h : Tells (f.recordCalls "" before) c.group
    · obtain ⟨c', hc', hg, h⟩ :=
        exists_of_tells_recordCalls hf hearlier (fun c' hc' => (hother c' hc').1) h
      rw [(hother c' hc').2 hg] at h
      rw [htext]
      exact (h.record hf hclear.separator c.group c.role).recordCalls hf hclear.separator after
    · exact hnew h

/-! ### Groups of one page name -/

def staffCall : Call := ⟨ledgerField, .inSpace "xwiki" "XWiki" "Staff", "staff"⟩

/-- A call for a group in a space below another one. -/
def archiveCall : Call :=
  ⟨ledgerField, { wiki := "xwiki", spaces := ["Archive", "XWiki"], name := "Staff" }, "old-staff"⟩

theorem clear_calls :
    ∀ c ∈ [archiveCall, staffCall, greenCall], c.field = ledgerField ∧ c.Clear := by
  simp only [List.forall_mem_cons]
  exact ⟨⟨rfl, by decide, by decide⟩, ⟨rfl, by decide, by decide⟩, ⟨rfl, by decide, by decide⟩,
    fun _ h => absurd h List.not_mem_nil⟩

theorem staff_told :
    emptyLedger.outages = {} ∧ ledgerField.IsDefault ∧ ledgerField.values.page ≠ "" ∧
    (∀ c ∈ [archiveCall, staffCall, greenCall], c.field = ledgerField ∧ c.Clear) ∧
    (blank "xwiki" "XWiki").selected emptyLedger ledgerField = some emptyNotes ∧
    ledgerField.textIn emptyNotes = "" ∧
    Heads staffCall.group.localForm
      ((((blank "xwiki" "XWiki").recordAll emptyLedger [archiveCall, staffCall, greenCall]).page
        ledger).textAt ⟨"Notes", 0, "teams"⟩) := by
  have hdefault : ledgerField.IsDefault := ⟨rfl, rfl, rfl⟩
  have hpage : ledgerField.values.page ≠ "" := by decide
  have hs : (blank "xwiki" "XWiki").selected emptyLedger ledgerField = some emptyNotes := rfl
  obtain ⟨o, ho, -, -, htold⟩ := recorded_groups_told rfl hdefault hpage clear_calls hs rfl
  obtain ⟨-, -, hstaff⟩ := htold [archiveCall] staffCall [greenCall] rfl
  have hfound : (blank "xwiki" "XWiki").selected
      ((blank "xwiki" "XWiki").recordAll emptyLedger [archiveCall, staffCall, greenCall]) ledgerField =
      some ⟨"Notes", 0, .ofList [("teams",
        "Archive.XWiki.Staff=old-staff|XWiki.Staff=staff|XWiki.Teamgreen=team-green")]⟩ := rfl
  obtain rfl := Option.some.inj (ho.symm.trans hfound)
  exact ⟨rfl, hdefault, hpage, clear_calls, hs, rfl,
    hstaff (by simp only [List.forall_mem_cons]; decide)⟩

/-- The group in the space below another one is not told by its local form. -/
theorem archive_untold :
    let text := (((blank "xwiki" "XWiki").recordAll emptyLedger [staffCall, archiveCall]).page
      ledger).textAt ⟨"Notes", 0, "teams"⟩
    archiveCall.Clear ∧ staffCall.Clear ∧ text = "XWiki.Staff=staff" ∧
      ¬ Heads archiveCall.group.localForm text := by
  intro text
  have htext : text = "XWiki.Staff=staff" := rfl
  have hclear : archiveCall.Clear := ⟨by decide, by decide⟩
  refine ⟨hclear, ⟨by decide, by decide⟩, htext, ?_⟩
  rw [htext, heads_iff hclear.separator]
  decide

end Batch

end IdentityBridge.Provenance
