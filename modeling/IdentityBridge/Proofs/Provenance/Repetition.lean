import IdentityBridge.Proofs.Provenance.Recording
import IdentityBridge.Proofs.Provenance.Told

/-! The same group and role in one batch after the other. Either the text of the field tells of the group
from the first batch on, and nothing changes any more; or it never does, and every batch adds the entry
again. -/

namespace IdentityBridge.Provenance.Batch

variable {mainWiki defaultSpace : String} {d : Directory} {c : Call} {o : PageObject} {n : Nat}

/-- The directory after so many batches, each with the same call. -/
def recordTimes (b : Batch) (d : Directory) (c : Call) : Nat → Directory
  | 0 => d
  | n + 1 => b.recordAll (b.recordTimes d c n) [c]

/-! ### One batch -/

theorem addAll_singleton (ho : d.outages = {}) (mainWiki defaultSpace : String)
    (hp : c.field.values.page ≠ "") :
    let b := blank mainWiki defaultSpace
    (b.addAll d [c]).changed =
      if (b.addition? (d.page (b.pageOf c)) c).isSome then [b.nameOf c] else [] := by
  intro b
  obtain ⟨b', hl, hb, hchanged, -⟩ := exists_load ho b (b.nameOf c)
  have hadd := add_eq hp hl hb
  have hcopy : b.copy d (b.nameOf c) = d.page (b.pageOf c) := copy_blank mainWiki defaultSpace d _
  rw [hcopy, hchanged] at hadd
  rw [addAll, List.foldl_cons, List.foldl_nil, hadd]
  cases b.addition? (d.page (b.pageOf c)) c with
  | none => exact hchanged
  | some a => rfl

theorem addition?_selected (hs : (blank mainWiki defaultSpace).selected d c.field = some o) :
    (blank mainWiki defaultSpace).addition? (d.page ((blank mainWiki defaultSpace).pageOf c)) c =
      if c.field.hasEntry c.group c.role (c.field.textIn o) then none else some ⟨c, o⟩ := by
  have hs : (blank mainWiki defaultSpace).object?
      (d.page ((blank mainWiki defaultSpace).pageOf c)) c.field.values = some o := hs
  rw [addition?, hs]

/-- A batch that finds its call recorded leaves the directory as it is. -/
theorem recordAll_of_recorded (ho : d.outages = {}) (hp : c.field.values.page ≠ "")
    (hs : (blank mainWiki defaultSpace).selected d c.field = some o)
    (hr : c.field.hasEntry c.group c.role (c.field.textIn o)) :
    (blank mainWiki defaultSpace).recordAll d [c] = d := by
  refine save_of_unchanged ?_
  rw [addAll_singleton ho mainWiki defaultSpace hp, addition?_selected hs, hr]
  rfl

/-- A batch that does not find its call recorded saves the page once. -/
theorem saves_of_new (ho : d.outages = {}) (hp : c.field.values.page ≠ "")
    (hs : (blank mainWiki defaultSpace).selected d c.field = some o)
    (hn : c.field.hasEntry c.group c.role (c.field.textIn o) = false) :
    ((blank mainWiki defaultSpace).recordAll d [c]).saves =
      d.saves ++ [((blank mainWiki defaultSpace).pageOf c, comment)] := by
  rw [saves_recordAll ho, addAll_singleton ho mainWiki defaultSpace hp, addition?_selected hs, hn]
  rfl

/-- The selected object keeps its place, and the group is recorded in its text. -/
theorem selected_batch (ho : d.outages = {}) (hp : c.field.values.page ≠ "")
    (hs : (blank mainWiki defaultSpace).selected d c.field = some o) :
    ∃ o', (blank mainWiki defaultSpace).selected
        ((blank mainWiki defaultSpace).recordAll d [c]) c.field = some o' ∧
      o'.className = o.className ∧ o'.number = o.number ∧
      c.field.textIn o' = c.field.record (c.field.textIn o) c.group c.role :=
  selected_recordAll ho hp (fun _ hc => congrArg Call.field (List.mem_singleton.1 hc)) hs

/-! ### One batch after the other -/

theorem outages_recordTimes (ho : d.outages = {}) (mainWiki defaultSpace : String) (c : Call) (n : Nat) :
    ((blank mainWiki defaultSpace).recordTimes d c n).outages = {} := by
  induction n with
  | zero => exact ho
  | succ n ih => exact outages_recordAll ih [c]

/-- Once the text tells of the group, nothing changes any more. -/
theorem recordTimes_eq (ho : d.outages = {}) (hf : c.field.IsDefault) (hp : c.field.values.page ≠ "")
    (hs : (blank mainWiki defaultSpace).selected d c.field = some o)
    (ht : Tells (c.field.textIn o) c.group ∨ Tells c.entry c.group) (n : Nat) :
    (blank mainWiki defaultSpace).recordTimes d c (n + 1) =
      (blank mainWiki defaultSpace).recordTimes d c 1 := by
  obtain ⟨o', hs', -, -, htext⟩ := selected_batch ho hp hs
  have hrecorded : c.field.hasEntry c.group c.role (c.field.textIn o') := by
    rw [hf.hasEntry_iff, htext]
    exact (tells_record hf).2 ht
  induction n with
  | zero => rfl
  | succ n ih =>
    rw [recordTimes, ih]
    exact recordAll_of_recorded (outages_recordTimes ho mainWiki defaultSpace c 1) hp hs' hrecorded

/-- If neither the text nor the entry tells of the group, the text never does, and each batch adds the entry
to it. -/
theorem recordTimes_grows (ho : d.outages = {}) (hf : c.field.IsDefault)
    (hp : c.field.values.page ≠ "") (hs : (blank mainWiki defaultSpace).selected d c.field = some o)
    (ht : ¬ Tells (c.field.textIn o) c.group) (he : ¬ Tells c.entry c.group) (n : Nat) :
    ((blank mainWiki defaultSpace).recordTimes d c n).saves =
      d.saves ++ List.replicate n ((blank mainWiki defaultSpace).pageOf c, comment) ∧
    ∃ o', (blank mainWiki defaultSpace).selected
        ((blank mainWiki defaultSpace).recordTimes d c n) c.field = some o' ∧
      o'.className = o.className ∧ o'.number = o.number ∧
      c.field.textIn o' = (fun text => extend c.field text c.entry)^[n] (c.field.textIn o) ∧
      ¬ Tells (c.field.textIn o') c.group := by
  -- The text is still without the group after each batch, so that the next one adds the entry once more.
  induction n with
  | zero => exact ⟨(List.append_nil _).symm, o, hs, rfl, rfl, rfl, ht⟩
  | succ n ih =>
    obtain ⟨hsaves, o', hs', hc, hn, htext, ht'⟩ := ih
    have hout := outages_recordTimes ho mainWiki defaultSpace c n
    have hnew : c.field.hasEntry c.group c.role (c.field.textIn o') = false :=
      Bool.not_eq_true _ ▸ mt hf.hasEntry_iff.1 ht'
    obtain ⟨o'', hs'', hc', hn', htext'⟩ := selected_batch hout hp hs'
    refine ⟨?_, o'', hs'', hc'.trans hc, hn'.trans hn, ?_, ?_⟩
    · rw [recordTimes, saves_of_new hout hp hs' hnew, hsaves, List.replicate_succ', List.append_assoc]
    · rw [htext', Field.record, if_neg (by simp [hnew]), Function.iterate_succ_apply', htext]
      rfl
    · rw [htext', tells_record hf]
      exact not_or.2 ⟨ht', he⟩

/-- Of batches that record the same group and role, those after the first one leave the directory as it is,
unless neither the text nor the entry tells of the group; then each of them adds the entry. The entry tells of
the group if the local form of the group has no equal sign and does not end in the separator. -/
theorem repeated_batches (ho : d.outages = {}) (hf : c.field.IsDefault)
    (hp : c.field.values.page ≠ "") (hs : (blank mainWiki defaultSpace).selected d c.field = some o) :
    let b := blank mainWiki defaultSpace
    let form := c.group.localForm.toList
    (∃ o', b.selected (b.recordTimes d c 1) c.field = some o' ∧
      o'.className = o.className ∧ o'.number = o.number ∧
      c.field.textIn o' = c.field.record (c.field.textIn o) c.group c.role) ∧
    (Tells (c.field.textIn o) c.group ∨ Tells c.entry c.group →
      ∀ n, b.recordTimes d c (n + 1) = b.recordTimes d c 1) ∧
    ('=' ∉ form → form.getLast? ≠ some '|' →
      ∀ n, b.recordTimes d c (n + 1) = b.recordTimes d c 1) ∧
    (¬ Tells (c.field.textIn o) c.group → ¬ Tells c.entry c.group → ∀ n,
      (b.recordTimes d c n).saves = d.saves ++ List.replicate n (b.pageOf c, comment) ∧
      ∃ o', b.selected (b.recordTimes d c n) c.field = some o' ∧
        o'.className = o.className ∧ o'.number = o.number ∧
        c.field.textIn o' = (fun text => extend c.field text c.entry)^[n] (c.field.textIn o)) := by
  intro b form
  refine ⟨selected_batch ho hp hs, recordTimes_eq ho hf hp hs, fun hequal hend => ?_, fun ht he n => ?_⟩
  · have he : Tells c.entry c.group := by
      rw [Call.entry, hf.entry_eq]
      exact tells_entry hequal hend c.role
    exact recordTimes_eq ho hf hp hs (.inr he)
  · obtain ⟨hsaves, o', hs', hc, hn, htext, -⟩ := recordTimes_grows ho hf hp hs ht he n
    exact ⟨hsaves, o', hs', hc, hn, htext⟩

/-! ### Two groups in the field of a page -/

theorem ledgerField_isDefault : ledgerField.IsDefault := ⟨rfl, rfl, rfl⟩

/-- A call for a group with an equal sign in its name. -/
def equalCall : Call := ⟨ledgerField, .inSpace "xwiki" "XWiki" "Teama=b", "team-a=b"⟩

theorem green_once_equal_always :
    emptyLedger.outages = {} ∧ ledgerField.IsDefault ∧ ledgerField.values.page ≠ "" ∧
    (blank "xwiki" "XWiki").selected emptyLedger ledgerField = some emptyNotes ∧
    (blank "xwiki" "XWiki").recordTimes emptyLedger greenCall 7 =
      (blank "xwiki" "XWiki").recordTimes emptyLedger greenCall 1 ∧
    ((blank "xwiki" "XWiki").recordTimes emptyLedger equalCall 7).saves =
      emptyLedger.saves ++ List.replicate 7 (ledger, comment) := by
  have hpage : ledgerField.values.page ≠ "" := by decide
  have hs : (blank "xwiki" "XWiki").selected emptyLedger ledgerField = some emptyNotes := rfl
  obtain ⟨-, -, honce, -⟩ := repeated_batches (c := greenCall) rfl ledgerField_isDefault hpage hs
  obtain ⟨-, -, -, halways⟩ := repeated_batches (c := equalCall) rfl ledgerField_isDefault hpage hs
  have hnone {text : String} (h : ledgerField.hasEntry equalCall.group equalCall.role text = false) :
      ¬ Tells text equalCall.group := fun ht =>
    Bool.noConfusion (h.symm.trans (ledgerField_isDefault.hasEntry_iff.2 ht))
  exact ⟨rfl, ledgerField_isDefault, hpage, hs, honce (by decide) (by decide) 6,
    (halways (hnone (by decide)) (hnone (by decide)) 7).1⟩

/-- The second batch adds the entry of a group with an equal sign again. -/
theorem equal_again :
    let b := blank "xwiki" "XWiki"
    let d₁ := b.recordAll emptyLedger [equalCall]
    let d₂ := b.recordAll d₁ [equalCall]
    (d₁.page ledger).textAt ⟨"Notes", 0, "teams"⟩ = "XWiki.Teama=b=team-a=b" ∧
    (d₂.page ledger).textAt ⟨"Notes", 0, "teams"⟩ =
      "XWiki.Teama=b=team-a=b|XWiki.Teama=b=team-a=b" ∧
    d₂.saves = d₁.saves ++ [(ledger, comment)] := ⟨rfl, rfl, rfl⟩

end IdentityBridge.Provenance.Batch
