import IdentityBridge.Proofs.Provenance.Recording

/-! Pages that are configured under several names. A batch keeps a copy of a page for each of its names,
and saves every copy that has changed. What was added to the copy saved last stays; an entry that was added
to another copy alone is lost. -/

namespace IdentityBridge.Provenance.Batch

variable {mainWiki defaultSpace name : String} {b : Batch} {d : Directory} {calls : List Call}
  {a : Addition} {page : Page}

/-- A call of a run adds an entry to the copy of its page, as the calls before it have left this. -/
def Appends (b : Batch) (d : Directory) (calls : List Call) (a : Addition) : Prop :=
  ∃ before after, calls = before ++ a.call :: after ∧ a.call.field.values.page ≠ "" ∧
    b.addition? ((b.addAll d before).copy d (b.nameOf a.call)) a.call = some a

/-- The text that an addition has left is the start of the text of its property. -/
def Stays (page : Page) (a : Addition) : Prop := ∃ tail, page.textAt a.spot = a.text ++ tail

/-- What a run adds is among the additions to the page under the name of the call. -/
theorem Appends.mem_additions (ho : d.outages = {}) (h : b.Appends d calls a) :
    a ∈ b.additions (b.copy d (b.nameOf a.call)) (b.under (b.nameOf a.call) calls) := by
  obtain ⟨before, after, rfl, hp, ha⟩ := h
  have hunder : b.under (b.nameOf a.call) (before ++ a.call :: after) =
      b.under (b.nameOf a.call) before ++ a.call :: b.under (b.nameOf a.call) after := by
    rw [under, List.filter_append, List.filter_cons_of_pos (by simpa using hp)]
    rfl
  rw [(addAll_ran ho b before).copy] at ha
  rw [hunder, additions_append, additions, ha]
  exact List.mem_append_right _ List.mem_cons_self

/-- What a run adds to a blank batch stays on the page that the calls under the name write. -/
theorem Appends.stays_written (ho : d.outages = {})
    (h : (blank mainWiki defaultSpace).Appends d calls a) :
    Stays ((blank mainWiki defaultSpace).written
      (d.page ((blank mainWiki defaultSpace).pageOf a.call))
      ((blank mainWiki defaultSpace).under ((blank mainWiki defaultSpace).nameOf a.call) calls)) a := by
  have ha := h.mem_additions ho
  rw [copy_blank] at ha
  exact exists_textAt_of_addition ha

/-- A name to whose copy an entry is added is changed. -/
theorem Appends.changed (ho : d.outages = {}) (h : b.Appends d calls a) :
    b.nameOf a.call ∈ (b.addAll d calls).changed :=
  ((addAll_ran ho b calls).changed _).2 (.inr (List.ne_nil_of_mem (h.mem_additions ho)))

/-- Of the changed names of one page, one is saved last. -/
theorem exists_savedLast (hn : name ∈ b.changed) :
    ∃ last, b.SavedLast last ∧ b.reference last = b.reference name := by
  -- It is the first one of the page from the end.
  have hfound : (b.changed.reverse.find? fun other => b.reference other = b.reference name).isSome := by
    rw [List.find?_isSome]
    exact ⟨name, List.mem_reverse.2 hn, decide_eq_true rfl⟩
  obtain ⟨last, hlast⟩ := Option.isSome_iff_exists.1 hfound
  obtain ⟨hd, later, earlier, hs, hlater⟩ := List.find?_eq_some_iff_append.1 hlast
  have he : b.reference last = b.reference name := of_decide_eq_true hd
  refine ⟨last, ⟨earlier.reverse, later.reverse, ?_, fun other ho => ?_⟩, he⟩
  · rw [← List.reverse_reverse b.changed, hs]
    simp
  · rw [he]
    simpa using hlater other (List.mem_reverse.1 ho)

/-- The page under the name saved last is stored as the calls under this name write it. -/
theorem page_savedLast (ho : d.outages = {})
    (hl : ((blank mainWiki defaultSpace).addAll d calls).SavedLast name) :
    ((blank mainWiki defaultSpace).recordAll d calls).page
        ((blank mainWiki defaultSpace).reference name) =
      (blank mainWiki defaultSpace).written
        (d.page ((blank mainWiki defaultSpace).reference name))
        ((blank mainWiki defaultSpace).under name calls) := by
  have hpage := page_save ho (copies_run mainWiki defaultSpace d calls) hl
  rwa [reference_run ho, copy_run ho] at hpage

/-- Every changed name is saved once. Of several names of one page the last one decides what is stored, and
the entries added under it stay; where no page has two names, each page is saved at most once, and every
entry that was added stays. -/
theorem added_under_last_name_stays (ho : d.outages = {}) (mainWiki defaultSpace : String)
    (calls : List Call) :
    let b := blank mainWiki defaultSpace
    let changed := (b.addAll d calls).changed
    let d' := b.recordAll d calls
    d'.saves = d.saves ++ changed.map (fun name => (b.reference name, comment)) ∧
    changed.Nodup ∧
    (∀ name ∈ changed, ∃ last, (b.addAll d calls).SavedLast last ∧ b.reference last = b.reference name) ∧
    (∀ name, (b.addAll d calls).SavedLast name →
      d'.page (b.reference name) = b.written (d.page (b.reference name)) (b.under name calls)) ∧
    (∀ a, b.Appends d calls a → b.nameOf a.call ∈ changed ∧
      ((b.addAll d calls).SavedLast (b.nameOf a.call) → Stays (d'.page (b.pageOf a.call)) a)) ∧
    (b.Distinct calls → (changed.map b.reference).Nodup ∧
      ∀ a, b.Appends d calls a → Stays (d'.page (b.pageOf a.call)) a) := by
  intro b changed d'
  have hlast (name : String) (hl : (b.addAll d calls).SavedLast name) :
      d'.page (b.reference name) = b.written (d.page (b.reference name)) (b.under name calls) :=
    page_savedLast ho hl
  have hstays (a : Addition) (ha : b.Appends d calls a)
      (hl : (b.addAll d calls).SavedLast (b.nameOf a.call)) : Stays (d'.page (b.pageOf a.call)) a := by
    have hpage : d'.page (b.pageOf a.call) = _ := hlast (b.nameOf a.call) hl
    rw [hpage]
    exact ha.stays_written ho
  have hexists (name : String) (hn : name ∈ changed) :
      ∃ last, (b.addAll d calls).SavedLast last ∧ b.reference last = b.reference name := by
    have hl := exists_savedLast hn
    rwa [reference_run ho] at hl
  exact ⟨saves_recordAll ho calls, nodup_run ho mainWiki defaultSpace calls, hexists, hlast,
    fun a ha => ⟨ha.changed ho, hstays a ha⟩,
    fun h => ⟨h.nodup ho, fun a ha => hstays a ha (h.savedLast ho (ha.changed ho))⟩⟩

/-! ### A page under two names -/

/-- A call for the page of `greenCall`, with its space before the name. -/
def redCall : Call :=
  ⟨.plain "XWiki.Ledger" "teams", .inSpace "xwiki" "XWiki" "Teamred", "team-red"⟩

theorem ledger_keeps_red : emptyLedger.outages = {} ∧
    Stays (((blank "xwiki" "XWiki").recordAll emptyLedger [greenCall, redCall]).page ledger)
      ⟨redCall, emptyNotes⟩ := by
  obtain ⟨-, -, -, -, hstays, -⟩ :=
    added_under_last_name_stays (d := emptyLedger) rfl "xwiki" "XWiki" [greenCall, redCall]
  refine ⟨rfl, (hstays ⟨redCall, emptyNotes⟩ ⟨[greenCall], [], rfl, by decide, rfl⟩).2 ?_⟩
  exact ⟨["xwiki:Ledger"], [], rfl, fun _ h => absurd h List.not_mem_nil⟩

/-- The page is saved twice, and the entry that was added under its first name is lost. -/
theorem ledger_loses_green :
    let d' := (blank "xwiki" "XWiki").recordAll emptyLedger [greenCall, redCall]
    (blank "xwiki" "XWiki").Appends emptyLedger [greenCall, redCall] ⟨greenCall, emptyNotes⟩ ∧
    ¬ Stays (d'.page ledger) ⟨greenCall, emptyNotes⟩ ∧
    (d'.page ledger).textAt ⟨"Notes", 0, "teams"⟩ = "XWiki.Teamred=team-red" ∧
    d'.saves = emptyLedger.saves ++ [(ledger, comment), (ledger, comment)] := by
  refine ⟨⟨[], [redCall], rfl, by decide, rfl⟩, ?_, rfl, rfl⟩
  rintro ⟨tail, ht⟩
  have ht : "XWiki.Teamred=team-red" = "XWiki.Teamgreen=team-green" ++ tail := ht
  have hprefix : "XWiki.Teamgreen=team-green".toList <+: "XWiki.Teamred=team-red".toList :=
    ⟨tail.toList, by rw [ht, String.toList_append]⟩
  exact absurd hprefix (by decide)

end IdentityBridge.Provenance.Batch
