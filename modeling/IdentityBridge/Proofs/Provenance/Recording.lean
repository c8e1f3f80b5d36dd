import Mathlib.Data.List.Nodup
import IdentityBridge.Proofs.Provenance.Field
import IdentityBridge.Proofs.Provenance.Run

/-! Recording groups in one batch. Where no page is configured under two names, every page ends as the calls
for it write it, one after the other: objects keep their places, texts are only added to, and no other page
is touched. -/

namespace IdentityBridge.Provenance.Batch

variable {mainWiki defaultSpace name : String} {b : Batch} {d : Directory} {calls : List Call} {c : Call}
  {r : Reference} {f : Field} {o : PageObject}

/-- A batch that nothing has been added to. -/
def blank (mainWiki defaultSpace : String) : Batch := { mainWiki, defaultSpace }

/-- The directory after calls have been added to a batch, and this has been saved. -/
def recordAll (b : Batch) (d : Directory) (calls : List Call) : Directory := (b.addAll d calls).save d

/-- The page of a call. -/
def pageOf (b : Batch) (c : Call) : Reference := b.reference (b.nameOf c)

/-- The calls for a page. -/
def on (b : Batch) (r : Reference) (calls : List Call) : List Call :=
  calls.filter fun c => c.field.values.page ≠ "" ∧ b.pageOf c = r

/-- No page is configured under two names. -/
def Distinct (b : Batch) (calls : List Call) : Prop :=
  ∀ c ∈ calls, ∀ c' ∈ calls, c.field.values.page ≠ "" → c'.field.values.page ≠ "" →
    b.pageOf c = b.pageOf c' → b.nameOf c = b.nameOf c'

/-! ### A blank batch -/

theorem copy_blank (mainWiki defaultSpace : String) (d : Directory) (name : String) :
    (blank mainWiki defaultSpace).copy d name = d.page ((blank mainWiki defaultSpace).reference name) :=
  rfl

theorem copies_run (mainWiki defaultSpace : String) (d : Directory) (calls : List Call) :
    ((blank mainWiki defaultSpace).addAll d calls).Copies d :=
  copies_addAll (copies_empty mainWiki defaultSpace d) calls

theorem reference_run (ho : d.outages = {}) (b : Batch) (calls : List Call) :
    (b.addAll d calls).reference = b.reference := (addAll_ran ho b calls).agrees.reference

theorem copy_run (ho : d.outages = {}) (calls : List Call) (name : String) :
    ((blank mainWiki defaultSpace).addAll d calls).copy d name =
      (blank mainWiki defaultSpace).written (d.page ((blank mainWiki defaultSpace).reference name))
        ((blank mainWiki defaultSpace).under name calls) :=
  (addAll_ran ho _ calls).copy name

theorem mem_changed_run (ho : d.outages = {}) :
    name ∈ ((blank mainWiki defaultSpace).addAll d calls).changed ↔
      (blank mainWiki defaultSpace).additions
        (d.page ((blank mainWiki defaultSpace).reference name))
        ((blank mainWiki defaultSpace).under name calls) ≠ [] :=
  ((addAll_ran ho _ calls).changed name).trans (or_iff_right List.not_mem_nil)

theorem nodup_run (ho : d.outages = {}) (mainWiki defaultSpace : String) (calls : List Call) :
    ((blank mainWiki defaultSpace).addAll d calls).changed.Nodup :=
  (addAll_ran ho _ calls).nodup List.nodup_nil

/-- Only names that a call has are changed. -/
theorem exists_call_of_changed (ho : d.outages = {})
    (hn : name ∈ ((blank mainWiki defaultSpace).addAll d calls).changed) :
    ∃ c ∈ calls, c.field.values.page ≠ "" ∧ (blank mainWiki defaultSpace).nameOf c = name := by
  rw [mem_changed_run ho] at hn
  have hne : (blank mainWiki defaultSpace).under name calls ≠ [] := by
    intro h
    rw [h] at hn
    exact hn rfl
  obtain ⟨c, hc⟩ := List.exists_mem_of_ne_nil _ hne
  obtain ⟨hc, hp⟩ := List.mem_filter.1 hc
  exact ⟨c, hc, of_decide_eq_true hp⟩

theorem outages_recordAll (ho : d.outages = {}) (calls : List Call) :
    ((blank mainWiki defaultSpace).recordAll d calls).outages = {} := by
  rw [recordAll, save_eq ho (copies_run mainWiki defaultSpace d calls), outages_putAll, ho]

/-- The changed pages are saved in the order of their first change. -/
theorem saves_recordAll (ho : d.outages = {}) (calls : List Call) :
    ((blank mainWiki defaultSpace).recordAll d calls).saves = d.saves ++
      ((blank mainWiki defaultSpace).addAll d calls).changed.map fun name =>
        ((blank mainWiki defaultSpace).reference name, comment) := by
  have hsaves := saves_save ho (copies_run mainWiki defaultSpace d calls)
  rwa [reference_run ho] at hsaves

/-! ### Pages under one name -/

theorem Distinct.under_eq_on (h : b.Distinct calls) (hc : c ∈ calls) (hp : c.field.values.page ≠ "") :
    b.under (b.nameOf c) calls = b.on (b.pageOf c) calls := by
  refine List.filter_congr fun c' hc' => decide_eq_decide.2 (and_congr_right fun hp' => ?_)
  exact ⟨fun hn => congrArg b.reference hn, fun hr => h c' hc' c hc hp' hp hr⟩

/-- Where no page has two names, no two changed names are of one page. -/
theorem Distinct.nodup (ho : d.outages = {}) (h : (blank mainWiki defaultSpace).Distinct calls) :
    (((blank mainWiki defaultSpace).addAll d calls).changed.map
      (blank mainWiki defaultSpace).reference).Nodup := by
  refine List.Nodup.map_on (fun n hn n' hn' he => ?_) (nodup_run ho mainWiki defaultSpace calls)
  obtain ⟨c, hc, hp, rfl⟩ := exists_call_of_changed ho hn
  obtain ⟨c', hc', hp', rfl⟩ := exists_call_of_changed ho hn'
  exact h c hc c' hc' hp hp' he

theorem Distinct.savedLast (ho : d.outages = {}) (h : (blank mainWiki defaultSpace).Distinct calls)
    (hn : name ∈ ((blank mainWiki defaultSpace).addAll d calls).changed) :
    ((blank mainWiki defaultSpace).addAll d calls).SavedLast name := by
  have hnodup := h.nodup ho
  obtain ⟨earlier, later, hs⟩ := List.append_of_mem hn
  refine ⟨earlier, later, hs, fun other hother he => ?_⟩
  rw [reference_run ho] at he
  rw [hs, List.map_append, List.map_cons] at hnodup
  have hnot := (List.nodup_cons.1 (List.nodup_append.1 hnodup).2.1).1
  exact hnot (he ▸ List.mem_map_of_mem hother)

/-- Where no page has two names, a page ends as the calls for it write it. -/
theorem page_recordAll (ho : d.outages = {}) (h : (blank mainWiki defaultSpace).Distinct calls)
    (r : Reference) :
    ((blank mainWiki defaultSpace).recordAll d calls).page r =
      (blank mainWiki defaultSpace).written (d.page r) ((blank mainWiki defaultSpace).on r calls) := by
  by_cases hr : ∃ name ∈ ((blank mainWiki defaultSpace).addAll d calls).changed,
      (blank mainWiki defaultSpace).reference name = r
  · obtain ⟨name, hn, rfl⟩ := hr
    obtain ⟨c, hc, hp, rfl⟩ := exists_call_of_changed ho hn
    have hpage := page_save ho (copies_run mainWiki defaultSpace d calls) (h.savedLast ho hn)
    rw [reference_run ho, copy_run ho, h.under_eq_on hc hp] at hpage
    exact hpage
  · have hsame := find?_save ho (copies_run mainWiki defaultSpace d calls) (r := r) fun name hn he =>
      hr ⟨name, hn, by rwa [reference_run ho] at he⟩
    -- The calls for the page, if there are any, have one name, and add nothing.
    have hnone : (blank mainWiki defaultSpace).additions (d.page r)
        ((blank mainWiki defaultSpace).on r calls) = [] := by
      cases hon : (blank mainWiki defaultSpace).on r calls with
      | nil => rfl
      | cons c rest =>
        obtain ⟨hc, hcr⟩ := List.mem_filter.1 (hon ▸ List.mem_cons_self : c ∈ (blank _ _).on r calls)
        obtain ⟨hp, rfl⟩ := of_decide_eq_true hcr
        rw [← hon, ← h.under_eq_on hc hp]
        by_contra hne
        exact hr ⟨_, (mem_changed_run ho).2 hne, rfl⟩
    rw [recordAll, page_congr hsame, written, hnone]
    rfl

/-- Recording a group and its role adds their entries behind the texts that are there, in the order of the
calls and as far as they are not found; nothing else is changed. -/
theorem recordAll_appends (ho : d.outages = {}) (h : (blank mainWiki defaultSpace).Distinct calls)
    (r : Reference) :
    let b := blank mainWiki defaultSpace
    let d' := b.recordAll d calls
    let added := b.additions (d.page r) (b.on r calls)
    d'.contains r = d.contains r ∧
    (d'.pages.find? r ≠ d.pages.find? r →
      ∃ c ∈ calls, c.field.values.page ≠ "" ∧ b.pageOf c = r) ∧
    (d.page r).Revises (d'.page r) ∧
    (added.map (·.call)).Sublist (b.on r calls) ∧
    ∀ s : Page.Spot,
      (d'.page r).value? s = (added.filter (·.spot = s)).foldl
        (fun value a => some (a.onto (value.getD ""))) ((d.page r).value? s) ∧
      ∃ tail, (d'.page r).textAt s = (d.page r).textAt s ++ tail := by
  intro b d' added
  have hpage : d'.page r = b.written (d.page r) (b.on r calls) := page_recordAll ho h r
  have hrevises : (d.page r).Revises (d'.page r) := hpage ▸ revises_written b _ _
  refine ⟨?_, fun hne => ?_, hrevises, sublist_additions b _ _, fun s => ?_⟩
  · have hnew := hrevises.isNew
    rw [Directory.isNew_page, Directory.isNew_page] at hnew
    simpa using hnew
  · by_contra hnone
    refine hne (find?_save ho (copies_run mainWiki defaultSpace d calls) fun name hn he => hnone ?_)
    obtain ⟨c, hc, hp, rfl⟩ := exists_call_of_changed ho hn
    rw [reference_run ho] at he
    exact ⟨c, hc, hp, he⟩
  · rw [hpage]
    exact ⟨value?_written b _ _ s, exists_textAt_written b _ _ s⟩

/-! ### Calls for one field -/

/-- The page of a field. -/
def fieldPage (b : Batch) (f : Field) : Reference := b.reference (b.pageName f.values.page)

/-- The object that a field selects on its page. -/
def selected (b : Batch) (d : Directory) (f : Field) : Option PageObject :=
  b.object? (d.page (b.fieldPage f)) f.values

theorem distinct_of_field (b : Batch) (h : ∀ c ∈ calls, c.field = f) : b.Distinct calls := by
  rintro c hc c' hc' - - -
  rw [nameOf, nameOf, h c hc, h c' hc']

/-- The selected object keeps its place, and the groups are recorded in its text. -/
theorem selected_recordAll (ho : d.outages = {}) (hp : f.values.page ≠ "")
    (hf : ∀ c ∈ calls, c.field = f) (hs : (blank mainWiki defaultSpace).selected d f = some o) :
    ∃ o', (blank mainWiki defaultSpace).selected
        ((blank mainWiki defaultSpace).recordAll d calls) f = some o' ∧
      o'.className = o.className ∧ o'.number = o.number ∧
      f.textIn o' = f.recordCalls (f.textIn o) calls := by
  have hon :
      (blank mainWiki defaultSpace).on ((blank mainWiki defaultSpace).fieldPage f) calls = calls := by
    refine List.filter_eq_self.2 fun c hc => ?_
    simp [pageOf, nameOf, fieldPage, hf c hc, hp]
  rw [selected, page_recordAll ho (distinct_of_field _ hf), hon]
  exact selected_written hs hf

/-! ### Pages with fields -/

def ledger : Reference := .inSpace "xwiki" "XWiki" "Ledger"

/-- A page with an empty list of teams. -/
def emptyLedger : Directory :=
  .put .empty (({ reference := ledger } : Page).add "Notes" (.ofList [("teams", "")])) ""

def emptyNotes : PageObject := ⟨"Notes", 0, .ofList [("teams", "")]⟩

def ledgerField : Field := .plain "Ledger" "teams"

def greenCall : Call := ⟨ledgerField, .inSpace "xwiki" "XWiki" "Teamgreen", "team-green"⟩

def logbook : Reference := .inSpace "xwiki" "XWiki" "Logbook"

/-- A page with a list of teams, and an object for what is added to it. -/
def shelf : Directory := .put .empty
  ((({ reference := logbook } : Page).add "XWiki.Notes"
    (.ofList [("teams", "XWiki.Red=red")])).add "XWiki.Notes" .empty) ""

def teamsField : Field := .plain "Logbook" "teams"

def historyField : Field where
  values := {
    page := "xwiki:Logbook"
    className := "Notes"
    objectNumber := some 1
    propertyName := "history"
    separator := ";" }
  characters := Pattern.nameless
  format := Field.defaultFormat
  pattern := Field.defaultPattern
  read_format := Field.read_defaultFormat
  read_pattern := Field.read_defaultPattern Pattern.nameless

/-- Two groups for the fields of the page, one of which is there, and a field on a page that is missing. -/
def teamCalls : List Call :=
  let red : Reference := .inSpace "xwiki" "XWiki" "Red"
  let green : Reference := .inSpace "xwiki" "XWiki" "Green"
  [⟨teamsField, green, "green"⟩, ⟨historyField, green, "green"⟩, ⟨teamsField, red, "crimson"⟩,
    ⟨historyField, red, "crimson"⟩, ⟨.plain "Archive.Logbook" "teams", red, "crimson"⟩]

theorem teamCalls_distinct : (blank "xwiki" "XWiki").Distinct teamCalls := by
  have hname : ∀ c ∈ teamCalls, (blank "xwiki" "XWiki").nameOf c = "xwiki:Logbook" ∨
      (blank "xwiki" "XWiki").nameOf c = "xwiki:Archive.Logbook" := by
    simp only [teamCalls, List.forall_mem_cons]
    exact ⟨.inl rfl, .inl rfl, .inl rfl, .inl rfl, .inr rfl, by simp⟩
  have hne : (blank "xwiki" "XWiki").reference "xwiki:Logbook" ≠
      (blank "xwiki" "XWiki").reference "xwiki:Archive.Logbook" := by decide
  intro c hc c' hc' _ _ he
  rw [pageOf, pageOf] at he
  rcases hname c hc with h | h <;> rcases hname c' hc' with h' | h' <;> rw [h, h'] at he ⊢
  · exact absurd he hne
  · exact absurd he.symm hne

theorem shelf_appended : shelf.outages = {} ∧ (blank "xwiki" "XWiki").Distinct teamCalls ∧
    (((blank "xwiki" "XWiki").recordAll shelf teamCalls).page logbook).value?
      ⟨"XWiki.Notes", 0, "teams"⟩ = some "XWiki.Red=red|XWiki.Green=green" ∧
    (((blank "xwiki" "XWiki").recordAll shelf teamCalls).page logbook).value?
      ⟨"XWiki.Notes", 1, "history"⟩ = some "XWiki.Green=green;XWiki.Red=crimson" := by
  obtain ⟨-, -, -, -, h⟩ := recordAll_appends (d := shelf) rfl teamCalls_distinct logbook
  exact ⟨rfl, teamCalls_distinct, (h _).1.trans rfl, (h _).1.trans rfl⟩

end IdentityBridge.Provenance.Batch
