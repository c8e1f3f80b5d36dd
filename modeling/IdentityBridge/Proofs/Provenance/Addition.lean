import Mathlib.Data.List.Find
import IdentityBridge.Proofs.Page.Objects
import IdentityBridge.Proofs.Provenance.Batch

/-! What calls to record groups add to a page. A call adds its entry to the object that its field selects
on the page as the calls before it have left it, unless the entry is found there. The text of a property is
then the text before, with the entries added to it behind, in the order of the calls. -/

namespace IdentityBridge.Provenance

/-- A group and its role, to be recorded in a field. -/
structure Call where
  field : Field
  group : Reference
  role : String

/-- The entry that records the group and the role. -/
def Call.entry (c : Call) : String := c.field.entry c.group c.role

/-- The text that an object has in the property of a field. -/
def Field.textIn (f : Field) (o : PageObject) : String :=
  (o.fields.find? f.values.propertyName).getD ""

/-- A text of a field after a group and its role have been recorded in it. -/
def Field.record (f : Field) (text : String) (group : Reference) (role : String) : String :=
  if f.hasEntry group role text then text else Batch.extend f text (f.entry group role)

/-- A text of a field after the groups and roles of calls have been recorded in it, one after the other. -/
def Field.recordCalls (f : Field) (text : String) (calls : List Call) : String :=
  calls.foldl (fun text c => f.record text c.group c.role) text

theorem Field.recordCalls_cons (f : Field) (text : String) (c : Call) (rest : List Call) :
    f.recordCalls text (c :: rest) = f.recordCalls (f.record text c.group c.role) rest := rfl

theorem Field.recordCalls_append (f : Field) (text : String) (calls calls' : List Call) :
    f.recordCalls text (calls ++ calls') = f.recordCalls (f.recordCalls text calls) calls' :=
  List.foldl_append

/-- A call whose entry is added, and the object as it is before. -/
structure Addition where
  call : Call
  object : PageObject

namespace Addition

def spot (a : Addition) : Page.Spot :=
  ⟨a.object.className, a.object.number, a.call.field.values.propertyName⟩

/-- A text with the entry behind it. -/
def onto (a : Addition) (text : String) : String := Batch.extend a.call.field text a.call.entry

/-- The text that the addition leaves. -/
def text (a : Addition) : String := a.onto (a.call.field.textIn a.object)

def apply (a : Addition) (page : Page) : Page :=
  page.set a.object a.call.field.values.propertyName a.text

end Addition

namespace Batch

variable {b b' : Batch} {page : Page} {c : Call} {a : Addition} {calls calls' : List Call}
  {o : PageObject} {values : FieldValues} {f : Field}

/-- What a call adds to a page. -/
def addition? (b : Batch) (page : Page) (c : Call) : Option Addition :=
  match b.object? page c.field.values with
  | none => none
  | some o => if c.field.hasEntry c.group c.role (c.field.textIn o) then none else some ⟨c, o⟩

/-- What calls add to a page, each to what those before it have made of the page. -/
def additions (b : Batch) (page : Page) : List Call → List Addition
  | [] => []
  | c :: rest =>
    match b.addition? page c with
    | none => additions b page rest
    | some a => a :: additions b (a.apply page) rest

/-- A page after calls. -/
def written (b : Batch) (page : Page) (calls : List Call) : Page :=
  (b.additions page calls).foldl (fun page a => a.apply page) page

/-! ### The selected object -/

/-- An object that a field selects is on the page. -/
theorem object?_of_selected (h : b.object? page values = some o) :
    page.object? o.className o.number = some o := by
  unfold object? at h
  split at h
  · exact Page.mem_objects.1 (List.mem_of_find?_eq_some h)
  · dsimp only at h
    split at h
    · obtain ⟨hc, ho⟩ := Page.mem_objectsOf.1 (List.mem_of_head? h)
      rwa [hc]
    · exact (Page.object?_eq_some h).2.2

/-- A field selects the object that it writes to also afterwards. -/
theorem object?_set (h : b.object? page values = some o) (text : String) :
    b.object? (page.set o values.propertyName text) values =
      some { o with fields := o.fields.insert values.propertyName text } := by
  have ho := object?_of_selected h
  have hself : Page.revised o.className o.number (·.insert values.propertyName text) o =
      { o with fields := o.fields.insert values.propertyName text } := if_pos ⟨rfl, rfl⟩
  unfold object? at h ⊢
  split at h
  · next hc =>
    -- The object has the property before, so the first with it is the same afterwards.
    rw [Page.firstWith?] at h
    have hp := List.find?_some h
    have hsame : page.objects.find? ((·.fields.contains values.propertyName) ∘
        Page.revised o.className o.number (·.insert values.propertyName text)) =
        page.objects.find? (·.fields.contains values.propertyName) := by
      refine List.find?_congr fun o' ho' => ?_
      rw [Function.comp_apply, Page.revised]
      split
      · next hs =>
        have ho' := Page.mem_objects.1 ho'
        rw [hs.1, hs.2, ho] at ho'
        cases ho'
        rw [hp, Table.contains, Table.find?_insert, if_pos rfl]
        rfl
      · rfl
    rw [if_pos hc, Page.firstWith?, Page.set, Page.objects_modify, List.find?_map, hsame, h,
      Option.map_some, hself]
  · next hc =>
    rw [if_neg hc]
    dsimp only at h ⊢
    split at h
    · rw [Page.firstOf?, Page.set, Page.objectsOf_modify, List.head?_map]
      rw [Page.firstOf?] at h
      rw [h, Option.map_some, hself]
    · rw [Page.set, Page.object?_modify, h, Option.map_some, hself]

/-! ### One call after the other -/

theorem addition?_eq_some : b.addition? page c = some a ↔ a.call = c ∧
    b.object? page c.field.values = some a.object ∧
      c.field.hasEntry c.group c.role (c.field.textIn a.object) = false := by
  unfold addition?
  split
  · next hn => simp [hn]
  · next o ho =>
    rw [ho, Option.some.injEq]
    split
    · next hh =>
      refine iff_of_false (fun h => by cases h) ?_
      rintro ⟨-, h, hn⟩
      cases h
      cases hh.symm.trans hn
    · next hh =>
      rw [Bool.not_eq_true] at hh
      constructor
      · rintro ⟨⟩
        exact ⟨rfl, rfl, hh⟩
      · rintro ⟨rfl, rfl, -⟩
        rfl

theorem additions_append : b.additions page (calls ++ calls') =
    b.additions page calls ++ b.additions (b.written page calls) calls' := by
  induction calls generalizing page with
  | nil => rfl
  | cons c rest ih =>
    rw [List.cons_append, additions, additions, written, additions]
    cases b.addition? page c with
    | none => exact ih
    | some a => exact congrArg (a :: ·) ih

theorem written_append :
    b.written page (calls ++ calls') = b.written (b.written page calls) calls' := by
  rw [written, additions_append, List.foldl_append]
  rfl

/-- Additions are calls, in their order. -/
theorem sublist_additions (b : Batch) (page : Page) (calls : List Call) :
    ((b.additions page calls).map (·.call)).Sublist calls := by
  induction calls generalizing page with
  | nil => exact .slnil
  | cons c rest ih =>
    rw [additions]
    cases h : b.addition? page c with
    | none => exact (ih page).cons c
    | some a =>
      obtain ⟨rfl, -⟩ := addition?_eq_some.1 h
      exact (ih _).cons_cons a.call

theorem revises_written (b : Batch) (page : Page) (calls : List Call) :
    page.Revises (b.written page calls) := by
  rw [written]
  generalize b.additions page calls = as
  induction as generalizing page with
  | nil => exact .refl page
  | cons a rest ih => exact (Page.revises_set _ _ _ _).trans (ih _)

/-! ### Texts -/

/-- A text is only added to. -/
theorem exists_onto (a : Addition) (text : String) : ∃ tail, a.onto text = text ++ tail := by
  unfold Addition.onto extend
  split
  · next h => exact ⟨_, by rw [h, String.empty_append]⟩
  · exact ⟨_, String.append_assoc⟩

theorem text_eq (h : b.addition? page c = some a) : a.text = a.onto (page.textAt a.spot) := by
  obtain ⟨rfl, ho, -⟩ := addition?_eq_some.1 h
  rw [Page.textAt, Page.value?, Addition.spot, object?_of_selected ho]
  rfl

theorem value?_apply (h : b.addition? page c = some a) (s : Page.Spot) :
    (a.apply page).value? s = if a.spot = s then some (a.onto (page.textAt s)) else page.value? s := by
  obtain ⟨rfl, ho, -⟩ := addition?_eq_some.1 h
  rw [Addition.apply, Page.value?_set (object?_of_selected ho)]
  change (if a.spot = s then _ else _) = _
  by_cases hs : a.spot = s
  · rw [if_pos hs, if_pos hs, ← hs, text_eq h]
  · rw [if_neg hs, if_neg hs]

/-- The value of a property is that before, with the entries of the additions to it behind. -/
theorem value?_written (b : Batch) (page : Page) (calls : List Call) (s : Page.Spot) :
    (b.written page calls).value? s =
      ((b.additions page calls).filter (·.spot = s)).foldl
        (fun value a => some (a.onto (value.getD ""))) (page.value? s) := by
  induction calls generalizing page with
  | nil => rfl
  | cons c rest ih =>
    rw [written, additions]
    cases h : b.addition? page c with
    | none => exact ih page
    | some a =>
      rw [List.foldl_cons]
      refine (ih (a.apply page)).trans ?_
      rw [value?_apply h]
      by_cases hs : a.spot = s
      · rw [if_pos hs, List.filter_cons_of_pos (by simpa using hs), List.foldl_cons]
        rfl
      · rw [if_neg hs, List.filter_cons_of_neg (by simpa using hs)]

theorem exists_textAt_written (b : Batch) (page : Page) (calls : List Call) (s : Page.Spot) :
    ∃ tail, (b.written page calls).textAt s = page.textAt s ++ tail := by
  rw [Page.textAt, value?_written, Page.textAt]
  generalize page.value? s = value
  induction (b.additions page calls).filter (·.spot = s) generalizing value with
  | nil => exact ⟨"", String.append_empty.symm⟩
  | cons a rest ih =>
    obtain ⟨tail, ht⟩ := ih (some (a.onto (value.getD "")))
    obtain ⟨entry, he⟩ := exists_onto a (value.getD "")
    exact ⟨entry ++ tail, by rw [List.foldl_cons, ht, Option.getD_some, he, String.append_assoc]⟩

/-- The text that an addition leaves stays the start of the text of its property. -/
theorem exists_textAt_of_addition (h : a ∈ b.additions page calls) :
    ∃ tail, (b.written page calls).textAt a.spot = a.text ++ tail := by
  induction calls generalizing page with
  | nil => cases h
  | cons c rest ih =>
    rw [additions] at h
    rw [written, additions]
    cases hc : b.addition? page c with
    | none =>
      rw [hc] at h
      exact ih h
    | some first =>
      rw [hc] at h
      rcases List.mem_cons.1 h with rfl | h
      · obtain ⟨tail, ht⟩ := b.exists_textAt_written (a.apply page) rest a.spot
        refine ⟨tail, ht.trans ?_⟩
        rw [Page.textAt, value?_apply hc, if_pos rfl, Option.getD_some, text_eq hc]
      · exact ih h

/-- Where a field selects an object, calls for that field record in the text of that object alone. -/
theorem selected_written (h : b.object? page f.values = some o) (hf : ∀ c ∈ calls, c.field = f) :
    ∃ o', b.object? (b.written page calls) f.values = some o' ∧ o'.className = o.className ∧
      o'.number = o.number ∧
      f.textIn o' = f.recordCalls (f.textIn o) calls := by
  induction calls generalizing page o with
  | nil => exact ⟨o, h, rfl, rfl, rfl⟩
  | cons c rest ih =>
    have hrest : ∀ c ∈ rest, c.field = f := fun c hc => hf c (List.mem_cons_of_mem _ hc)
    obtain rfl : c.field = f := hf c List.mem_cons_self
    rw [Field.recordCalls_cons, written, additions]
    cases hh : c.field.hasEntry c.group c.role (c.field.textIn o) with
    | true =>
      have hnone : b.addition? page c = none := by simp [addition?, h, hh]
      rw [hnone, Field.record, if_pos hh]
      exact ih h hrest
    | false =>
      have hsome : b.addition? page c = some ⟨c, o⟩ := addition?_eq_some.2 ⟨rfl, h, hh⟩
      rw [hsome, Field.record, if_neg (by simp [hh])]
      obtain ⟨o', ho', hc, hn, ht⟩ := ih (object?_set h (Addition.text ⟨c, o⟩)) hrest
      refine ⟨o', ho', hc, hn, ht.trans ?_⟩
      rw [Field.textIn, Table.find?_insert, if_pos rfl, Option.getD_some]
      rfl

end Batch

end IdentityBridge.Provenance
