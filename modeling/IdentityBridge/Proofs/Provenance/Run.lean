import IdentityBridge.Proofs.Provenance.Addition

/-! Runs of calls on one batch. For each name the batch ends with a copy of a page as the calls under this
name have written it. Saving writes the changed copies one after the other, so that of several copies of one
page, under several names, the last one stays. -/

namespace IdentityBridge.Provenance.Batch

variable {b b' b'' : Batch} {d : Directory} {calls : List Call} {c : Call} {name : String}
  {page : Page}

/-- The batch after calls, one after the other. -/
def addAll (b : Batch) (d : Directory) (calls : List Call) : Batch :=
  calls.foldl (fun b c => b.add d c.field c.group c.role) b

/-- The name under which the page of a call is kept. -/
def nameOf (b : Batch) (c : Call) : String := b.pageName c.field.values.page

/-- The calls for a page of a name. Those without a configured page are for none. -/
def under (b : Batch) (name : String) (calls : List Call) : List Call :=
  calls.filter fun c => c.field.values.page ≠ "" ∧ b.nameOf c = name

/-- The page under a name: the copy of it, or the page that would be loaded. -/
def copy (b : Batch) (d : Directory) (name : String) : Page :=
  (b.pages.find? name).getD (d.page (b.reference name))

/-! ### Batches with the same names -/

theorem Agrees.object? (h : Agrees b b') : b'.object? = b.object? := by
  funext page values
  rw [Batch.object?, Batch.object?, h.mainWiki, h.defaultSpace]

theorem Agrees.addition? (h : Agrees b b') : b'.addition? = b.addition? := by
  funext page c
  rw [Batch.addition?, Batch.addition?, h.object?]

theorem Agrees.additions (h : Agrees b b') : b'.additions = b.additions := by
  funext page calls
  induction calls generalizing page with
  | nil => rfl
  | cons c rest ih => simp only [Batch.additions, h.addition?, ih]

theorem Agrees.written (h : Agrees b b') : b'.written = b.written := by
  funext page calls
  rw [Batch.written, Batch.written, h.additions]

theorem Agrees.under (h : Agrees b b') : b'.under = b.under := by
  have hname : b'.nameOf = b.nameOf := by
    funext c
    rw [nameOf, nameOf, h.pageName]
  funext name calls
  rw [Batch.under, Batch.under, hname]

/-! ### One call -/

/-- Without outages a page is loaded as its copy, which is kept from then on. -/
theorem exists_load (ho : d.outages = {}) (b : Batch) (name : String) :
    ∃ b', b.load d name = .ok (b.copy d name, b') ∧ Agrees b b' ∧ b'.changed = b.changed ∧
      b'.copy d = b.copy d := by
  cases hf : b.pages.find? name with
  | some page =>
    refine ⟨b, ?_, ⟨rfl, rfl⟩, rfl, rfl⟩
    rw [load, copy, hf]
    rfl
  | none =>
    refine ⟨{ b with pages := b.pages.insert name (d.page (b.reference name)) }, ?_, ⟨rfl, rfl⟩, rfl,
      funext fun name' => ?_⟩
    · rw [load, copy, hf]
      change (d.load (b.reference name) >>= fun page => _) = _
      rw [Directory.load_of_outages ho]
      rfl
    · rw [copy, copy, Table.find?_insert]
      split
      · next hn =>
        subst hn
        rw [hf]
        rfl
      · rfl

theorem add_eq {page : Page} (hp : c.field.values.page ≠ "")
    (hl : b.load d (b.nameOf c) = .ok (page, b')) (h : Agrees b b') :
    b.add d c.field c.group c.role =
      match b.addition? page c with
      | none => b'
      | some a => { b' with
          pages := b'.pages.insert (b.nameOf c) (a.apply page)
          changed := insertNew (b.nameOf c) b'.changed } := by
  have hl : b.load d (b.pageName c.field.values.page) = .ok (page, b') := hl
  rw [add, if_neg hp, addition?, ← h.object?]
  simp only [hl]
  cases b'.object? page c.field.values with
  | none => rfl
  | some o =>
    dsimp only
    by_cases hh : c.field.hasEntry c.group c.role (c.field.textIn o) = true
    · rw [if_pos hh]
      exact if_pos hh
    · rw [if_neg hh]
      exact if_neg hh

theorem under_singleton (b : Batch) (name : String) (c : Call) :
    b.under name [c] = if c.field.values.page ≠ "" ∧ b.nameOf c = name then [c] else [] := by
  by_cases h : c.field.values.page ≠ "" ∧ b.nameOf c = name
  · rw [if_pos h, under, List.filter_cons_of_pos (by simpa using h)]
    rfl
  · rw [if_neg h, under, List.filter_cons_of_neg (by simpa using h)]
    rfl

/-- What a batch is after calls. -/
structure Ran (b : Batch) (d : Directory) (calls : List Call) (b' : Batch) : Prop where
  agrees : Agrees b b'
  copy (name : String) : b'.copy d name = b.written (b.copy d name) (b.under name calls)
  changed (name : String) : name ∈ b'.changed ↔
    name ∈ b.changed ∨ b.additions (b.copy d name) (b.under name calls) ≠ []
  nodup : b.changed.Nodup → b'.changed.Nodup

theorem add_ran (ho : d.outages = {}) (b : Batch) (c : Call) :
    Ran b d [c] (b.add d c.field c.group c.role) := by
  by_cases hp : c.field.values.page = ""
  · have hnone (name : String) : b.under name [c] = [] := by
      rw [under_singleton, if_neg fun h => h.1 hp]
    rw [add, if_pos hp]
    exact ⟨⟨rfl, rfl⟩, fun name => by rw [hnone]; rfl, fun name => by simp [hnone, additions], id⟩
  obtain ⟨b', hl, hb, hchanged, hcopy⟩ := exists_load ho b (b.nameOf c)
  rw [add_eq hp hl hb]
  have hunder (name : String) : b.under name [c] = if b.nameOf c = name then [c] else [] := by
    rw [under_singleton]
    simp only [ne_eq, hp, not_false_eq_true, true_and]
  cases ha : b.addition? (b.copy d (b.nameOf c)) c with
  | none =>
    have hnone (name : String) : b.additions (b.copy d name) (b.under name [c]) = [] := by
      rw [hunder]
      split
      · next hn => rw [← hn, additions, ha]; rfl
      · rfl
    refine ⟨hb, fun name => ?_, fun name => ?_, fun hn => hchanged ▸ hn⟩
    · rw [written, hnone, hcopy]
      rfl
    · simp only [hchanged, hnone, ne_eq, not_true_eq_false, or_false]
  | some a =>
    have hsome : b.additions (b.copy d (b.nameOf c)) (b.under (b.nameOf c) [c]) = [a] := by
      rw [hunder, if_pos rfl, additions, ha]
      rfl
    refine ⟨⟨hb.mainWiki, hb.defaultSpace⟩, fun name => ?_, fun name => ?_, fun hn => ?_⟩
    · by_cases hn : b.nameOf c = name
      · subst hn
        rw [written, hsome, copy, Table.find?_insert, if_pos rfl]
        rfl
      · rw [hunder, if_neg hn, copy, Table.find?_insert, if_neg hn]
        exact congrFun hcopy name
    · dsimp only
      rw [mem_insertNew, hchanged]
      by_cases hn : b.nameOf c = name
      · subst hn
        simp [hsome]
      · simp [hunder, hn, Ne.symm hn, additions]
    · dsimp only
      rw [hchanged]
      exact nodup_insertNew hn

theorem Ran.trans {calls' : List Call} (h : Ran b d calls b') (h' : Ran b' d calls' b'') :
    Ran b d (calls ++ calls') b'' := by
  have hunder (name : String) :
      b.under name (calls ++ calls') = b.under name calls ++ b.under name calls' :=
    List.filter_append ..
  refine ⟨h.agrees.trans h'.agrees, fun name => ?_, fun name => ?_, fun hn => h'.nodup (h.nodup hn)⟩
  · rw [h'.copy, h.copy, h.agrees.written, h.agrees.under, hunder, written_append]
  · rw [h'.changed, h.changed, h.copy, h.agrees.additions, h.agrees.under, hunder,
      additions_append, or_assoc]
    simp only [ne_eq, List.append_eq_nil_iff, not_and_or]

theorem addAll_ran (ho : d.outages = {}) (b : Batch) (calls : List Call) :
    Ran b d calls (b.addAll d calls) := by
  induction calls generalizing b with
  | nil => exact ⟨⟨rfl, rfl⟩, fun _ => rfl, fun name => by simp [addAll, under, additions], id⟩
  | cons c rest ih => exact (add_ran ho b c).trans (ih _)

theorem copies_addAll (hc : b.Copies d) (calls : List Call) : (b.addAll d calls).Copies d := by
  induction calls generalizing b with
  | nil => exact hc
  | cons c rest ih => exact ih ((b.add_adds d c.field c.group c.role).copies hc)

/-! ### Saving -/

/-- The directory after pages have been saved, one after the other. -/
def putAll (d : Directory) (pages : List Page) : Directory :=
  pages.foldl (fun d page => d.put page comment) d

theorem putAll_cons (d : Directory) (page : Page) (pages : List Page) :
    putAll d (page :: pages) = putAll (d.put page comment) pages := rfl

theorem putAll_append (d : Directory) (pages pages' : List Page) :
    putAll d (pages ++ pages') = putAll (putAll d pages) pages' := List.foldl_append

/-- A fold over names whose steps save their copies saves the copies, one after the other. -/
theorem foldl_eq_putAll {step : Directory → String → Directory}
    (h : ∀ d' name, d'.outages = {} → name ∈ b.changed →
      step d' name = d'.put (b.copy d name) comment)
    (names : List String) (hn : ∀ name ∈ names, name ∈ b.changed) {d' : Directory}
    (ho : d'.outages = {}) : names.foldl step d' = putAll d' (names.map (b.copy d)) := by
  induction names generalizing d' with
  | nil => rfl
  | cons name rest ih =>
    obtain ⟨hname, hrest⟩ := List.forall_mem_cons.1 hn
    rw [List.foldl_cons, h d' name ho hname, List.map_cons, putAll_cons]
    exact ih hrest ho

theorem save_eq (ho : d.outages = {}) (hc : b.Copies d) :
    b.save d = putAll d (b.changed.map (b.copy d)) := by
  refine foldl_eq_putAll (fun d' name ho' hname => ?_) b.changed (fun _ h => h) ho
  obtain ⟨page, hp, -⟩ := hc.changed name hname
  have hcopy : b.copy d name = page := by
    rw [copy, hp]
    rfl
  simp only [hp, Directory.save_of_outages ho', hcopy]
  rfl

theorem saves_putAll (d : Directory) (pages : List Page) :
    (putAll d pages).saves = d.saves ++ pages.map fun page => (page.reference, comment) := by
  induction pages generalizing d with
  | nil => exact (List.append_nil _).symm
  | cons page rest ih =>
    rw [putAll_cons, ih]
    exact List.append_assoc ..

theorem outages_putAll (d : Directory) (pages : List Page) : (putAll d pages).outages = d.outages := by
  induction pages generalizing d with
  | nil => rfl
  | cons page rest ih => exact ih (d.put page comment)

theorem find?_putAll {pages : List Page} {r : Reference} (h : ∀ page ∈ pages, page.reference ≠ r) :
    (putAll d pages).pages.find? r = d.pages.find? r := by
  induction pages generalizing d with
  | nil => rfl
  | cons page rest ih =>
    rw [putAll_cons, ih fun p hp => h p (List.mem_cons_of_mem _ hp), Directory.find?_put,
      if_neg (h page List.mem_cons_self)]

theorem page_congr {d' : Directory} {r : Reference} (h : d'.pages.find? r = d.pages.find? r) :
    d'.page r = d.page r := by rw [Directory.page, Directory.page, h]

/-- Of the pages under one reference the one saved last stays. -/
theorem page_putAll {later : List Page} (earlier : List Page)
    (h : ∀ p ∈ later, p.reference ≠ page.reference) :
    (putAll d (earlier ++ page :: later)).page page.reference = { page with isNew := false } := by
  rw [putAll_append, putAll_cons, page_congr (find?_putAll h), Directory.page_put, if_pos rfl]

theorem Copies.reference_copy (hc : b.Copies d) (name : String) :
    (b.copy d name).reference = b.reference name := by
  rw [copy]
  cases hp : b.pages.find? name with
  | none => exact Directory.reference_page d _
  | some page => exact (hc.loaded name page hp).reference.trans (Directory.reference_page d _)

theorem Copies.isNew_copy (hc : b.Copies d) (hn : name ∈ b.changed) :
    (b.copy d name).isNew = false := by
  obtain ⟨page, hp, hnew⟩ := hc.changed name hn
  rwa [copy, hp]

theorem save_of_unchanged (h : b.changed = []) : b.save d = d := by
  rw [save, h]
  rfl

theorem saves_save (ho : d.outages = {}) (hc : b.Copies d) :
    (b.save d).saves = d.saves ++ b.changed.map fun name => (b.reference name, comment) := by
  rw [save_eq ho hc, saves_putAll, List.map_map]
  congr 2
  funext name
  exact congrArg (·, comment) (hc.reference_copy name)

theorem find?_save (ho : d.outages = {}) (hc : b.Copies d) {r : Reference}
    (h : ∀ name ∈ b.changed, b.reference name ≠ r) :
    (b.save d).pages.find? r = d.pages.find? r := by
  rw [save_eq ho hc]
  refine find?_putAll fun page hp => ?_
  obtain ⟨name, hn, rfl⟩ := List.mem_map.1 hp
  rw [hc.reference_copy]
  exact h name hn

/-- The page under a name is saved, and the same page is not saved under another name after that. -/
def SavedLast (b : Batch) (name : String) : Prop :=
  ∃ earlier later, b.changed = earlier ++ name :: later ∧
    ∀ other ∈ later, b.reference other ≠ b.reference name

theorem page_save (ho : d.outages = {}) (hc : b.Copies d) (hl : b.SavedLast name) :
    (b.save d).page (b.reference name) = b.copy d name := by
  obtain ⟨earlier, later, hchanged, hlater⟩ := hl
  have hname : name ∈ b.changed := by simp [hchanged]
  have hnew := hc.isNew_copy hname
  rw [save_eq ho hc, hchanged, List.map_append, List.map_cons, ← hc.reference_copy name,
    page_putAll, ← hnew]
  intro page hp
  obtain ⟨other, hn, rfl⟩ := List.mem_map.1 hp
  rw [hc.reference_copy, hc.reference_copy]
  exact hlater other hn

end IdentityBridge.Provenance.Batch
