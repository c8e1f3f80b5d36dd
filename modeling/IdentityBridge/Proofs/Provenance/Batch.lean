import IdentityBridge.Provenance.Batch
import IdentityBridge.Proofs.Membership.Step

/-! What a batch holds and what saving it changes. Its pages are copies of pages of the directory that
differ from these in values of properties alone. The changed ones exist already, and they are all that is
saved. -/

namespace IdentityBridge

namespace Page

variable {p p' p'' : Page}

/-- The same objects under the same numbers, perhaps with other values. -/
structure Revises (p p' : Page) : Prop where
  reference : p'.reference = p.reference
  isNew : p'.isNew = p.isNew
  slots (className : String) :
    (p'.slotsOf className).map Option.isSome = (p.slotsOf className).map Option.isSome

theorem Revises.refl (p : Page) : p.Revises p := ⟨rfl, rfl, fun _ => rfl⟩

theorem Revises.trans (h : p.Revises p') (h' : p'.Revises p'') : p.Revises p'' :=
  ⟨h'.reference.trans h.reference, h'.isNew.trans h.isNew,
    fun className => (h'.slots className).trans (h.slots className)⟩

theorem revises_set (p : Page) (o : PageObject) (property value : String) :
    p.Revises (p.set o property value) := by
  refine ⟨rfl, rfl, fun className => ?_⟩
  rw [set, slotsOf_modify]
  split
  · refine List.ext_getElem? fun n => ?_
    simp only [List.getElem?_map, List.getElem?_modify]
    cases (p.slotsOf className)[n]? with
    | none => rfl
    | some slot => by_cases h : o.number = n <;> simp [h]
  · rfl

/-- A page without slots has no objects, nor has one that revises it. -/
theorem Revises.slotsOf_eq_nil (h : p.Revises p') {className : String} (hn : p.slotsOf className = []) :
    p'.slotsOf className = [] := by
  have hs := h.slots className
  rw [hn, List.map_nil] at hs
  exact List.map_eq_nil_iff.1 hs

theorem objects_eq_nil (h : ∀ className, p.slotsOf className = []) : p.objects = [] := by
  refine List.flatMap_eq_nil_iff.2 ?_
  rintro ⟨className, slots⟩ he
  have hs := h className
  rw [slotsOf, Table.find?_eq_some.2 he, Option.getD_some] at hs
  subst hs
  rfl

end Page

namespace Provenance.Batch

variable {b b' b'' : Batch} {d d' : Directory} {f : Field} {group : Reference} {role name : String}
  {page : Page}

/-- The reference that a name stands for. -/
def reference (b : Batch) (name : String) : Reference :=
  Reference.resolve name b.mainWiki b.defaultSpace

theorem object?_eq_none (b : Batch) (h : ∀ className, page.slotsOf className = [])
    (values : FieldValues) : b.object? page values = none := by
  unfold object?
  split
  · rw [Page.firstWith?, Page.objects_eq_nil h]
    rfl
  · dsimp only
    split
    · rw [Page.firstOf?, Page.objectsOf, h]
      rfl
    · next number _ =>
      cases number with
      | ofNat n => simp [Page.object?, h]
      | negSucc n => rfl

/-! ### Loading and adding -/

/-- What loading a page comes to where it does not fail. -/
inductive Loads (b : Batch) (d : Directory) (name : String) : Page × Batch → Prop where
  | kept (page : Page) (h : b.pages.find? name = some page) : Loads b d name (page, b)
  | fetched (h : b.pages.find? name = none) : Loads b d name (d.page (b.reference name),
      { b with pages := b.pages.insert name (d.page (b.reference name)) })

theorem load_loads {r : Page × Batch} (h : b.load d name = .ok r) : Loads b d name r := by
  unfold load at h
  cases hf : b.pages.find? name with
  | some page =>
    rw [hf] at h
    cases h
    exact .kept page hf
  | none =>
    simp only [hf] at h
    obtain ⟨page, hl, h⟩ := Outcome.bind_eq_ok.1 h
    rcases Directory.load_cases d (b.reference name) with hd | ⟨⟨e, hd⟩, -⟩
    · cases hl.symm.trans hd
      cases h
      exact .fetched hf
    · cases hl.symm.trans hd

/-- What adding an entry comes to. -/
inductive Adds (b : Batch) (d : Directory) (f : Field) (group : Reference) (role : String) :
    Batch → Prop where
  /-- No page is configured, or it cannot be loaded. -/
  | passed : Adds b d f group role b
  /-- The page lacks the object, or the entry is there. -/
  | found (page : Page) (b' : Batch) (hl : Loads b d (b.pageName f.values.page) (page, b'))
      (ho : ∀ o, b'.object? page f.values = some o →
        f.hasEntry group role ((o.fields.find? f.values.propertyName).getD "") = true) :
      Adds b d f group role b'
  | extended (page : Page) (b' : Batch) (o : PageObject) (hp : f.values.page ≠ "")
      (hl : Loads b d (b.pageName f.values.page) (page, b'))
      (ho : b'.object? page f.values = some o)
      (hn : f.hasEntry group role ((o.fields.find? f.values.propertyName).getD "") = false) :
      Adds b d f group role { b' with
        pages := b'.pages.insert (b.pageName f.values.page)
          (page.set o f.values.propertyName
            (extend f ((o.fields.find? f.values.propertyName).getD "") (f.entry group role)))
        changed := insertNew (b.pageName f.values.page) b'.changed }

theorem add_adds (b : Batch) (d : Directory) (f : Field) (group : Reference) (role : String) :
    Adds b d f group role (b.add d f group role) := by
  unfold add
  split
  · exact .passed
  next hp =>
  dsimp only
  split
  · exact .passed
  next page b' hl =>
  have hl := load_loads hl
  split
  · next ho => exact .found page b' hl fun o h => by cases ho.symm.trans h
  · next o ho =>
    split
    · next hh =>
      refine .found page b' hl fun o' h => ?_
      cases ho.symm.trans h
      exact hh
    · next hn => exact .extended page b' o hp hl ho (Bool.eq_false_iff.2 hn)

/-! ### Copies -/

/-- The pages of a batch revise those of the directory, and no changed one is new. -/
structure Copies (b : Batch) (d : Directory) : Prop where
  loaded : ∀ name page, b.pages.find? name = some page → (d.page (b.reference name)).Revises page
  changed : ∀ name ∈ b.changed, ∃ page, b.pages.find? name = some page ∧ page.isNew = false

theorem copies_empty (mainWiki defaultSpace : String) (d : Directory) :
    Copies { mainWiki, defaultSpace } d := ⟨by simp, by simp⟩

/-- Names stand for the same pages. -/
structure Agrees (b b' : Batch) : Prop where
  mainWiki : b'.mainWiki = b.mainWiki
  defaultSpace : b'.defaultSpace = b.defaultSpace

theorem Agrees.trans (h : Agrees b b') (h' : Agrees b' b'') : Agrees b b'' :=
  ⟨h'.mainWiki.trans h.mainWiki, h'.defaultSpace.trans h.defaultSpace⟩

theorem Agrees.reference (h : Agrees b b') : b'.reference = b.reference := by
  funext name
  rw [Batch.reference, Batch.reference, h.mainWiki, h.defaultSpace]

theorem Agrees.pageName (h : Agrees b b') : b'.pageName = b.pageName := by
  funext page
  rw [Batch.pageName, Batch.pageName, h.mainWiki]

theorem Loads.agrees (h : Loads b d name (page, b')) : Agrees b b' := by
  cases h <;> exact ⟨rfl, rfl⟩

theorem Loads.changed (h : Loads b d name (page, b')) : b'.changed = b.changed := by
  cases h <;> rfl

theorem Loads.find? (h : Loads b d name (page, b')) : b'.pages.find? name = some page := by
  cases h with
  | kept _ h => exact h
  | fetched => rw [Table.find?_insert, if_pos rfl]

theorem Loads.copies (h : Loads b d name (page, b')) (hc : b.Copies d) : b'.Copies d := by
  cases h with
  | kept => exact hc
  | fetched hn =>
    refine ⟨fun name' page' h => ?_, fun name' h => ?_⟩
    · rw [Table.find?_insert] at h
      split at h
      · next he =>
        cases h
        subst he
        exact .refl _
      · exact hc.loaded name' page' h
    · obtain ⟨page', hp, hnew⟩ := hc.changed name' h
      refine ⟨page', ?_, hnew⟩
      rw [Table.find?_insert, if_neg]
      · exact hp
      · rintro rfl
        cases hn.symm.trans hp

/-- Only a page that exists has an object to change. -/
theorem Copies.isNew_of_object? (hc : b.Copies d) (hp : b.pages.find? name = some page)
    {values : FieldValues} {o : PageObject} (ho : b.object? page values = some o) :
    page.isNew = false := by
  have hr := hc.loaded name page hp
  rw [hr.isNew, Directory.isNew_page, Directory.contains, Table.contains]
  cases hf : d.pages.find? (b.reference name) with
  | some page => rfl
  | none =>
    have hblank : d.page (b.reference name) = { reference := b.reference name } := by
      rw [Directory.page, hf, Option.getD_none]
    have hnone : b.object? page values = none :=
      b.object?_eq_none (fun className => hr.slotsOf_eq_nil (by rw [hblank]; rfl)) values
    cases hnone.symm.trans ho

theorem Adds.agrees (h : Adds b d f group role b') : Agrees b b' := by
  cases h with
  | passed => exact ⟨rfl, rfl⟩
  | found _ _ hl => exact hl.agrees
  | extended _ b' _ _ hl => exact ⟨hl.agrees.mainWiki, hl.agrees.defaultSpace⟩

/-- Nothing is changed but the page of the field. -/
theorem Adds.mem_changed (h : Adds b d f group role b') (hn : name ∈ b'.changed) :
    name ∈ b.changed ∨ f.values.page ≠ "" ∧ name = b.pageName f.values.page := by
  cases h with
  | passed => exact .inl hn
  | found _ _ hl => exact .inl (hl.changed ▸ hn)
  | extended _ _ _ hp hl =>
    rcases mem_insertNew.1 hn with hn | hn
    · exact .inr ⟨hp, hn⟩
    · exact .inl (hl.changed ▸ hn)

theorem Adds.copies (h : Adds b d f group role b') (hc : b.Copies d) : b'.Copies d := by
  cases h with
  | passed => exact hc
  | found page b' hl => exact hl.copies hc
  | extended page b' o hp hl ho hn =>
    have hc' := hl.copies hc
    have hnew := hc'.isNew_of_object? hl.find? ho
    refine ⟨fun name' page' h => ?_, fun name' h => ?_⟩
    · rw [Table.find?_insert] at h
      split at h
      · next he =>
        cases h
        subst he
        exact (hc'.loaded _ page hl.find?).trans (Page.revises_set _ _ _ _)
      · exact hc'.loaded name' page' h
    · rw [Table.find?_insert]
      split
      · exact ⟨_, rfl, hnew⟩
      · next he =>
        rcases mem_insertNew.1 h with rfl | h
        · exact absurd rfl he
        · exact hc'.changed name' h

/-! ### Saving -/

/-- All that differs are pages that a batch has changed, and they differ in values of properties alone. -/
def Recorded (b : Batch) (d d' : Directory) : Prop :=
  ∀ g, d'.pages.find? g = d.pages.find? g ∨
    (∃ name ∈ b.changed, b.reference name = g) ∧ d.contains g = true ∧
      (d.page g).Revises (d'.page g)

theorem Recorded.put (h : b.Recorded d d') (hc : b.Copies d) (hn : name ∈ b.changed)
    (hp : b.pages.find? name = some page) (comment : String) :
    b.Recorded d (d'.put page comment) := by
  have hr := hc.loaded name page hp
  have hreference : page.reference = b.reference name := by
    rw [hr.reference, Directory.reference_page]
  have hnew : page.isNew = false := by
    obtain ⟨page', hp', hnew⟩ := hc.changed name hn
    cases hp.symm.trans hp'
    exact hnew
  intro g
  by_cases hg : b.reference name = g
  · subst hg
    refine .inr ⟨⟨name, hn, rfl⟩, ?_, ?_⟩
    · rw [← Bool.not_eq_false', ← Directory.isNew_page, ← hr.isNew]
      exact hnew
    · rw [Directory.page_put, if_pos hreference, ← hnew]
      exact hr
  · have hne : page.reference ≠ g := fun he => hg (hreference.symm.trans he)
    have hfind : (d'.put page comment).pages.find? g = d'.pages.find? g := by
      rw [Directory.find?_put, if_neg hne]
    rw [hfind, Directory.page_put, if_neg hne]
    exact h g

/-- Saving a batch creates no page, and the pages it changes keep their objects. -/
theorem save_recorded (hc : b.Copies d) : b.Recorded d (b.save d) := by
  refine List.foldlRecOn b.changed _ (motive := b.Recorded d) (fun g => .inl rfl) ?_
  intro d' h name hn
  cases hp : b.pages.find? name with
  | none => exact h
  | some page =>
    rcases Directory.save_cases d' page comment with hs | ⟨⟨e, hs⟩, -⟩
    · simp only [hs]
      exact h.put hc hn hp comment
    · simp only [hs]
      exact h

end Provenance.Batch

end IdentityBridge
