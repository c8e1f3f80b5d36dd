import IdentityBridge.Proofs.Page.History
import IdentityBridge.Proofs.Page.Objects

/-! Slots of drafts after any history. The slots of a class are its objects in order of creation, with a gap
for each that has been removed, and every lookup finds what stands in them. The invariant relates handles,
numbers and slots; each step keeps it, whatever it does to an object that is there or removed. -/

namespace IdentityBridge.Page.Draft

variable {history : List Op} {op : Op} {d : Draft} {className : String} {handle : Nat} {o : PageObject}

/-! ### What a draft keeps -/

/-- What the handle of an object stands for after a history. -/
def standing (history : List Op) (handle : Nat) (o : PageObject) : Handle :=
  if .remove handle ∈ history then .detached o else .attached o.className o.number

theorem standing_append_of_ne (h : op.handle? ≠ some handle) (o : PageObject) :
    standing (history ++ [op]) handle o = standing history handle o := by
  simp only [standing, remove_mem_append h]

/-- A draft is what its history has made of it. -/
structure Follows (history : List Op) (d : Draft) : Prop where
  length : d.handles.length = (created history).length
  handles : ∀ handle o, made? history handle = some o →
    d.handles[handle]? = some (standing history handle o)
  slots : ∀ className,
    d.page.slotsOf className = (handlesOf (created history) className).map (slot history)
  classes : d.page.slots.keys = (created history).eraseDups

theorem follows_empty (reference : Reference) : Follows [] { page := { reference } } where
  length := rfl
  handles handle o h := by simp [made?, created] at h
  slots className := rfl
  classes := rfl

theorem Follows.attached (h : Follows history d) (ho : made? history handle = some o)
    (hr : .remove handle ∉ history) : d.handles[handle]? = some (.attached o.className o.number) := by
  rw [h.handles handle o ho, standing, if_neg hr]

theorem Follows.detached (h : Follows history d) (ho : made? history handle = some o)
    (hr : .remove handle ∈ history) : d.handles[handle]? = some (.detached o) := by
  rw [h.handles handle o ho, standing, if_pos hr]

theorem Follows.nextNumber_eq (h : Follows history d) (className : String) :
    d.page.nextNumber className = (created history).count className := by
  rw [nextNumber, h.slots, List.length_map, length_handlesOf]

/-- The object of a class and a number is found if it has not been removed. -/
theorem Follows.object?_made (h : Follows history d) (ho : made? history handle = some o) :
    d.page.object? o.className o.number = present? history handle := by
  obtain ⟨hclass, hnumber, -⟩ := made?_eq_some.1 ho
  rw [object?_ofNat, h.slots, List.getElem?_map, ← hnumber, getElem?_handlesOf hclass, Option.map_some,
    Option.join_some, hnumber, present?_eq_map_slot ho]

/-- So a handle always leads to its object. -/
theorem Follows.object?_eq (h : Follows history d) (ho : made? history handle = some o) :
    d.object? handle = some o := by
  by_cases hr : .remove handle ∈ history
  · simp only [Draft.object?, h.detached ho hr]
  · simp only [Draft.object?, h.attached ho hr, h.object?_made ho, present?, if_neg hr, ho]

/-! ### Steps -/

theorem Follows.create (h : Follows history d) (hs : Spoken history) (className : String) :
    Follows (history ++ [.create className]) (d.create className) := by
  have hcreated : created (history ++ [.create className]) = created history ++ [className] :=
    created_append history _
  have hlength : (d.create className).handles.length = (created history).length + 1 := by
    simp [Draft.create, h.length]
  have hother (handle : Nat) : (Op.create className).handle? ≠ some handle := by simp [Op.handle?]
  refine ⟨?_, fun handle o ho => ?_, fun other => ?_, ?_⟩
  · rw [hlength, hcreated, List.length_append, List.length_singleton]
  · rw [standing_append_of_ne (hother handle)]
    have hlt := lt_of_made? ho
    rw [hcreated, List.length_append, List.length_singleton] at hlt
    by_cases hl : handle < (created history).length
    · rw [made?_append_of_ne hl (hother handle)] at ho
      exact (List.getElem?_append_left (h.length ▸ hl)).trans (h.handles handle o ho)
    · -- the new object comes after those that have been made before
      obtain rfl : handle = (created history).length := by omega
      obtain ⟨hclass, hnumber, -⟩ := made?_eq_some.1 ho
      rw [hcreated, List.getElem?_concat_length, Option.some.injEq] at hclass
      rw [hcreated, List.take_left, ← h.nextNumber_eq] at hnumber
      rw [standing, if_neg (hs.not_removed (Nat.le_refl _)), ← hnumber, ← hclass, ← h.length]
      exact List.getElem?_concat_length
  · have hslots : (d.create className).page.slotsOf other = if className = other then
        d.page.slotsOf other ++ [some .empty] else d.page.slotsOf other := slotsOf_add _ _ _ _
    have hnew : slot history (created history).length = some .empty := by
      rw [slot, if_neg (hs.not_removed (Nat.le_refl _)), hs.texts_eq_empty (Nat.le_refl _)]
    have hslot : slot (history ++ [.create className]) = slot history :=
      funext fun handle => slot_append_of_ne (hother handle)
    rw [hslots, hcreated, handlesOf_append, hslot, List.map_append, ← h.slots]
    by_cases hc : className = other <;> simp [hc, hnew]
  · have hkeys := Table.keys_insert_of_keys h.classes className
      (d.page.slotsOf className ++ [some .empty])
    rw [hcreated]
    exact hkeys

/-- What is done to one object leaves the handles of all others as they are. -/
theorem Follows.of_handle? (h : Follows history d) {d' : Draft} (hop : op.handle? = some handle)
    (hlength : d'.handles.length = d.handles.length)
    (hothers : ∀ x, x ≠ handle → d'.handles[x]? = d.handles[x]?)
    (hmade : made? (history ++ [op]) handle = some o)
    (hsame : d'.handles[handle]? = some (standing (history ++ [op]) handle o))
    (hslots : ∀ className, d'.page.slotsOf className =
      (handlesOf (created history) className).map (slot (history ++ [op])))
    (hkeys : d'.page.slots.keys = d.page.slots.keys) : Follows (history ++ [op]) d' := by
  have hcreated : created (history ++ [op]) = created history := created_append_of_handle? hop
  have hne {x : Nat} (hx : x ≠ handle) : op.handle? ≠ some x :=
    fun he => hx (Option.some.inj (he.symm.trans hop))
  have hother {x : Nat} {o : PageObject} (hx : x ≠ handle) (ho : made? (history ++ [op]) x = some o) :
      made? history x = some o := by
    rwa [made?_append_of_ne (hcreated ▸ lt_of_made? ho) (hne hx)] at ho
  refine ⟨?_, fun x o ho => ?_, fun className => ?_, ?_⟩
  · rw [hlength, h.length, hcreated]
  · by_cases hx : x = handle
    · subst hx
      rw [Option.some.inj (ho.symm.trans hmade)]
      exact hsame
    · rw [hothers x hx, standing_append_of_ne (hne hx)]
      exact h.handles x o (hother hx ho)
  · rw [hslots, hcreated]
  · rw [hkeys, h.classes, hcreated]

theorem Follows.set (h : Follows history d) (hlt : handle < (created history).length)
    (property value : String) :
    Follows (history ++ [.set handle property value]) (d.set handle property value) := by
  obtain ⟨o, ho⟩ := exists_made? hlt
  obtain ⟨hclass, hnumber, hfields⟩ := made?_eq_some.1 ho
  have hmade : made? (history ++ [.set handle property value]) handle =
      some { o with fields := o.fields.insert property value } := by
    rw [made?_append hlt, ho, Option.map_some, texts_append]
    simp [Op.text?, hfields]
  have hremoved : Op.remove handle ∈ history ++ [.set handle property value] ↔ .remove handle ∈ history := by
    simp
  by_cases hr : .remove handle ∈ history
  · -- the page does not see the object any more
    have hset : d.set handle property value = { d with
        handles := d.handles.set handle (.detached { o with fields := o.fields.insert property value }) } := by
      simp only [Draft.set, h.detached ho hr]
    rw [hset]
    refine h.of_handle? rfl List.length_set (fun x hx => List.getElem?_set_ne (Ne.symm hx)) hmade ?_
      (fun className => ?_) rfl
    · rw [standing, if_pos (hremoved.2 hr), List.getElem?_set_self (h.length.symm ▸ hlt)]
    · rw [slot_append_of_removed rfl hr]
      exact h.slots className
  · have hattached := h.attached ho hr
    have hset : d.set handle property value =
        { d with page := d.page.modify o.className o.number (·.insert property value) } := by
      simp only [Draft.set, hattached]
    have hslot : slot (history ++ [.set handle property value]) handle =
        (slot history handle).map (·.insert property value) := by
      simp [slot, hr, texts_append, Op.text?]
    rw [hset]
    refine h.of_handle? rfl rfl (fun x hx => rfl) hmade ?_ (fun className => ?_) ?_
    · rw [standing, if_neg (mt hremoved.1 hr)]
      exact hattached
    · rw [slot_append rfl _ hslot, map_handlesOf_update hclass, hnumber, ← h.slots]
      exact slotsOf_modify _ _ _ _ _
    · exact Table.keys_modifyIn _ _ _

theorem Follows.remove? (h : Follows history d) (ho : made? history handle = some o) :
    d.remove? handle = if .remove handle ∈ history then none
      else some ⟨d.page.remove o.className o.number, d.handles.set handle (.detached o)⟩ := by
  by_cases hr : .remove handle ∈ history
  · simp only [Draft.remove?, h.detached ho hr, if_pos hr]
  · simp only [Draft.remove?, h.attached ho hr, h.object?_made ho, present?, if_neg hr, ho,
      Option.map_some]

theorem Follows.remove (h : Follows history d) (hlt : handle < (created history).length) :
    Follows (history ++ [.remove handle]) ((d.remove? handle).getD d) := by
  obtain ⟨o, ho⟩ := exists_made? hlt
  obtain ⟨hclass, hnumber, hfields⟩ := made?_eq_some.1 ho
  have hmade : made? (history ++ [.remove handle]) handle = some o := by
    rw [made?_append hlt, ho, Option.map_some, texts_append]
    simp [Op.text?, hfields]
  have hremoved : Op.remove handle ∈ history ++ [.remove handle] := by simp
  rw [h.remove? ho]
  by_cases hr : .remove handle ∈ history
  · rw [if_pos hr, Option.getD_none]
    refine h.of_handle? rfl rfl (fun x hx => rfl) hmade ?_ (fun className => ?_) rfl
    · rw [standing, if_pos hremoved]
      exact h.detached ho hr
    · rw [slot_append_of_removed rfl hr]
      exact h.slots className
  · have hslot : slot (history ++ [.remove handle]) handle = none := if_pos hremoved
    have hupdate := map_handlesOf_update hclass (slot history) fun _ => none
    rw [if_neg hr, Option.getD_some]
    refine h.of_handle? rfl List.length_set (fun x hx => List.getElem?_set_ne (Ne.symm hx)) hmade ?_
      (fun className => ?_) ?_
    · rw [standing, if_pos hremoved, List.getElem?_set_self (h.length.symm ▸ hlt)]
    · rw [slot_append rfl (fun _ => none) hslot, hupdate, hnumber, ← h.slots, ← List.set_eq_modify]
      exact slotsOf_remove _ _ _ _
    · exact Table.keys_modifyIn o.className (fun slots => slots.set o.number none) d.page.slots.entries

/-- Each step keeps the draft what its history makes of it. -/
theorem Follows.perform (h : Follows history d) (hs : Spoken history)
    (hop : ∀ handle ∈ op.handle?, handle < (created history).length) :
    Follows (history ++ [op]) (op.perform d) := by
  cases op with
  | create className => exact h.create hs className
  | set handle property value => exact h.set (hop handle rfl) property value
  | remove handle => exact h.remove (hop handle rfl)

theorem follows_ofHistory (reference : Reference) (h : Spoken history) :
    Follows history (ofHistory reference history) := by
  induction history using List.reverseRecOn with
  | nil => exact follows_empty reference
  | append_singleton history op ih =>
    obtain ⟨hs, hop⟩ := h.of_append
    rw [ofHistory_append]
    exact (ih hs).perform hs hop

/-! ### Lookups -/

/-- The objects in the slots of a class are those that are there. -/
theorem occupied_map_slot {start : Nat} {handles : List Nat}
    (h : ∀ i handle, handles[i]? = some handle → made? history handle =
      some ⟨className, start + i, texts history handle⟩) :
    occupied className start (handles.map (slot history)) = handles.filterMap (present? history) := by
  induction handles generalizing start with
  | nil => rfl
  | cons handle handles ih =>
    have hrest := ih fun i x hx => by
      rw [h (i + 1) x (by simpa using hx), show start + (i + 1) = start + 1 + i by omega]
    have hpresent := present?_eq_map_slot (h 0 handle rfl)
    rw [List.map_cons, List.filterMap_cons, hpresent]
    cases hslot : slot history handle with
    | none => rw [occupied, hrest, Option.map_none]
    | some fields => rw [occupied, hrest, Option.map_some, Nat.add_zero]

theorem Follows.objectsOf_eq (h : Follows history d) (className : String) :
    d.page.objectsOf className = listed history className := by
  rw [objectsOf, h.slots, listed]
  refine occupied_map_slot fun i handle hh => ?_
  obtain ⟨hclass, hnumber⟩ := getElem?_handlesOf_iff.1 hh
  exact made?_eq_some.2 ⟨hclass, by rw [hnumber, Nat.zero_add], rfl⟩

theorem objects_eq_flatMap (p : Page) : p.objects = p.slots.keys.flatMap p.objectsOf := by
  rw [objects, Table.keys, List.flatMap_map]
  refine List.flatMap_congr fun e he => ?_
  rw [objectsOf, slotsOf, Table.find?_eq_some.2 he, Option.getD_some]

theorem Follows.objects_eq (h : Follows history d) :
    d.page.objects = (created history).eraseDups.flatMap (listed history) := by
  rw [objects_eq_flatMap, h.classes, funext h.objectsOf_eq]

theorem Follows.object?_number (h : Follows history d) (className : String) (number : Nat) :
    d.page.object? className number =
      (handlesOf (created history) className)[number]?.bind (present? history) := by
  cases hh : (handlesOf (created history) className)[number]? with
  | none =>
    rw [object?_ofNat, h.slots, List.getElem?_map, hh]
    rfl
  | some handle =>
    obtain ⟨hclass, hnumber⟩ := getElem?_handlesOf_iff.1 hh
    have hmade : made? history handle = some ⟨className, number, texts history handle⟩ :=
      made?_eq_some.2 ⟨hclass, hnumber, rfl⟩
    exact h.object?_made hmade

/-! ### Stability -/

/-- What a draft shows of its history. -/
structure Stable (history : List Op) (d : Draft) : Prop where
  /-- A slot is that of the object that was created in its place among those of the class. It holds the
  properties of the object until this is removed, and nothing from then on. -/
  slots : ∀ (className : String) (i : Nat),
    (d.page.slotsOf className)[i]? = (handlesOf (created history) className)[i]?.map (slot history)
  /-- A new object gets for its number how many of its class have ever been created. -/
  new : ∀ className, (d.create className).object? (created history).length =
    some ⟨className, (created history).count className, .empty⟩
  /-- No number is given twice in a class. -/
  distinct : ∀ handle handle' o o', made? history handle = some o → made? history handle' = some o' →
    o.className = o'.className → o.number = o'.number → handle = handle'
  /-- A handle leads to its object, be it there or removed. -/
  handles : ∀ handle o, made? history handle = some o → d.object? handle = some o
  /-- Each property is as it was set last. -/
  properties : ∀ handle o, made? history handle = some o → ∀ property,
    o.fields.find? property = lastText? history handle property
  /-- An object can be removed until it is. -/
  remove : ∀ handle o, made? history handle = some o →
    ((d.remove? handle).isSome = true ↔ .remove handle ∉ history)
  /-- That empties its slot and no other. -/
  others : ∀ handle o d', made? history handle = some o → d.remove? handle = some d' →
    ∀ (className : String) (i : Nat), (d'.page.slotsOf className)[i]? =
      if className = o.className ∧ i = o.number then some none else (d.page.slotsOf className)[i]?
  object : ∀ className (i : Nat), d.page.object? className i =
    (handlesOf (created history) className)[i]?.bind (present? history)
  noObject : ∀ className (n : Int), n < 0 → d.page.object? className n = none
  objectsOf : ∀ className, d.page.objectsOf className = listed history className
  firstOf : ∀ className, d.page.firstOf? className = (listed history className).head?
  find : ∀ className property value, d.page.find? className property value =
    (listed history className).find? fun o => o.fields.find? property = some value
  /-- The classes come in the order of their first objects. -/
  objects : d.page.objects = (created history).eraseDups.flatMap (listed history)
  firstWith : ∀ property, d.page.firstWith? property =
    ((created history).eraseDups.flatMap (listed history)).find? (·.fields.contains property)

theorem Follows.object?_create (h : Follows history d) (hs : Spoken history) (className : String) :
    (d.create className).object? (created history).length =
      some ⟨className, (created history).count className, .empty⟩ := by
  refine (h.create hs className).object?_eq (made?_eq_some.2 ?_)
  have hcreated : created (history ++ [.create className]) = created history ++ [className] :=
    created_append history _
  rw [hcreated, List.getElem?_concat_length, List.take_left, texts_append]
  exact ⟨rfl, rfl, hs.texts_eq_empty (Nat.le_refl _)⟩

theorem Follows.slotsOf_remove (h : Follows history d) (ho : made? history handle = some o)
    {d' : Draft} (hd : d.remove? handle = some d') (className : String) (i : Nat) :
    (d'.page.slotsOf className)[i]? =
      if className = o.className ∧ i = o.number then some none
      else (d.page.slotsOf className)[i]? := by
  rw [h.remove? ho] at hd
  split at hd
  · cases hd
  · obtain rfl := Option.some.inj hd
    rw [Page.slotsOf_remove]
    by_cases hc : o.className = className
    · subst hc
      obtain ⟨hclass, hnumber, -⟩ := made?_eq_some.1 ho
      have hlt : o.number < (d.page.slotsOf o.className).length := by
        rw [h.slots, List.length_map, ← hnumber]
        exact (List.getElem?_eq_some_iff.1 (getElem?_handlesOf hclass)).1
      rw [if_pos rfl, List.getElem?_set]
      by_cases hi : o.number = i
      · subst hi
        simp [hlt]
      · simp [hi, Ne.symm hi]
    · rw [if_neg hc, if_neg fun hand => hc hand.1.symm]

/-- After any history of creations, changes and removals on an empty page, the slot of an object is the one
that it was created in, its number is never given again, and it can be removed just once, which touches no
other slot. Whatever is looked up is looked for among the objects that have not been removed, each with the
properties that were set last: in order of creation within a class, and class after class in the order of
their first objects. -/
theorem slots_stable (reference : Reference) (h : Spoken history) :
    Stable history (ofHistory reference history) := by
  have hf := follows_ofHistory reference h
  exact {
    slots className i := by rw [hf.slots, List.getElem?_map]
    new className := hf.object?_create h className
    distinct handle handle' o o' ho ho' hc hn := number_inj ho ho' hc hn
    handles handle o ho := hf.object?_eq ho
    properties handle o ho property := by
      rw [← (made?_eq_some.1 ho).2.2, find?_texts]
    remove handle o ho := by
      rw [hf.remove? ho]
      by_cases hr : .remove handle ∈ history <;> simp [hr]
    others handle o d' ho hd className i := hf.slotsOf_remove ho hd className i
    object := hf.object?_number
    noObject className n hn := by
      cases n with
      | ofNat n => exact absurd hn (by simp)
      | negSucc n => rfl
    objectsOf := hf.objectsOf_eq
    firstOf className := by rw [firstOf?, hf.objectsOf_eq]
    find className property value := by rw [find?, hf.objectsOf_eq]
    objects := hf.objects_eq
    firstWith property := by rw [firstWith?, hf.objects_eq] }

/-! ### An example -/

/-- A note that is removed twice and changed after that, and two that stay, one of them changed twice. -/
def notebook : List Op := [
  .create "Notes", .create "Tags", .set 0 "title" "a", .create "Notes", .remove 0, .set 0 "title" "b",
  .remove 0, .create "Notes", .set 2 "title" "c", .set 2 "title" "d"]

def book : Draft := ofHistory (.inSpace "xwiki" "XWiki" "Book") notebook

theorem notebook_stable : Spoken notebook ∧
    book.page.object? "Notes" 0 = none ∧
    book.object? 0 = some ⟨"Notes", 0, .ofList [("title", "b")]⟩ ∧
    (book.remove? 0).isSome = false ∧ (book.remove? 3).isSome = true ∧
    (book.create "Notes").object? 4 = some ⟨"Notes", 3, .empty⟩ ∧
    book.page.objects = [⟨"Notes", 1, .ofList [("title", "d")]⟩, ⟨"Notes", 2, .empty⟩,
      ⟨"Tags", 0, .empty⟩] := by
  have hs : Spoken notebook := by
    unfold Spoken
    decide
  have hb : Stable notebook book := slots_stable _ hs
  have hzero : made? notebook 0 = some ⟨"Notes", 0, .ofList [("title", "b")]⟩ := by decide
  have hthree : made? notebook 3 = some ⟨"Notes", 2, .empty⟩ := by decide
  refine ⟨hs, (hb.object "Notes" 0).trans (by decide), hb.handles 0 _ hzero, ?_, ?_, hb.new "Notes",
    hb.objects.trans (by decide)⟩
  · rw [Bool.eq_false_iff, ne_eq, hb.remove 0 _ hzero]
    decide
  · rw [hb.remove 3 _ hthree]
    decide

end IdentityBridge.Page.Draft
