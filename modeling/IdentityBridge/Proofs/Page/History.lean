import Mathlib.Data.List.Nodup
import IdentityBridge.Page.Draft
import IdentityBridge.Proofs.Properties.Group

/-! Histories of drafts: objects are created, changed and removed, in whatever order. The handle of an object
is the place of its creation among all creations, and its number the place among those of its class; both
are read off the history, as are the properties that were set last. -/

namespace IdentityBridge.Page.Draft

/-! ### Histories -/

/-- What can be done to a draft. -/
inductive Op where
  | create (className : String)
  | set (handle : Nat) (property value : String)
  | remove (handle : Nat)
deriving DecidableEq

namespace Op

/-- Do it. What cannot be removed again is left as it is. -/
def perform : Op → Draft → Draft
  | create className, d => d.create className
  | set handle property value, d => d.set handle property value
  | remove handle, d => (d.remove? handle).getD d

/-- The class of the object that it creates. -/
def created? : Op → Option String
  | create className => some className
  | _ => none

/-- The object that it is done to. -/
def handle? : Op → Option Nat
  | create _ => none
  | set handle _ _ => some handle
  | remove handle => some handle

/-- What it sets on an object. -/
def text? (op : Op) (handle : Nat) : Option (String × String) :=
  match op with
  | set handle' property value => if handle' = handle then some (property, value) else none
  | _ => none

end Op

/-- A draft of an empty page, after a history. -/
def ofHistory (reference : Reference) (history : List Op) : Draft :=
  history.foldl (fun d op => op.perform d) { page := { reference } }

/-- The classes of the objects that have been created, in order. -/
def created (history : List Op) : List String := history.filterMap Op.created?

/-- Whatever is done to an object is done after its creation. -/
def Spoken (history : List Op) : Prop :=
  ∀ i, (hi : i < history.length) → ∀ handle ∈ history[i].handle?,
    handle < (created (history.take i)).length

/-- The properties of an object, as they were set last. -/
def texts (history : List Op) (handle : Nat) : Fields := .ofList (history.filterMap (·.text? handle))

/-- An object as it was made; its number is how many of its class were made before it. -/
def made? (history : List Op) (handle : Nat) : Option PageObject :=
  (created history)[handle]?.map fun className =>
    ⟨className, ((created history).take handle).count className, texts history handle⟩

/-- An object that has been created and not been removed. -/
def present? (history : List Op) (handle : Nat) : Option PageObject :=
  if .remove handle ∈ history then none else made? history handle

/-- What the slot of an object holds. -/
def slot (history : List Op) (handle : Nat) : Option Fields :=
  if .remove handle ∈ history then none else some (texts history handle)

/-- The handles of the objects of a class, given the classes of all, in order of creation. -/
def handlesOf (classes : List String) (className : String) : List Nat :=
  (List.range classes.length).filter fun handle => classes[handle]? = some className

/-- The objects of a class that are there, in order of creation. -/
def listed (history : List Op) (className : String) : List PageObject :=
  (handlesOf (created history) className).filterMap (present? history)

variable {history : List Op} {op : Op} {className other : String} {classes : List String}
  {handle : Nat} {o : PageObject}

/-! ### Handles of a class -/

theorem mem_handlesOf : handle ∈ handlesOf classes className ↔ classes[handle]? = some className := by
  rw [handlesOf, List.mem_filter, List.mem_range, decide_eq_true_eq]
  exact and_iff_right_of_imp fun h => (List.getElem?_eq_some_iff.1 h).1

theorem handlesOf_append (classes : List String) (other className : String) :
    handlesOf (classes ++ [other]) className =
      handlesOf classes className ++ if other = className then [classes.length] else [] := by
  have hearlier : (List.range classes.length).filter
      (fun handle => (classes ++ [other])[handle]? = some className) = handlesOf classes className := by
    refine List.filter_congr fun handle hh => ?_
    rw [List.getElem?_append_left (List.mem_range.1 hh)]
  rw [handlesOf, List.length_append, List.length_singleton, List.range_succ, List.filter_append, hearlier]
  by_cases h : other = className <;> simp [h]

theorem length_handlesOf (classes : List String) (className : String) :
    (handlesOf classes className).length = classes.count className := by
  induction classes using List.reverseRecOn with
  | nil => rfl
  | append_singleton classes other ih =>
    rw [handlesOf_append, List.length_append, ih, List.count_append]
    by_cases h : other = className <;> simp [h]

/-- The place of an object among those of its class is its number. -/
theorem getElem?_handlesOf (h : classes[handle]? = some className) :
    (handlesOf classes className)[(classes.take handle).count className]? = some handle := by
  induction classes using List.reverseRecOn with
  | nil => simp at h
  | append_singleton classes other ih =>
    rw [handlesOf_append]
    by_cases hl : handle < classes.length
    · rw [List.getElem?_append_left hl] at h
      have hfound := ih h
      have hlt := (List.getElem?_eq_some_iff.1 hfound).1
      rw [List.take_append_of_le_length (Nat.le_of_lt hl), List.getElem?_append_left hlt, hfound]
    · have hlt := (List.getElem?_eq_some_iff.1 h).1
      rw [List.length_append, List.length_singleton] at hlt
      obtain rfl : handle = classes.length := by omega
      obtain rfl : other = className := by simpa using h
      rw [List.take_left, if_pos rfl, ← length_handlesOf, List.getElem?_concat_length]

theorem getElem?_handlesOf_iff {i : Nat} : (handlesOf classes className)[i]? = some handle ↔
    classes[handle]? = some className ∧ (classes.take handle).count className = i := by
  constructor
  · intro h
    have hclass := mem_handlesOf.1 (List.mem_of_getElem? h)
    refine ⟨hclass, ?_⟩
    have hnodup : (handlesOf classes className).Nodup := List.nodup_range.filter _
    exact (List.getElem?_inj (List.getElem?_eq_some_iff.1 (getElem?_handlesOf hclass)).1 hnodup).1
      ((getElem?_handlesOf hclass).trans h.symm)
  · rintro ⟨hclass, rfl⟩
    exact getElem?_handlesOf hclass

/-- To change what stands for one handle is to change the place of its object. -/
theorem map_handlesOf_update {α : Type} (h : classes[handle]? = some className) (g : Nat → α) (f : α → α)
    (other : String) :
    (handlesOf classes other).map (fun x => if x = handle then f (g x) else g x) =
      if className = other then
        ((handlesOf classes other).map g).modify ((classes.take handle).count className) f
      else (handlesOf classes other).map g := by
  by_cases hc : className = other
  · subst hc
    rw [if_pos rfl]
    refine List.ext_getElem? fun i => ?_
    rw [List.getElem?_modify, List.getElem?_map, List.getElem?_map]
    cases hi : (handlesOf classes className)[i]? with
    | none => simp
    | some x =>
      obtain ⟨-, hn⟩ := getElem?_handlesOf_iff.1 hi
      by_cases hx : x = handle
      · subst hx
        simp [hn]
      · have hne : (classes.take handle).count className ≠ i := by
          rintro rfl
          exact hx (Option.some.inj (hi.symm.trans (getElem?_handlesOf h)))
        simp [hx, hne]
  · rw [if_neg hc]
    refine List.map_congr_left fun x hx => if_neg ?_
    rintro rfl
    exact hc (Option.some.inj (h.symm.trans (mem_handlesOf.1 hx)))

/-! ### Longer histories -/

theorem ofHistory_append (reference : Reference) (history : List Op) (op : Op) :
    ofHistory reference (history ++ [op]) = op.perform (ofHistory reference history) :=
  List.foldl_append

theorem created_append (history : List Op) (op : Op) :
    created (history ++ [op]) = created history ++ op.created?.toList := by
  rw [created, List.filterMap_append]
  cases h : op.created? <;> simp [created, h]

theorem texts_append (history : List Op) (op : Op) (handle : Nat) : texts (history ++ [op]) handle =
    match op.text? handle with
    | some (property, value) => (texts history handle).insert property value
    | none => texts history handle := by
  rw [texts, List.filterMap_append]
  cases h : op.text? handle with
  | none => simp [texts, h]
  | some text =>
    have hlast : [op].filterMap (·.text? handle) = [text] := by simp [h]
    rw [hlast, Table.ofList_append]
    rfl

theorem Spoken.of_append (h : Spoken (history ++ [op])) :
    Spoken history ∧ ∀ handle ∈ op.handle?, handle < (created history).length := by
  constructor
  · intro i hi handle hh
    have hi' : i < (history ++ [op]).length := by
      rw [List.length_append]
      omega
    have hin := h i hi' handle (by rwa [List.getElem_append_left hi])
    rwa [List.take_append_of_le_length (Nat.le_of_lt hi)] at hin
  · intro handle hh
    have hin := h history.length (by simp) handle (by simpa using hh)
    rwa [List.take_left] at hin

/-- Nothing is done to an object that is still to be created. -/
theorem Spoken.untouched (h : Spoken history) (hn : (created history).length ≤ handle) (ho : op ∈ history) :
    op.handle? ≠ some handle := by
  intro hh
  obtain ⟨i, hi, rfl⟩ := List.mem_iff_getElem.1 ho
  have hlt := h i hi handle hh
  have hle : (created (history.take i)).length ≤ (created history).length :=
    ((List.take_sublist i history).filterMap _).length_le
  omega

theorem Spoken.not_removed (h : Spoken history) (hn : (created history).length ≤ handle) :
    .remove handle ∉ history := fun hr => h.untouched hn hr rfl

theorem Op.text?_eq_none (h : op.handle? ≠ some handle) : op.text? handle = none := by
  cases op with
  | set handle' property value => exact if_neg fun he => h (congrArg some he)
  | create className => rfl
  | remove handle' => rfl

theorem Spoken.texts_eq_empty (h : Spoken history) (hn : (created history).length ≤ handle) :
    texts history handle = .empty := by
  have hnone : history.filterMap (·.text? handle) = [] :=
    List.filterMap_eq_nil_iff.2 fun op ho => Op.text?_eq_none (h.untouched hn ho)
  rw [texts, hnone]
  rfl

theorem created_append_of_handle? (h : op.handle? = some handle) :
    created (history ++ [op]) = created history := by
  rw [created_append]
  cases op with
  | create className => cases h
  | set handle' property value => exact List.append_nil _
  | remove handle' => exact List.append_nil _

theorem remove_mem_append (h : op.handle? ≠ some handle) :
    .remove handle ∈ history ++ [op] ↔ .remove handle ∈ history := by
  rw [List.mem_append, List.mem_singleton]
  refine or_iff_left ?_
  rintro rfl
  exact h rfl

/-! ### Objects of longer histories -/

theorem made?_eq_some : made? history handle = some o ↔ (created history)[handle]? = some o.className ∧
    ((created history).take handle).count o.className = o.number ∧ texts history handle = o.fields := by
  obtain ⟨className, number, fields⟩ := o
  rw [made?, Option.map_eq_some_iff]
  constructor
  · rintro ⟨_, h, he⟩
    obtain ⟨rfl, rfl, rfl⟩ := PageObject.mk.inj he
    exact ⟨h, rfl, rfl⟩
  · rintro ⟨h, hn, hf⟩
    exact ⟨className, h, congrArg₂ (PageObject.mk className) hn hf⟩

theorem present?_eq_map_slot (h : made? history handle = some o) :
    present? history handle = (slot history handle).map fun fields => ⟨o.className, o.number, fields⟩ := by
  obtain ⟨-, -, hfields⟩ := made?_eq_some.1 h
  by_cases hr : .remove handle ∈ history
  · simp [present?, slot, hr]
  · simp [present?, slot, hr, h, hfields]

/-- What is done next to an object that has been made changes its properties at most. -/
theorem made?_append (hlt : handle < (created history).length) (op : Op) :
    made? (history ++ [op]) handle =
      (made? history handle).map ({ · with fields := texts (history ++ [op]) handle }) := by
  rw [made?, made?, created_append, List.getElem?_append_left hlt,
    List.take_append_of_le_length (Nat.le_of_lt hlt), Option.map_map]
  rfl

theorem lt_of_made? (h : made? history handle = some o) : handle < (created history).length :=
  (List.getElem?_eq_some_iff.1 (made?_eq_some.1 h).1).1

theorem exists_made? (h : handle < (created history).length) : ∃ o, made? history handle = some o :=
  ⟨_, by rw [made?, List.getElem?_eq_getElem h, Option.map_some]⟩

/-- An object that nothing is done to stays as it is. -/
theorem made?_append_of_ne (hlt : handle < (created history).length) (h : op.handle? ≠ some handle) :
    made? (history ++ [op]) handle = made? history handle := by
  have htexts : texts (history ++ [op]) handle = texts history handle := by
    rw [texts_append, Op.text?_eq_none h]
  rw [made?_append hlt, htexts]
  cases ho : made? history handle with
  | none => rfl
  | some o => rw [Option.map_some, (made?_eq_some.1 ho).2.2]

/-- So does its slot. -/
theorem slot_append_of_ne (h : op.handle? ≠ some handle) :
    slot (history ++ [op]) handle = slot history handle := by
  simp only [slot, remove_mem_append h, texts_append, Op.text?_eq_none h]

/-- The slot of a removed object stays empty. -/
theorem slot_append_of_removed (h : op.handle? = some handle) (hr : .remove handle ∈ history) :
    slot (history ++ [op]) = slot history := by
  funext x
  by_cases hx : x = handle
  · subst hx
    rw [slot, slot, if_pos hr, if_pos (List.mem_append_left _ hr)]
  · exact slot_append_of_ne fun he => hx (Option.some.inj (he.symm.trans h))

theorem slot_append (h : op.handle? = some handle) (f : Option Fields → Option Fields)
    (hf : slot (history ++ [op]) handle = f (slot history handle)) :
    slot (history ++ [op]) = fun x => if x = handle then f (slot history x) else slot history x := by
  funext x
  by_cases hx : x = handle
  · rw [if_pos hx, hx, hf]
  · rw [if_neg hx]
    exact slot_append_of_ne fun he => hx (Option.some.inj (he.symm.trans h))

/-! ### Properties and numbers -/

/-- The text that is set last on a property of an object. -/
def lastText? (history : List Op) (handle : Nat) (property : String) : Option String :=
  history.reverse.findSome? fun op =>
    (op.text? handle).bind fun text => if text.1 = property then some text.2 else none

theorem find?_texts (history : List Op) (handle : Nat) (property : String) :
    (texts history handle).find? property = lastText? history handle property := by
  induction history using List.reverseRecOn with
  | nil => rfl
  | append_singleton history op ih =>
    have hlast : lastText? (history ++ [op]) handle property =
        ((op.text? handle).bind fun text => if text.1 = property then some text.2 else none).or
          (lastText? history handle property) := by
      rw [lastText?, List.reverse_append, List.reverse_singleton, List.singleton_append,
        List.findSome?_cons]
      cases (op.text? handle).bind _ <;> rfl
    rw [hlast, texts_append, ← ih]
    cases op.text? handle with
    | none => rfl
    | some text =>
      rw [Table.find?_insert, Option.bind_some]
      by_cases hp : text.1 = property <;> simp [hp]

/-- No two objects of a class have the same number. -/
theorem number_inj {handle' : Nat} {o' : PageObject} (h : made? history handle = some o)
    (h' : made? history handle' = some o') (hc : o.className = o'.className)
    (hn : o.number = o'.number) : handle = handle' := by
  obtain ⟨hclass, hnumber, -⟩ := made?_eq_some.1 h
  obtain ⟨hclass', hnumber', -⟩ := made?_eq_some.1 h'
  have hplace := getElem?_handlesOf_iff.2 ⟨hclass, hnumber⟩
  have hplace' := getElem?_handlesOf_iff.2 ⟨hclass', hnumber'⟩
  rw [hc, hn, hplace', Option.some.injEq] at hplace
  exact hplace.symm

end IdentityBridge.Page.Draft
