import IdentityBridge.Directory.Membership
import IdentityBridge.Proofs.Outcome
import IdentityBridge.Proofs.Reference.RoundTrip

/-! The members that a group page lists, as they are written on it. Adding an object for a member writes
one more entry, and removing the first object for it takes one away; objects of other classes are left
alone. A directory lists for a group what its page does. -/

namespace IdentityBridge

namespace Page

variable {p : Page} {className other name : String} {start : Nat} {slots : List (Option Fields)}

/-! ### Slots -/

theorem slotsOf_add (p : Page) (className other : String) (fields : Fields) :
    (p.add className fields).slotsOf other =
      if className = other then p.slotsOf other ++ [some fields] else p.slotsOf other := by
  rw [slotsOf, add, Table.find?_insert]
  by_cases h : className = other
  · subst h
    rw [if_pos rfl, if_pos rfl]
    rfl
  · rw [if_neg h, if_neg h]
    rfl

theorem slotsOf_modify (p : Page) (className other : String) (number : Nat) (f : Fields → Fields) :
    (p.modify className number f).slotsOf other =
      if className = other then (p.slotsOf other).modify number (Option.map f)
      else p.slotsOf other := by
  rw [slotsOf, slotsOf, modify, Table.find?_modify]
  by_cases h : className = other
  · rw [if_pos h, if_pos h]
    cases p.slots.find? other <;> simp
  · rw [if_neg h, if_neg h]

theorem slotsOf_remove (p : Page) (className other : String) (number : Nat) :
    (p.remove className number).slotsOf other =
      if className = other then (p.slotsOf other).set number none else p.slotsOf other := by
  rw [slotsOf, slotsOf, remove, Table.find?_modify]
  by_cases h : className = other
  · rw [if_pos h, if_pos h]
    cases p.slots.find? other <;> simp
  · rw [if_neg h, if_neg h]

theorem occupied_append (slots later : List (Option Fields)) :
    occupied className start (slots ++ later) =
      occupied className start slots ++ occupied className (start + slots.length) later := by
  induction slots generalizing start with
  | nil => rfl
  | cons slot rest ih =>
    have hl : start + (slot :: rest).length = start + 1 + rest.length := by
      rw [List.length_cons]
      omega
    cases slot with
    | none => rw [List.cons_append, occupied, occupied, ih, hl]
    | some fields => rw [List.cons_append, occupied, occupied, ih, hl, List.cons_append]

/-- Emptying the slot of the first object that passes a test takes out that object alone. -/
theorem occupied_set {test : PageObject → Bool} {o : PageObject}
    (h : (occupied className start slots).find? test = some o) :
    start ≤ o.number ∧ o.className = className ∧
      occupied className start (slots.set (o.number - start) none) =
        (occupied className start slots).eraseP test := by
  induction slots generalizing start with
  | nil => cases h
  | cons slot rest ih =>
    have later (h : (occupied className (start + 1) rest).find? test = some o) :
        start ≤ o.number ∧ o.className = className ∧
          occupied className start ((slot :: rest).set (o.number - start) none) =
            occupied className start [slot] ++ (occupied className (start + 1) rest).eraseP test := by
      obtain ⟨hn, hc, he⟩ := ih h
      have hs : o.number - start = o.number - (start + 1) + 1 := by omega
      refine ⟨by omega, hc, ?_⟩
      rw [hs, List.set_cons_succ, ← List.singleton_append, occupied_append, ← he]
      rfl
    cases slot with
    | none => exact later h
    | some fields =>
      rw [occupied, List.find?_cons] at h
      rw [occupied]
      by_cases ht : test ⟨className, start, fields⟩ = true
      · rw [ht] at h
        cases h
        rw [List.eraseP_cons_of_pos ht]
        exact ⟨Nat.le_refl start, rfl, by simp [occupied]⟩
      · rw [List.eraseP_cons_of_neg ht]
        rw [Bool.not_eq_true] at ht
        rw [ht] at h
        exact later h

/-! ### Entries -/

/-- The member of an object as it is written, if there is one. -/
def entryOf (o : PageObject) : Option String := (o.fields.find? memberProperty).filter (· ≠ "")

theorem memberEntries_eq (p : Page) :
    p.memberEntries = (occupied groupClass 0 (p.slotsOf groupClass)).filterMap entryOf := rfl

theorem entryOf_eq_some {o : PageObject} (hn : name ≠ "") :
    entryOf o = some name ↔ o.fields.find? memberProperty = some name := by
  simp [entryOf, Option.filter_eq_some_iff, hn]

theorem find?_member_eq_none (hn : name ≠ "") :
    p.find? groupClass memberProperty name = none ↔ name ∉ p.memberEntries := by
  simp only [find?, List.find?_eq_none, decide_eq_true_eq, memberEntries_eq, List.mem_filterMap,
    not_exists, not_and, entryOf_eq_some hn]
  exact Iff.rfl

theorem mem_memberEntries_of_find? (hn : name ≠ "") {o : PageObject}
    (h : p.find? groupClass memberProperty name = some o) : name ∈ p.memberEntries := by
  refine Decidable.by_contra fun hm => ?_
  rw [(find?_member_eq_none hn).2 hm] at h
  cases h

theorem filterMap_eraseP {test : PageObject → Bool}
    (h : ∀ o, test o = true ↔ entryOf o = some name) (objects : List PageObject) :
    (objects.eraseP test).filterMap entryOf = (objects.filterMap entryOf).erase name := by
  induction objects with
  | nil => rfl
  | cons o rest ih =>
    by_cases ht : test o = true
    · rw [List.eraseP_cons_of_pos ht, List.filterMap_cons_some ((h o).1 ht), List.erase_cons_head]
    · rw [List.eraseP_cons_of_neg ht]
      cases he : entryOf o with
      | none => rw [List.filterMap_cons_none he, List.filterMap_cons_none he, ih]
      | some text =>
        have hne : text ≠ name := by
          rintro rfl
          exact ht ((h o).2 he)
        rw [List.filterMap_cons_some he, List.filterMap_cons_some he, ih,
          List.erase_cons_tail (by simpa using hne)]

theorem memberEntries_add (p : Page) (hn : name ≠ "") :
    (p.add groupClass (.ofList [(memberProperty, name)])).memberEntries =
      p.memberEntries ++ [name] := by
  have he (number : Nat) :
      entryOf ⟨groupClass, number, .ofList [(memberProperty, name)]⟩ = some name :=
    (entryOf_eq_some hn).2 rfl
  rw [memberEntries_eq, memberEntries_eq, slotsOf_add, if_pos rfl, occupied_append,
    List.filterMap_append]
  simp [occupied, he]

theorem memberEntries_remove (hn : name ≠ "") {o : PageObject}
    (h : p.find? groupClass memberProperty name = some o) :
    (p.remove o.className o.number).memberEntries = p.memberEntries.erase name := by
  obtain ⟨-, hc, he⟩ := occupied_set h
  rw [Nat.sub_zero] at he
  rw [memberEntries_eq, memberEntries_eq, slotsOf_remove, if_pos hc, he]
  exact filterMap_eraseP (fun o => by rw [decide_eq_true_eq, entryOf_eq_some hn]) _

/-- Objects of another class say nothing of members. -/
theorem memberEntries_add_of_ne (p : Page) (h : className ≠ groupClass) (fields : Fields) :
    (p.add className fields).memberEntries = p.memberEntries := by
  rw [memberEntries_eq, memberEntries_eq, slotsOf_add, if_neg h]

theorem memberEntries_modify_of_ne (p : Page) (h : className ≠ groupClass) (number : Nat)
    (f : Fields → Fields) : (p.modify className number f).memberEntries = p.memberEntries := by
  rw [memberEntries_eq, memberEntries_eq, slotsOf_modify, if_neg h]

end Page

namespace Directory

variable {d : Directory} {group member user : Reference}

theorem reference_page (d : Directory) (group : Reference) : (d.page group).reference = group := by
  unfold page
  cases h : d.pages.find? group with
  | none => rfl
  | some page => exact (d.kept _ (Table.find?_eq_some.1 h)).1

theorem isNew_page (d : Directory) (group : Reference) : (d.page group).isNew = !d.contains group := by
  unfold page contains Table.contains
  cases h : d.pages.find? group with
  | none => rfl
  | some page => exact (d.kept _ (Table.find?_eq_some.1 h)).2

theorem find?_put (d : Directory) (p : Page) (comment : String) (r : Reference) :
    (d.put p comment).pages.find? r =
      if p.reference = r then some { p with isNew := false } else d.pages.find? r :=
  Table.find?_insert _ _ _ _

theorem page_put (d : Directory) (p : Page) (comment : String) (group : Reference) :
    (d.put p comment).page group =
      if p.reference = group then { p with isNew := false } else d.page group := by
  simp only [page, find?_put]
  split <;> rfl

theorem contains_put (d : Directory) (p : Page) (comment : String) (group : Reference) :
    (d.put p comment).contains group = (decide (p.reference = group) || d.contains group) := by
  simp only [contains, Table.contains, find?_put]
  by_cases h : p.reference = group <;> simp [h]

/-- The members that a directory lists for a group are written on its page. -/
theorem membersOf_eq_map (d : Directory) (group : Reference) :
    d.membersOf group = (d.page group).memberEntries.map (Reference.resolveOn group) := by
  have h : d.membersOf group = (d.page group).members := by
    unfold membersOf page
    cases d.pages.find? group <;> rfl
  rw [h, Page.members, reference_page]

/-- What is written of a user on the page of a group names that user. -/
theorem resolveOn_memberName (hw : user.wiki ≠ "") (group : Reference) :
    Reference.resolveOn group (Page.memberName group user) = user := Reference.resolveOn_compact group hw

theorem memberName_ne_empty (group user : Reference) : Page.memberName group user ≠ "" :=
  Reference.compact_ne_empty user group.wiki

end Directory

end IdentityBridge
