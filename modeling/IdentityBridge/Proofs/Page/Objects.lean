import IdentityBridge.Proofs.Membership.Entries

/-! Objects of pages. An object is listed where its class and its number say, so changing the properties of
one object changes that object in every listing and leaves all others as they are. -/

namespace IdentityBridge.Page

variable {p : Page} {className : String} {number start : Nat} {slots : List (Option Fields)}
  {o : PageObject} {f : Fields → Fields}

/-! ### Where objects are -/

theorem object?_ofNat (p : Page) (className : String) (number : Nat) :
    p.object? className number =
      ((p.slotsOf className)[number]?.join).map fun fields => ⟨className, number, fields⟩ := rfl

theorem mem_occupied : o ∈ occupied className start slots ↔
    o.className = className ∧ start ≤ o.number ∧ slots[o.number - start]? = some (some o.fields) := by
  induction slots generalizing start with
  | nil => simp [occupied]
  | cons slot rest ih =>
    have hlater : start < o.number → (slot :: rest)[o.number - start]? = rest[o.number - (start + 1)]? := by
      intro h
      rw [show o.number - start = o.number - (start + 1) + 1 by omega, List.getElem?_cons_succ]
    have hrest : o ∈ occupied className (start + 1) rest ↔ o.className = className ∧
        start < o.number ∧ (slot :: rest)[o.number - start]? = some (some o.fields) := by
      rw [ih]
      constructor
      · rintro ⟨hc, hn, he⟩
        exact ⟨hc, hn, (hlater hn).trans he⟩
      · rintro ⟨hc, hn, he⟩
        exact ⟨hc, hn, (hlater hn).symm.trans he⟩
    have hfirst : start ≤ o.number ↔ o.number = start ∨ start < o.number := by omega
    cases slot with
    | none =>
      rw [occupied, hrest]
      constructor
      · rintro ⟨hc, hn, he⟩
        exact ⟨hc, Nat.le_of_lt hn, he⟩
      · rintro ⟨hc, hn, he⟩
        rcases hfirst.1 hn with rfl | hn
        · simp at he
        · exact ⟨hc, hn, he⟩
    | some fields =>
      rw [occupied, List.mem_cons, hrest]
      constructor
      · rintro (rfl | ⟨hc, hn, he⟩)
        · simp
        · exact ⟨hc, Nat.le_of_lt hn, he⟩
      · rintro ⟨hc, hn, he⟩
        rcases hfirst.1 hn with hs | hn
        · refine .inl ?_
          obtain ⟨class', number, fields'⟩ := o
          simp_all
        · exact .inr ⟨hc, hn, he⟩

theorem mem_objectsOf :
    o ∈ p.objectsOf className ↔ o.className = className ∧ p.object? className o.number = some o := by
  rw [objectsOf, mem_occupied]
  constructor
  · rintro ⟨rfl, -, h⟩
    rw [Nat.sub_zero] at h
    exact ⟨rfl, by rw [object?_ofNat, h]; rfl⟩
  · rintro ⟨hc, h⟩
    obtain ⟨fields, hf, ho⟩ := Option.map_eq_some_iff.1 h
    rw [← congrArg PageObject.fields ho]
    exact ⟨hc, Nat.zero_le _, Option.join_eq_some_iff.1 hf⟩

theorem mem_objects : o ∈ p.objects ↔ p.object? o.className o.number = some o := by
  have hclass : o ∈ p.objects ↔ o ∈ p.objectsOf o.className := by
    rw [objects, List.mem_flatMap]
    constructor
    · rintro ⟨⟨className, slots⟩, he, ho⟩
      obtain rfl := (mem_occupied.1 ho).1
      rwa [objectsOf, slotsOf, Table.find?_eq_some.2 he]
    · intro h
      cases hf : p.slots.find? o.className with
      | none =>
        rw [objectsOf, slotsOf, hf] at h
        cases h
      | some slots =>
        refine ⟨(o.className, slots), Table.find?_eq_some.1 hf, ?_⟩
        rwa [objectsOf, slotsOf, hf] at h
  rw [hclass, mem_objectsOf, and_iff_right rfl]

/-- An object that is found is one of its class and its number. -/
theorem object?_eq_some {n : Int} (h : p.object? className n = some o) :
    o.className = className ∧ (o.number : Int) = n ∧ p.object? o.className o.number = some o := by
  cases n with
  | negSucc n => cases h
  | ofNat n =>
    obtain ⟨fields, -, rfl⟩ := Option.map_eq_some_iff.1 h
    exact ⟨rfl, rfl, h⟩

/-! ### Changing an object -/

/-- Change an object if it is the one of a class and a number. -/
def revised (className : String) (number : Nat) (f : Fields → Fields) (o : PageObject) : PageObject :=
  if o.className = className ∧ o.number = number then { o with fields := f o.fields } else o

theorem map_revised_of_ne {objects : List PageObject}
    (h : ∀ o ∈ objects, ¬ (o.className = className ∧ o.number = number)) :
    objects.map (revised className number f) = objects := by
  conv => rhs; rw [← List.map_id objects]
  exact List.map_congr_left fun o ho => if_neg (h o ho)

theorem object?_modify (other : String) (n : Int) :
    (p.modify className number f).object? other n =
      (p.object? other n).map (revised className number f) := by
  cases n with
  | negSucc n => rfl
  | ofNat n =>
    rw [Int.ofNat_eq_natCast, object?_ofNat, object?_ofNat, slotsOf_modify]
    by_cases hc : className = other
    · subst hc
      rw [if_pos rfl, List.getElem?_modify]
      cases (p.slotsOf className)[n]? with
      | none => rfl
      | some slot => by_cases hn : number = n <;> cases slot <;> simp [revised, hn, Ne.symm]
    · rw [if_neg hc]
      cases (p.slotsOf other)[n]?.join <;> simp [revised, Ne.symm hc]

theorem occupied_modify (n : Nat) :
    occupied className start (slots.modify n (Option.map f)) =
      (occupied className start slots).map (revised className (start + n) f) := by
  induction slots generalizing start n with
  | nil => cases n <;> rfl
  | cons slot rest ih =>
    cases n with
    | zero =>
      have hrest : (occupied className (start + 1) rest).map (revised className start f) =
          occupied className (start + 1) rest := by
        refine map_revised_of_ne fun o ho h => ?_
        have hn := (mem_occupied.1 ho).2.1
        omega
      cases slot with
      | none => simpa [occupied] using hrest.symm
      | some fields => simp [occupied, hrest, revised]
    | succ n =>
      rw [List.modify_succ_cons, show start + (n + 1) = start + 1 + n by omega]
      cases slot with
      | none => rw [occupied, occupied, ih]
      | some fields =>
        rw [occupied, occupied, ih, List.map_cons, revised, if_neg]
        rintro ⟨-, h⟩
        have h : start = start + 1 + n := h
        omega

theorem objects_modify :
    (p.modify className number f).objects = p.objects.map (revised className number f) := by
  simp only [objects, modify, Table.modify, Table.modifyIn, List.flatMap_map, List.map_flatMap]
  congr 1
  funext entry
  obtain ⟨other, slots⟩ := entry
  by_cases hc : other = className
  · subst hc
    simp only [if_true]
    rw [occupied_modify, Nat.zero_add]
  · rw [if_neg hc, map_revised_of_ne]
    rintro o ho ⟨h, -⟩
    exact hc ((mem_occupied.1 ho).1.symm.trans h)

theorem objectsOf_modify (other : String) :
    (p.modify className number f).objectsOf other =
      (p.objectsOf other).map (revised className number f) := by
  rw [objectsOf, objectsOf, slotsOf_modify]
  by_cases hc : className = other
  · subst hc
    rw [if_pos rfl, occupied_modify, Nat.zero_add]
  · rw [if_neg hc, map_revised_of_ne]
    rintro o ho ⟨h, -⟩
    exact hc (h.symm.trans (mem_occupied.1 ho).1)

theorem firstOf?_modify (other : String) :
    (p.modify className number f).firstOf? other =
      (p.firstOf? other).map (revised className number f) := by
  rw [firstOf?, objectsOf_modify, List.head?_map]
  rfl

/-! ### Values -/

/-- A property of an object, by class and number. -/
structure Spot where
  className : String
  number : Nat
  property : String
deriving DecidableEq

/-- The value of a property, if the object is there and has it. -/
def value? (p : Page) (s : Spot) : Option String :=
  (p.object? s.className s.number).bind (·.fields.find? s.property)

/-- The text of a property; there is none where there is no value. -/
def textAt (p : Page) (s : Spot) : String := (p.value? s).getD ""

theorem object?_set (ho : p.object? o.className o.number = some o) (property value : String) :
    (p.set o property value).object? o.className o.number =
      some { o with fields := o.fields.insert property value } := by
  rw [set, object?_modify, ho, Option.map_some, revised, if_pos ⟨rfl, rfl⟩]

/-- Setting a property of an object changes that value alone. -/
theorem value?_set (ho : p.object? o.className o.number = some o) (property value : String)
    (s : Spot) : (p.set o property value).value? s =
      if ⟨o.className, o.number, property⟩ = s then some value else p.value? s := by
  obtain ⟨className, number, property'⟩ := s
  by_cases hs : o.className = className ∧ o.number = number
  · obtain ⟨rfl, rfl⟩ := hs
    rw [value?, value?, object?_set ho, ho]
    simp [Table.find?_insert]
  · have hobject : (p.set o property value).object? className number = p.object? className number := by
      rw [set, object?_modify]
      cases h : p.object? className number with
      | none => rfl
      | some o' =>
        obtain ⟨rfl, hn, -⟩ := object?_eq_some h
        rw [Option.map_some, revised, if_neg]
        rintro ⟨hc, hn'⟩
        exact hs ⟨hc.symm, by omega⟩
    rw [value?, value?, hobject, if_neg]
    rintro ⟨⟩
    exact hs ⟨rfl, rfl⟩

end IdentityBridge.Page
