import IdentityBridge.Directory.Profile
import IdentityBridge.Proofs.Membership.Step
import IdentityBridge.Proofs.Page.Objects

/-! Profiles after they have been created or updated. Either way the profile then holds every known fact
that was given, so an update with the same facts finds nothing to write. No page but that of the user
changes, and memberships do not change at all. -/

namespace IdentityBridge

/-! ### Writing several facts -/

theorem Table.find?_insertAll {κ ν : Type} [DecidableEq κ] (t : Table κ ν) (key : κ)
    {entries : List (κ × ν)} (hn : (entries.map Prod.fst).Nodup) :
    (t.insertAll entries).find? key = (findIn key entries).or (t.find? key) := by
  induction entries generalizing t with
  | nil => rfl
  | cons entry rest ih =>
    obtain ⟨k, v⟩ := entry
    obtain ⟨hk, hr⟩ := List.nodup_cons.1 hn
    have hstep : t.insertAll ((k, v) :: rest) = (t.insert k v).insertAll rest := rfl
    rw [hstep, ih _ hr, find?_insert]
    by_cases h : k = key
    · subst h
      simp [findIn, findIn_eq_none.2 hk]
    · simp [findIn, h]

namespace Profile

variable {facts current : Fields} {known : List String} {key value : String}

theorem find?_restrict :
    (restrict known facts).find? key = some value ↔ facts.find? key = some value ∧ key ∈ known := by
  simp [restrict, Table.filter, Table.find?_eq_some]

theorem find?_withActive (h : facts.find? key = some value) :
    (withActive facts).find? key = some value := by
  unfold withActive
  by_cases hc : facts.contains activeProperty = true
  · rwa [if_pos hc]
  · rw [if_neg hc, Table.find?_insert, if_neg]
    · exact h
    · rintro rfl
      exact hc (by rw [Table.contains, h]; rfl)

theorem find?_changes :
    (changes current facts).find? key = some value ↔
      facts.find? key = some value ∧ current.find? key ≠ some value := by
  simp [changes, Table.filter, Table.find?_eq_some]

theorem changes_isEmpty :
    (changes current facts).isEmpty = true ↔
      ∀ key value, facts.find? key = some value → current.find? key = some value := by
  rw [Table.isEmpty, List.isEmpty_iff, List.eq_nil_iff_forall_not_mem]
  constructor
  · intro h key value hf
    refine Decidable.by_contra fun hc => h (key, value) ?_
    exact Table.find?_eq_some.1 (find?_changes.2 ⟨hf, hc⟩)
  · rintro h ⟨key, value⟩ he
    obtain ⟨hf, hc⟩ := find?_changes.1 (Table.find?_eq_some.2 he)
    exact hc (h key value hf)

/-- The number of the object that a profile is kept in, be it there or to be added. -/
def number (page : Page) : Nat :=
  ((page.firstOf? userClass).map (·.number)).getD (page.nextNumber userClass)

/-- Writing facts to a profile inserts them into what it holds, be there an object or not. -/
theorem firstOf?_write (page : Page) (facts : Fields) : (write page facts).firstOf? userClass =
    some ⟨userClass, number page, (Profile.current page).insertAll facts.entries⟩ := by
  unfold write number Profile.current
  cases h : page.firstOf? userClass with
  | none =>
    have ho : Page.occupied userClass 0 (page.slotsOf userClass) = [] := List.head?_eq_none_iff.1 h
    change (page.add userClass (.ofList facts.entries)).firstOf? userClass = _
    rw [Page.firstOf?, Page.objectsOf, Page.slotsOf_add, if_pos rfl, Page.occupied_append, ho,
      Nat.zero_add]
    rfl
  | some profile =>
    have hclass : profile.className = userClass := (Page.mem_objectsOf.1 (List.mem_of_head? h)).1
    change (page.modify userClass profile.number _).firstOf? userClass = _
    rw [Page.firstOf?_modify, h, Option.map_some, Page.revised, if_pos ⟨hclass, rfl⟩, hclass]
    rfl

theorem current_write (page : Page) (facts : Fields) :
    Profile.current (write page facts) = (Profile.current page).insertAll facts.entries := by
  rw [Profile.current, firstOf?_write]
  rfl

/-- What differs decides, and what does not differ is there. -/
theorem find?_insertAll_changes (current facts : Fields) (key : String) :
    (current.insertAll (changes current facts).entries).find? key =
      (facts.find? key).or (current.find? key) := by
  rw [Table.find?_insertAll _ _ (changes current facts).nodup_keys]
  change ((changes current facts).find? key).or _ = _
  cases hf : facts.find? key with
  | none =>
    have hc : (changes current facts).find? key = none :=
      Option.eq_none_iff_forall_ne_some.2 fun value hv => by
        rw [(find?_changes.1 hv).1] at hf
        cases hf
    rw [hc]
  | some value =>
    by_cases hv : current.find? key = some value
    · have hc : (changes current facts).find? key = none :=
        Option.eq_none_iff_forall_ne_some.2 fun value' hv' => by
          obtain ⟨hf', hne⟩ := find?_changes.1 hv'
          exact hne (hv.trans (hf.symm.trans hf'))
      rw [hc, Option.none_or, Option.some_or, hv]
    · rw [find?_changes.2 ⟨hf, hv⟩, Option.some_or]

/-- After what differs has been written, nothing differs. -/
theorem find?_current_write (page : Page) (facts : Fields) (h : facts.find? key = some value) :
    (Profile.current (write page (changes (Profile.current page) facts))).find? key = some value := by
  rw [current_write, find?_insertAll_changes, h, Option.some_or]

end Profile

namespace Directory

open Profile

variable {d d' : Directory} {known : List String} {user : Reference} {facts : Fields}
  {comment : String}

/-- A profile holds the known ones of some facts. -/
def Holds (d : Directory) (known : List String) (user : Reference) (facts : Fields) : Prop :=
  ∀ key value, (restrict known facts).find? key = some value →
    (current (d.page user)).find? key = some value

/-- Only the page of a user has changed, and no membership has; the profile holds the known facts. -/
structure Profiled (known : List String) (user : Reference) (facts : Fields) (d d' : Directory) :
    Prop where
  outages : d'.outages = d.outages
  memberEntries (g : Reference) : (d'.page g).memberEntries = (d.page g).memberEntries
  contains (g : Reference) : g ≠ user → d'.contains g = d.contains g
  exists_profile : d'.contains user = true
  holds : d'.Holds known user facts

theorem Profiled.membersOf (h : Profiled known user facts d d') (g : Reference) :
    d'.membersOf g = d.membersOf g := by
  rw [membersOf_eq_map, membersOf_eq_map, h.memberEntries]

/-- Saving the page of a user with a profile that holds the facts and the entries as they were. -/
theorem profiled_put {p : Page} (hp : p.reference = user)
    (he : p.memberEntries = (d.page user).memberEntries)
    (hh : ∀ key value, (restrict known facts).find? key = some value →
      (current p).find? key = some value) :
    Profiled known user facts d (d.put p comment) := by
  refine ⟨rfl, fun g => ?_, fun g hg => ?_, ?_, fun key value hf => ?_⟩
  · by_cases hg : user = g
    · subst hg
      rw [memberEntries_put d hp, he]
    · rw [page_put, hp, if_neg hg]
  · rw [contains_put, hp, decide_eq_false (Ne.symm hg), Bool.false_or]
  · rw [contains_put, hp, decide_eq_true rfl, Bool.true_or]
  · rw [page_put, if_pos hp]
    exact hh key value hf

theorem userClass_ne : userClass ≠ Page.groupClass := by decide

theorem createProfile_profiled (ho : d.outages = {}) (hc : d.contains user = false)
    (known : List String) (facts : Fields) :
    (d.createProfile known user facts).1 = true ∧
      Profiled known user facts d (d.createProfile known user facts).2 := by
  have hn : (d.page user).isNew = true := by rw [isNew_page, hc]; rfl
  have heq : d.createProfile known user facts = (true, d.put
      ((d.page user).add userClass (restrict known (withActive facts))) creationComment) := by
    simp only [createProfile, attempt, load_of_outages ho, Outcome.ok_bind, hn, Bool.not_true,
      Bool.false_eq_true, if_false, save_of_outages ho, Outcome.pure_eq]
  rw [heq]
  refine ⟨rfl, profiled_put (reference_add d user _ _)
    (Page.memberEntries_add_of_ne _ userClass_ne _) fun key value hf => ?_⟩
  have hp : d.page user = { reference := user } := by
    unfold contains Table.contains at hc
    unfold page
    cases hf : d.pages.find? user with
    | none => rfl
    | some page =>
      rw [hf] at hc
      cases hc
  have hcur : current ((d.page user).add userClass (restrict known (withActive facts))) =
      restrict known (withActive facts) := by
    rw [hp]
    rfl
  obtain ⟨hv, hk⟩ := find?_restrict.1 hf
  rw [hcur]
  exact find?_restrict.2 ⟨find?_withActive hv, hk⟩

theorem updateProfile_eq (ho : d.outages = {}) (hc : d.contains user = true) :
    d.updateProfile known user facts comment =
      (true, if (changes (current (d.page user)) (restrict known facts)).isEmpty then d
        else d.put (write (d.page user) (changes (current (d.page user)) (restrict known facts)))
          comment) := by
  have hn : (d.page user).isNew = false := by rw [isNew_page, hc]; rfl
  simp only [updateProfile, attempt, load_of_outages ho, Outcome.ok_bind, hn, Bool.false_eq_true,
    if_false]
  by_cases he : (changes (current (d.page user)) (restrict known facts)).isEmpty = true
  · rw [if_pos he, if_pos he]
    rfl
  · rw [if_neg he, if_neg he, save_of_outages ho]
    rfl

theorem reference_write (page : Page) (facts : Fields) :
    (write page facts).reference = page.reference := by
  unfold write
  cases page.firstOf? userClass <;> rfl

theorem memberEntries_write (page : Page) (facts : Fields) :
    (write page facts).memberEntries = page.memberEntries := by
  unfold write
  cases page.firstOf? userClass with
  | none => exact Page.memberEntries_add_of_ne page userClass_ne _
  | some profile => exact Page.memberEntries_modify_of_ne page userClass_ne _ _

theorem updateProfile_profiled (ho : d.outages = {}) (hc : d.contains user = true)
    (known : List String) (facts : Fields) (comment : String) :
    Profiled known user facts d (d.updateProfile known user facts comment).2 := by
  rw [updateProfile_eq ho hc]
  by_cases he : (changes (current (d.page user)) (restrict known facts)).isEmpty = true
  · rw [if_pos he]
    exact ⟨rfl, fun _ => rfl, fun _ _ => rfl, hc, changes_isEmpty.1 he⟩
  · rw [if_neg he]
    exact profiled_put ((reference_write _ _).trans (reference_page d user))
      (memberEntries_write _ _) fun key value hf => find?_current_write _ _ hf

/-- A profile that holds the facts is not saved. -/
theorem updateProfile_of_holds (ho : d.outages = {}) (hc : d.contains user = true)
    (hh : d.Holds known user facts) : d.updateProfile known user facts comment = (true, d) := by
  rw [updateProfile_eq ho hc, if_pos (changes_isEmpty.2 hh)]

end Directory

end IdentityBridge
