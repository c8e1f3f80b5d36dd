import IdentityBridge.Proofs.Profile

/-! What an update of a profile changes, and what it leaves alone. Where the profile does not hold the known
ones of the given facts, one save puts them into its object, the first of its class or else a new one; under
all other names the object holds what it held, and no other object and no other page changes. Where the
profile holds them nothing is saved, so an update is not repeated, nor made behind the creation of the page. -/

namespace IdentityBridge

open Profile

namespace Profile

variable {className : String}

theorem slotsOf_write_of_ne (page : Page) (facts : Fields) (h : className ≠ userClass) :
    (write page facts).slotsOf className = page.slotsOf className := by
  unfold write
  cases page.firstOf? userClass with
  | none => exact (Page.slotsOf_add page userClass className _).trans (if_neg h.symm)
  | some profile => exact (Page.slotsOf_modify page userClass className _ _).trans (if_neg h.symm)

/-- Objects of the same class keep their numbers and what they hold. -/
theorem object?_write_of_ne (page : Page) (facts : Fields) {n : Nat} (h : n ≠ number page) :
    (write page facts).object? userClass n = page.object? userClass n := by
  unfold write
  unfold number at h
  cases hf : page.firstOf? userClass with
  | none =>
    rw [hf] at h
    have hn : n ≠ (page.slotsOf userClass).length := h
    change (page.add userClass (.ofList facts.entries)).object? userClass n = _
    rw [Page.object?_ofNat, Page.object?_ofNat, Page.slotsOf_add, if_pos rfl, List.getElem?_append]
    split
    · rfl
    · next hlength =>
      rw [List.getElem?_eq_none (by rw [List.length_singleton]; omega),
        List.getElem?_eq_none (Nat.le_of_not_lt hlength)]
  | some profile =>
    rw [hf] at h
    change (page.modify userClass profile.number _).object? userClass n = _
    rw [Page.object?_modify]
    cases ho : page.object? userClass n with
    | none => rfl
    | some o =>
      obtain ⟨-, hn, -⟩ := Page.object?_eq_some ho
      rw [Option.map_some, Page.revised, if_neg]
      rintro ⟨-, hnumber⟩
      exact h (Int.natCast_inj.1 (hn.symm.trans (congrArg Nat.cast hnumber)))

/-- A page on which the profile has been written to where it did not hold the known facts. -/
def updated (known : List String) (facts : Fields) (page : Page) : Page :=
  write page (changes (current page) (restrict known facts))

end Profile

namespace Directory

variable {d d' : Directory} {known : List String} {user : Reference} {facts : Fields}
  {comment : String}

/-- One save of the page of a user has put the known facts into the profile, and done nothing else. -/
structure Writes (known : List String) (user : Reference) (facts : Fields) (comment : String)
    (d d' : Directory) : Prop where
  profile : ∃ fields, (d'.page user).firstOf? userClass =
    some ⟨userClass, number (d.page user), fields⟩ ∧
    ∀ key, fields.find? key =
      ((restrict known facts).find? key).or ((current (d.page user)).find? key)
  object (n : Nat) : n ≠ number (d.page user) →
    (d'.page user).object? userClass n = (d.page user).object? userClass n
  slots (className : String) : className ≠ userClass →
    (d'.page user).slotsOf className = (d.page user).slotsOf className
  pages (page : Reference) : page ≠ user → d'.pages.find? page = d.pages.find? page
  saves : d'.saves = d.saves ++ [(user, comment)]
  outages : d'.outages = d.outages

theorem writes_put (known : List String) (user : Reference) (facts : Fields) (comment : String)
    (d : Directory) :
    Writes known user facts comment d (d.put (updated known facts (d.page user)) comment) := by
  have hr : (updated known facts (d.page user)).reference = user :=
    (reference_write _ _).trans (reference_page d user)
  have hpage : (d.put (updated known facts (d.page user)) comment).page user =
      { updated known facts (d.page user) with isNew := false } := by
    rw [page_put, if_pos hr]
  refine ⟨⟨_, ?_, find?_insertAll_changes _ _⟩, fun n hn => ?_, fun className hc => ?_,
    fun page hne => ?_, ?_, rfl⟩
  · rw [hpage]
    exact firstOf?_write _ _
  · rw [hpage]
    exact object?_write_of_ne _ _ hn
  · rw [hpage]
    exact slotsOf_write_of_ne _ _ hc
  · rw [find?_put, hr, if_neg hne.symm]
  · exact congrArg (fun r => d.saves ++ [(r, comment)]) hr

theorem updateProfile_writes (ho : d.outages = {}) (hc : d.contains user = true)
    (hh : ¬ d.Holds known user facts) (comment : String) :
    ∃ d', d.updateProfile known user facts comment = (true, d') ∧
      Writes known user facts comment d d' := by
  refine ⟨_, ?_, writes_put known user facts comment d⟩
  rw [updateProfile_eq ho hc, if_neg fun he => hh (changes_isEmpty.1 he)]
  rfl

theorem updateProfile_missing (ho : d.outages = {}) (hc : d.contains user = false)
    (known : List String) (facts : Fields) (comment : String) :
    d.updateProfile known user facts comment = (false, d) := by
  have hn : (d.page user).isNew = true := by rw [isNew_page, hc]; rfl
  simp only [updateProfile, attempt, load_of_outages ho, Outcome.ok_bind, hn, if_true, Outcome.pure_eq]

/-- A directory with a profile that holds the facts is as every further update leaves it. -/
theorem Profiled.updateProfile_eq_self (h : Profiled known user facts d d') (ho : d.outages = {})
    (comment : String) : d'.updateProfile known user facts comment = (true, d') :=
  updateProfile_of_holds (h.outages.trans ho) h.exists_profile h.holds

/-- An update of a page succeeds and leaves a profile that holds the known facts. If the profile held them
before nothing has been saved, and otherwise one save has written them and nothing else. Neither that update
nor the creation of a page with the same facts leaves anything to a later update. Where there is no page an
update fails and changes nothing. -/
theorem updateProfile_exact (ho : d.outages = {}) (known : List String) (user : Reference)
    (facts : Fields) (comment : String) :
    (d.contains user = true → ∃ d', d.updateProfile known user facts comment = (true, d') ∧
      d'.Holds known user facts ∧ (d.Holds known user facts → d' = d) ∧
      (¬ d.Holds known user facts → Writes known user facts comment d d') ∧
      ∀ comment', d'.updateProfile known user facts comment' = (true, d')) ∧
    (d.contains user = false → d.updateProfile known user facts comment = (false, d) ∧
      ∃ d', d.createProfile known user facts = (true, d') ∧
        ∀ comment', d'.updateProfile known user facts comment' = (true, d')) := by
  constructor
  · intro hc
    have hp := updateProfile_profiled ho hc known facts comment
    by_cases hh : d.Holds known user facts
    · exact ⟨d, updateProfile_of_holds ho hc hh, hh, fun _ => rfl, fun hn => absurd hh hn,
        fun _ => updateProfile_of_holds ho hc hh⟩
    · obtain ⟨d', he, hw⟩ := updateProfile_writes ho hc hh comment
      rw [he] at hp
      exact ⟨d', he, hp.holds, fun h => absurd h hh, fun _ => hw, hp.updateProfile_eq_self ho⟩
  · intro hc
    obtain ⟨ht, hp⟩ := createProfile_profiled ho hc known facts
    exact ⟨updateProfile_missing ho hc known facts comment, _, Prod.ext ht rfl,
      hp.updateProfile_eq_self ho⟩

/-! ### An example -/

def gina : Reference := .inSpace "xwiki" "XWiki" "gina"

/-- The first profile object has been removed; there is another one. -/
def ginaPage : Page :=
  ((({ reference := gina } : Page).add userClass .empty).add userClass
    (.ofList [("email", "gina@old"), ("phone", "12")])).remove userClass 0

def ginaKept : Directory := empty.put ginaPage ""

/-- A fact that differs, one under an unknown name and one that closes the account. -/
def ginaFacts : Fields := .ofList [("email", "gina@new"), ("pet", "cat"), (activeProperty, "0")]

theorem gina_updated : ginaKept.outages = {} ∧ ginaKept.contains gina = true ∧
    (∃ d', ginaKept.updateProfile knownFacts gina ginaFacts "synced" = (true, d') ∧
      (∃ fields, (d'.page gina).firstOf? userClass = some ⟨userClass, 1, fields⟩ ∧
        fields.find? "email" = some "gina@new" ∧ fields.find? "phone" = some "12" ∧
        fields.find? "pet" = none) ∧
      d'.saves = [(gina, ""), (gina, "synced")] ∧
      d'.updateProfile knownFacts gina ginaFacts "again" = (true, d')) ∧
    empty.outages = {} ∧ empty.contains gina = false ∧
    empty.updateProfile knownFacts gina ginaFacts "synced" = (false, empty) := by
  have hc : ginaKept.contains gina = true := by decide
  have hn : ¬ ginaKept.Holds knownFacts gina ginaFacts := fun h =>
    absurd (h "email" "gina@new" (by decide)) (by decide)
  obtain ⟨hupdate, -⟩ := updateProfile_exact (d := ginaKept) rfl knownFacts gina ginaFacts "synced"
  obtain ⟨d', he, -, -, hw, hagain⟩ := hupdate hc
  obtain ⟨fields, hfirst, hfields⟩ := (hw hn).profile
  obtain ⟨-, hmissing⟩ := updateProfile_exact (d := empty) rfl knownFacts gina ginaFacts "synced"
  refine ⟨rfl, hc, ⟨d', he, ⟨fields, hfirst, ?_, ?_, ?_⟩, (hw hn).saves, hagain _⟩, rfl, rfl,
    (hmissing rfl).1⟩
  · exact (hfields "email").trans (by decide)
  · exact (hfields "phone").trans (by decide)
  · exact (hfields "pet").trans (by decide)

end Directory

end IdentityBridge
