import IdentityBridge.Delta

/-! What a delta records, whatever the order in which it came to know it. A group is decided by a static
mapping or not; it is derived, to be created or only joined, or not. Each operation adds to what is
decided or derived, and the five sets of the delta follow from that alone. -/

namespace IdentityBridge.Delta

/-- No group is in two of the sets to join, to create and to leave. -/
def Separate (δ : Delta) : Prop :=
  ∀ g, ¬ (g ∈ δ.joins ∧ g ∈ δ.creates) ∧ ¬ (g ∈ δ.joins ∧ g ∈ δ.leaves) ∧
    ¬ (g ∈ δ.creates ∧ g ∈ δ.leaves)

/-- The delta records what has been decided on groups and derived so far; a derived group comes with
whether it may be created. -/
structure Records (δ : Delta) (decided : Reference → Option Bool)
    (derived : Reference → Bool → Prop) : Prop where
  granted (g : Reference) : g ∈ δ.granted ↔ decided g = some true
  withheld (g : Reference) : g ∈ δ.withheld ↔ decided g = some false
  leaves (g : Reference) : g ∈ δ.leaves ↔ decided g = some false
  creates (g : Reference) : g ∈ δ.creates ↔ derived g true ∧ decided g ≠ some false
  joins (g : Reference) : g ∈ δ.joins ↔
    (decided g = some true ∨ derived g false ∧ decided g ≠ some false) ∧ g ∉ δ.creates

theorem records_empty : Records {} (fun _ => none) fun _ _ => False := by
  constructor <;> simp

section

variable {δ : Delta} {decided : Reference → Option Bool} {derived : Reference → Bool → Prop}

/-- Only which groups are derived matters, not how this is said. -/
theorem Records.congr (h : δ.Records decided derived) {derived' : Reference → Bool → Prop}
    (hd : ∀ g create, derived g create ↔ derived' g create) : δ.Records decided derived' := by
  have he : derived = derived' := by
    funext g create
    exact propext (hd g create)
  rwa [← he]

/-- While nothing is derived, the last decision on a group holds. -/
theorem Records.addStatic (h : δ.Records decided fun _ _ => False) (g : Reference) (member : Bool) :
    (δ.addStatic g member).Records (fun g' => if g' = g then some member else decided g')
      fun _ _ => False := by
  have hc : ∀ g', g' ∉ δ.creates := by
    intro g' hg
    exact ((h.creates g').1 hg).1
  have hg := h.granted
  have hw := h.withheld
  have hl := h.leaves
  have hj := h.joins
  constructor <;> intro g' <;> by_cases he : g' = g <;> cases member <;>
    simp_all [Delta.addStatic]

/-- What deriving a group comes to unless the group is withheld. -/
theorem addDynamic?_true {g : Reference} (hw : g ∉ δ.withheld) :
    δ.addDynamic? g true = some { δ with
      leaves := discard g δ.leaves
      joins := discard g δ.joins
      creates := insertNew g δ.creates } := by
  simp [addDynamic?, hw]

theorem addDynamic?_false {g : Reference} (hw : g ∉ δ.withheld) :
    δ.addDynamic? g false = some { δ with
      leaves := discard g δ.leaves
      joins := if g ∈ δ.creates then δ.joins else insertNew g δ.joins } := by
  by_cases hc : g ∈ δ.creates <;> simp [addDynamic?, hw, hc]

/-- A group that is withheld is not derived, and one that may be created stays so. -/
theorem Records.addDynamic (h : δ.Records decided derived) (g : Reference) (create : Bool) :
    ((δ.addDynamic? g create).getD δ).Records decided
      fun g' create' => derived g' create' ∨ g' = g ∧ create' = create := by
  by_cases hw : g ∈ δ.withheld
  · have hd := (h.withheld g).1 hw
    have hn : δ.addDynamic? g create = none := if_pos hw
    rw [hn]
    refine ⟨h.granted, h.withheld, h.leaves, ?_, ?_⟩
    · intro g'
      have hc := h.creates g'
      by_cases he : g' = g <;> simp_all
    · intro g'
      have hj := h.joins g'
      by_cases he : g' = g <;> simp_all
  have hd : decided g ≠ some false := fun hd => hw ((h.withheld g).2 hd)
  have hl : ∀ g', g' ∈ discard g δ.leaves ↔ decided g' = some false := by
    intro g'
    rw [mem_discard, h.leaves]
    exact ⟨And.left, fun hg => ⟨hg, fun he => hd (he ▸ hg)⟩⟩
  cases create with
  | true =>
    rw [addDynamic?_true hw]
    refine ⟨h.granted, h.withheld, hl, ?_, ?_⟩
    · intro g'
      have hc := h.creates g'
      by_cases he : g' = g <;> simp_all
    · intro g'
      have hj := h.joins g'
      by_cases he : g' = g <;> simp_all
  | false =>
    rw [addDynamic?_false hw]
    refine ⟨h.granted, h.withheld, hl, ?_, ?_⟩
    · intro g'
      simp [h.creates]
    · intro g'
      have hj := h.joins g'
      by_cases hc : g ∈ δ.creates <;> by_cases he : g' = g <;> simp_all

theorem Records.separate (h : δ.Records decided derived) : δ.Separate := by
  intro g
  refine ⟨fun ⟨hj, hc⟩ => ((h.joins g).1 hj).2 hc, fun ⟨hj, hl⟩ => ?_, fun ⟨hc, hl⟩ => ?_⟩
  · have hw := (h.leaves g).1 hl
    rcases ((h.joins g).1 hj).1 with ht | ⟨-, hd⟩
    · rw [hw] at ht
      cases ht
    · exact hd hw
  · exact ((h.creates g).1 hc).2 ((h.leaves g).1 hl)

end

/-- A group is taken away if a test says so, unless it is granted or joined. -/
def Lost (δ : Delta) (test : Reference → Bool) (g : Reference) : Prop :=
  test g = true ∧ g ∉ δ.granted ∧ g ∉ δ.added

theorem removeDynamic_of_lost {δ : Delta} {test : Reference → Bool} {g : Reference}
    (h : δ.Lost test g) :
    (if test g then (δ.removeDynamic? g).getD δ else δ) =
      { δ with leaves := insertNew g δ.leaves } := by
  obtain ⟨ht, hg, ha⟩ := h
  simp [removeDynamic?, ht, hg, ha]

theorem removeDynamic_of_not_lost {δ : Delta} {test : Reference → Bool} {g : Reference}
    (h : ¬ δ.Lost test g) :
    (if test g then (δ.removeDynamic? g).getD δ else δ) = δ := by
  by_cases ht : test g = true
  · have hk : g ∈ δ.granted ∨ g ∈ δ.added := by
      by_cases hg : g ∈ δ.granted
      · exact .inl hg
      · exact .inr (Decidable.by_contra fun ha => h ⟨ht, hg, ha⟩)
    rw [if_pos ht, removeDynamic?, if_pos hk, Option.getD_none]
  · rw [if_neg ht]

/-- Taking away the lost groups of a list changes the set to leave alone. -/
theorem removeDynamic_foldl (test : Reference → Bool) (groups : List Reference) (δ : Delta) :
    ∃ leaves,
      groups.foldl (fun δ g => if test g then (δ.removeDynamic? g).getD δ else δ) δ =
        { δ with leaves } ∧
      ∀ g, g ∈ leaves ↔ g ∈ δ.leaves ∨ g ∈ groups ∧ δ.Lost test g := by
  induction groups generalizing δ with
  | nil => exact ⟨δ.leaves, rfl, by simp⟩
  | cons first rest ih =>
    rw [List.foldl_cons]
    by_cases hf : δ.Lost test first
    · rw [removeDynamic_of_lost hf]
      obtain ⟨leaves, he, hl⟩ := ih { δ with leaves := insertNew first δ.leaves }
      refine ⟨leaves, he, fun g => ?_⟩
      have hlost : Lost { δ with leaves := insertNew first δ.leaves } test g ↔ δ.Lost test g := Iff.rfl
      rw [hl, hlost, mem_insertNew, List.mem_cons]
      by_cases hg : g = first
      · subst hg
        simp [hf]
      · simp [hg]
    · rw [removeDynamic_of_not_lost hf]
      obtain ⟨leaves, he, hl⟩ := ih δ
      refine ⟨leaves, he, fun g => ?_⟩
      rw [hl, List.mem_cons]
      by_cases hg : g = first
      · subst hg
        simp [hf]
      · simp [hg]

end IdentityBridge.Delta
