import Mathlib.Data.List.Induction
import IdentityBridge.Proofs.Delta

/-! Deltas after any history of decisions, derivations and losses, in whatever order they come and however
often. Where a group stands depends on its own history alone: on the last static decision if there is one,
and otherwise on whether it has been derived and whether it has been lost. -/

namespace IdentityBridge.Delta

/-- What can be asked of a delta. -/
inductive Op where
  | addStatic (group : Reference) (member : Bool)
  | addDynamic (group : Reference) (create : Bool)
  | removeDynamic (group : Reference)
deriving DecidableEq

namespace Op

def group : Op → Reference
  | addStatic g _ => g
  | addDynamic g _ => g
  | removeDynamic g => g

/-- Do it, with whether it was not refused. What is refused leaves the delta as it is. -/
def perform : Op → Delta → Bool × Delta
  | addStatic g member, δ => (true, δ.addStatic g member)
  | addDynamic g create, δ => ((δ.addDynamic? g create).isSome, (δ.addDynamic? g create).getD δ)
  | removeDynamic g, δ => ((δ.removeDynamic? g).isSome, (δ.removeDynamic? g).getD δ)

/-- What it decides on a group, if it is a static decision on that group. -/
def decides (op : Op) (g : Reference) : Option Bool :=
  match op with
  | addStatic g' member => if g' = g then some member else none
  | _ => none

end Op

/-- Do one operation after another, from an empty delta on. -/
def ofHistory (history : List Op) : Delta := history.foldl (fun δ op => (op.perform δ).2) {}

/-- The last static decision on a group. -/
def decision (history : List Op) (g : Reference) : Option Bool :=
  history.reverse.findSome? (·.decides g)

def Derived (history : List Op) (g : Reference) : Prop := ∃ create, Op.addDynamic g create ∈ history

def Lapsed (history : List Op) (g : Reference) : Prop := Op.removeDynamic g ∈ history

variable {δ : Delta} {history : List Op} {op : Op} {g : Reference}

theorem ofHistory_append (history : List Op) (op : Op) :
    ofHistory (history ++ [op]) = (op.perform (ofHistory history)).2 := List.foldl_append

theorem decision_append (history : List Op) (op : Op) (g : Reference) :
    decision (history ++ [op]) g = (op.decides g).or (decision history g) := by
  rw [decision, List.reverse_append, List.reverse_singleton, List.singleton_append,
    List.findSome?_cons]
  cases op.decides g <;> rfl

theorem derived_append :
    Derived (history ++ [op]) g ↔ Derived history g ∨ ∃ create, op = .addDynamic g create := by
  simp only [Derived, List.mem_append, List.mem_singleton, exists_or, eq_comm]

theorem lapsed_append : Lapsed (history ++ [op]) g ↔ Lapsed history g ∨ op = .removeDynamic g := by
  simp only [Lapsed, List.mem_append, List.mem_singleton, eq_comm]

/-! ### Other groups -/

/-- A group is in the same sets of two deltas. -/
structure SameAt (g : Reference) (δ δ' : Delta) : Prop where
  joins : g ∈ δ'.joins ↔ g ∈ δ.joins
  creates : g ∈ δ'.creates ↔ g ∈ δ.creates
  leaves : g ∈ δ'.leaves ↔ g ∈ δ.leaves
  granted : g ∈ δ'.granted ↔ g ∈ δ.granted
  withheld : g ∈ δ'.withheld ↔ g ∈ δ.withheld

theorem SameAt.refl (g : Reference) (δ : Delta) : SameAt g δ δ :=
  ⟨Iff.rfl, Iff.rfl, Iff.rfl, Iff.rfl, Iff.rfl⟩

theorem perform_sameAt (δ : Delta) (h : g ≠ op.group) : SameAt g δ (op.perform δ).2 := by
  cases op with
  | addStatic group member =>
    have hg : g ≠ group := h
    cases member with
    | true =>
      by_cases hc : group ∈ δ.creates <;>
        constructor <;> simp [Op.perform, Delta.addStatic, hc, hg]
    | false => constructor <;> simp [Op.perform, Delta.addStatic, hg]
  | addDynamic group create =>
    have hg : g ≠ group := h
    by_cases hw : group ∈ δ.withheld
    · simp only [Op.perform, addDynamic?, if_pos hw]
      exact .refl g δ
    cases create with
    | true => constructor <;> simp [Op.perform, addDynamic?, hw, hg]
    | false =>
      by_cases hc : group ∈ δ.creates <;>
        constructor <;> simp [Op.perform, addDynamic?, hw, hc, hg]
  | removeDynamic group =>
    have hg : g ≠ group := h
    by_cases hk : group ∈ δ.granted ∨ group ∈ δ.added
    · simp only [Op.perform, removeDynamic?, if_pos hk]
      exact .refl g δ
    · simp only [Op.perform, removeDynamic?, if_neg hk]
      constructor <;> simp [hg]

/-! ### The group itself -/

/-- Where a group stands, given its history. -/
structure Stands (history : List Op) (g : Reference) (δ : Delta) : Prop where
  granted : g ∈ δ.granted ↔ decision history g = some true
  withheld : g ∈ δ.withheld ↔ decision history g = some false
  added : g ∈ δ.added ↔
    decision history g = some true ∨ decision history g = none ∧ Derived history g
  leaves : g ∈ δ.leaves ↔
    decision history g = some false ∨
      decision history g = none ∧ Lapsed history g ∧ ¬ Derived history g
  apart : ¬ (g ∈ δ.joins ∧ g ∈ δ.creates)

theorem stands_empty (g : Reference) : Stands [] g {} := by
  constructor <;> simp [decision, Derived, Lapsed]

theorem Stands.addStatic (h : Stands history g δ) (member : Bool) :
    Stands (history ++ [.addStatic g member]) g (δ.addStatic g member) := by
  have hd : decision (history ++ [.addStatic g member]) g = some member := by
    simp [decision_append, Op.decides]
  have ha := h.apart
  cases member with
  | true =>
    by_cases hc : g ∈ δ.creates <;> constructor <;> simp_all [Delta.addStatic]
  | false => constructor <;> simp [Delta.addStatic, hd]

/-- A group that is not withheld is joined once it is derived, and it is not left. -/
theorem addDynamic_admitted (hw : g ∉ δ.withheld) (ha : ¬ (g ∈ δ.joins ∧ g ∈ δ.creates))
    (create : Bool) : ∃ δ', δ.addDynamic? g create = some δ' ∧ δ'.granted = δ.granted ∧
      δ'.withheld = δ.withheld ∧ g ∈ δ'.added ∧ g ∉ δ'.leaves ∧
      ¬ (g ∈ δ'.joins ∧ g ∈ δ'.creates) := by
  cases create with
  | true => exact ⟨_, addDynamic?_true hw, rfl, rfl, by simp, by simp, by simp⟩
  | false =>
    refine ⟨_, addDynamic?_false hw, rfl, rfl, ?_, by simp, ?_⟩
    · by_cases hc : g ∈ δ.creates <;> simp [hc]
    · by_cases hc : g ∈ δ.creates <;> simp_all

theorem Stands.addDynamic (h : Stands history g δ) (create : Bool) :
    Stands (history ++ [.addDynamic g create]) g ((δ.addDynamic? g create).getD δ) := by
  have hd : decision (history ++ [.addDynamic g create]) g = decision history g := by
    simp [decision_append, Op.decides]
  have hderived : Derived (history ++ [.addDynamic g create]) g :=
    derived_append.2 (.inr ⟨create, rfl⟩)
  by_cases hw : g ∈ δ.withheld
  · -- It is refused, and the decision alone tells where the group stands.
    have hf := h.withheld.1 hw
    rw [addDynamic?, if_pos hw, Option.getD_none]
    refine ⟨?_, ?_, ?_, ?_, h.apart⟩
    · rw [hd, h.granted]
    · rw [hd, h.withheld]
    · rw [hd, h.added]
      simp [hf]
    · rw [hd, h.leaves]
      simp [hf]
  · obtain ⟨δ', he, hg', hw', hadded, hleaves, hapart⟩ := addDynamic_admitted hw h.apart create
    have hf : decision history g ≠ some false := fun hf => hw (h.withheld.2 hf)
    rw [he, Option.getD_some]
    refine ⟨?_, ?_, iff_of_true hadded ?_, iff_of_false hleaves ?_, hapart⟩
    · rw [hd, hg', h.granted]
    · rw [hd, hw', h.withheld]
    · rw [hd]
      rcases hdec : decision history g with _ | _ | _
      · exact .inr ⟨rfl, hderived⟩
      · exact absurd hdec hf
      · exact .inl rfl
    · rw [hd]
      rintro (hdec | ⟨-, -, hn⟩)
      · exact hf hdec
      · exact hn hderived

theorem Stands.removeDynamic (h : Stands history g δ) :
    Stands (history ++ [.removeDynamic g]) g ((δ.removeDynamic? g).getD δ) := by
  have hd : decision (history ++ [.removeDynamic g]) g = decision history g := by
    simp [decision_append, Op.decides]
  have hderived : Derived (history ++ [.removeDynamic g]) g ↔ Derived history g := by
    simp [derived_append]
  have hlapsed : Lapsed (history ++ [.removeDynamic g]) g := lapsed_append.2 (.inr rfl)
  by_cases hk : g ∈ δ.added
  · -- It is refused; a group that is joined is not to be left.
    rw [removeDynamic?, if_pos (.inr hk), Option.getD_none]
    refine ⟨?_, ?_, ?_, ?_, h.apart⟩
    · rw [hd, h.granted]
    · rw [hd, h.withheld]
    · rw [hd, hderived, h.added]
    · rw [hd, hderived, h.leaves]
      rcases h.added.1 hk with ht | ⟨hn, hk⟩
      · simp [ht]
      · simp [hn, hk]
  · have hng : g ∉ δ.granted := fun hg => hk (h.added.2 (.inl (h.granted.1 hg)))
    have hrefused : ¬ (g ∈ δ.granted ∨ g ∈ δ.added) := not_or.2 ⟨hng, hk⟩
    rw [removeDynamic?, if_neg hrefused, Option.getD_some]
    refine ⟨?_, ?_, ?_, iff_of_true (mem_insertNew.2 (.inl rfl)) ?_, h.apart⟩
    · rw [hd, h.granted]
    · rw [hd, h.withheld]
    · rw [hd, hderived]
      exact h.added
    · rw [hd, hderived]
      rcases hdec : decision history g with _ | _ | _
      · exact .inr ⟨rfl, hlapsed, fun hn => hk (h.added.2 (.inr ⟨hdec, hn⟩))⟩
      · exact .inl rfl
      · exact absurd (h.added.2 (.inl hdec)) hk

/-- What concerns other groups changes neither where a group stands nor its history. -/
theorem Stands.of_sameAt {δ' : Delta} (h : Stands history g δ) (hs : SameAt g δ δ')
    (hg : g ≠ op.group) : Stands (history ++ [op]) g δ' := by
  have hd : decision (history ++ [op]) g = decision history g := by
    rw [decision_append]
    cases op with
    | addStatic group member =>
      have hn : Op.decides (.addStatic group member) g = none := if_neg (Ne.symm hg)
      rw [hn, Option.none_or]
    | addDynamic => rfl
    | removeDynamic => rfl
  have hderived : Derived (history ++ [op]) g ↔ Derived history g := by
    rw [derived_append, or_iff_left]
    rintro ⟨create, rfl⟩
    exact hg rfl
  have hlapsed : Lapsed (history ++ [op]) g ↔ Lapsed history g := by
    rw [lapsed_append, or_iff_left]
    rintro rfl
    exact hg rfl
  refine ⟨?_, ?_, ?_, ?_, ?_⟩
  · rw [hs.granted, hd, h.granted]
  · rw [hs.withheld, hd, h.withheld]
  · rw [hd, hderived, ← h.added, mem_added, mem_added, hs.joins, hs.creates]
  · rw [hs.leaves, hd, hderived, hlapsed, h.leaves]
  · rw [hs.joins, hs.creates]
    exact h.apart

theorem Stands.perform (h : Stands history g δ) (op : Op) :
    Stands (history ++ [op]) g (op.perform δ).2 := by
  by_cases hg : g = op.group
  · cases op with
    | addStatic group member =>
      obtain rfl : g = group := hg
      exact h.addStatic member
    | addDynamic group create =>
      obtain rfl : g = group := hg
      exact h.addDynamic create
    | removeDynamic group =>
      obtain rfl : g = group := hg
      exact h.removeDynamic
  · exact h.of_sameAt (perform_sameAt δ hg) hg

/-! ### Whole histories -/

/-- After any history each group stands where its own history puts it. -/
theorem stands_ofHistory (history : List Op) (g : Reference) : Stands history g (ofHistory history) := by
  induction history using List.reverseRecOn with
  | nil => exact stands_empty g
  | append_singleton history op ih =>
    rw [ofHistory_append]
    exact ih.perform op

theorem Stands.not_leaves_of_added (h : Stands history g δ) (ha : g ∈ δ.added) : g ∉ δ.leaves := by
  intro hl
  rcases h.added.1 ha with ht | ⟨hn, hd⟩ <;> rcases h.leaves.1 hl with hf | ⟨hn', -, hd'⟩
  · cases ht.symm.trans hf
  · cases ht.symm.trans hn'
  · cases hn.symm.trans hf
  · exact hd' hd

/-- What is refused changes nothing. -/
theorem Op.perform_of_refused (h : (op.perform δ).1 = false) : (op.perform δ).2 = δ := by
  cases op with
  | addStatic => cases h
  | addDynamic g create =>
    have hn : δ.addDynamic? g create = none := Option.not_isSome_iff_eq_none.1 (Bool.eq_false_iff.1 h)
    rw [Op.perform, hn, Option.getD_none]
  | removeDynamic g =>
    have hn : δ.removeDynamic? g = none := Option.not_isSome_iff_eq_none.1 (Bool.eq_false_iff.1 h)
    rw [Op.perform, hn, Option.getD_none]

theorem addDynamic_refused (create : Bool) :
    ((Op.addDynamic g create).perform δ).1 = false ↔ g ∈ δ.withheld := by
  by_cases hw : g ∈ δ.withheld
  · simp [Op.perform, addDynamic?, hw]
  · cases create with
    | true => simp [Op.perform, addDynamic?_true hw, hw]
    | false => simp [Op.perform, addDynamic?_false hw, hw]

/-- A group that is granted is joined as well. -/
theorem Stands.removeDynamic_refused (h : Stands history g δ) :
    ((Op.removeDynamic g).perform δ).1 = false ↔ g ∈ δ.added := by
  have hk : g ∈ δ.granted ∨ g ∈ δ.added ↔ g ∈ δ.added := by
    refine or_iff_right_of_imp fun hg => h.added.2 (.inl (h.granted.1 hg))
  rw [← hk]
  by_cases hr : g ∈ δ.granted ∨ g ∈ δ.added
  · rw [Op.perform, removeDynamic?, if_pos hr]
    exact iff_of_true rfl hr
  · rw [Op.perform, removeDynamic?, if_neg hr]
    exact iff_of_false (by simp) hr

/-- After any history of operations on an empty delta, no group is in two of the sets to join, to create
and to leave, nor both granted and withheld; what is granted is joined and what is withheld is left. A group
with a static decision stands where the last one puts it. A group without one is joined just if it has been
derived, and left just if it has been lost but never derived. An operation that is refused changes nothing,
and none changes where another group stands; refused are only the derivation of a group that was last
decided against, and the loss of a group that is joined. -/
theorem history_decides (history : List Op) :
    (ofHistory history).Separate ∧
    (∀ g, (g ∈ (ofHistory history).granted → g ∈ (ofHistory history).added) ∧
      (g ∈ (ofHistory history).withheld → g ∈ (ofHistory history).leaves) ∧
      ¬ (g ∈ (ofHistory history).granted ∧ g ∈ (ofHistory history).withheld)) ∧
    (∀ g, decision history g = some true →
      g ∈ (ofHistory history).added ∧ g ∉ (ofHistory history).leaves) ∧
    (∀ g, decision history g = some false →
      g ∈ (ofHistory history).leaves ∧ g ∉ (ofHistory history).added) ∧
    (∀ g, decision history g = none →
      (g ∈ (ofHistory history).added ↔ Derived history g) ∧
      (g ∈ (ofHistory history).leaves ↔ Lapsed history g ∧ ¬ Derived history g)) ∧
    (∀ op : Op, ((op.perform (ofHistory history)).1 = false →
        (op.perform (ofHistory history)).2 = ofHistory history) ∧
      ∀ g, g ≠ op.group → SameAt g (ofHistory history) (op.perform (ofHistory history)).2) ∧
    (∀ g create, ((Op.addDynamic g create).perform (ofHistory history)).1 = false ↔
      decision history g = some false) ∧
    ∀ g, ((Op.removeDynamic g).perform (ofHistory history)).1 = false ↔
      g ∈ (ofHistory history).added := by
  have hs := stands_ofHistory history
  have hapart (g : Reference) : g ∈ (ofHistory history).added → g ∉ (ofHistory history).leaves :=
    (hs g).not_leaves_of_added
  refine ⟨fun g => ⟨(hs g).apart, ?_, ?_⟩, fun g => ⟨?_, ?_, ?_⟩, fun g hd => ?_, fun g hd => ?_,
    fun g hd => ⟨?_, ?_⟩, fun op => ⟨Op.perform_of_refused, fun g => perform_sameAt _⟩,
    fun g create => ?_, fun g => (hs g).removeDynamic_refused⟩
  · rintro ⟨hj, hl⟩
    exact hapart g (mem_added.2 (.inl hj)) hl
  · rintro ⟨hc, hl⟩
    exact hapart g (mem_added.2 (.inr hc)) hl
  · exact fun hg => (hs g).added.2 (.inl ((hs g).granted.1 hg))
  · exact fun hg => (hs g).leaves.2 (.inl ((hs g).withheld.1 hg))
  · rintro ⟨hg, hw⟩
    cases ((hs g).granted.1 hg).symm.trans ((hs g).withheld.1 hw)
  · have ha := (hs g).added.2 (.inl hd)
    exact ⟨ha, hapart g ha⟩
  · have hl := (hs g).leaves.2 (.inl hd)
    exact ⟨hl, fun ha => hapart g ha hl⟩
  · rw [(hs g).added, hd]
    simp
  · rw [(hs g).leaves, hd]
    simp
  · rw [addDynamic_refused, (hs g).withheld]

/-! ### An example -/

def lab : Reference := .inSpace "xwiki" "XWiki" "Lab"

def desk : Reference := .inSpace "xwiki" "XWiki" "Desk"

def attic : Reference := .inSpace "xwiki" "XWiki" "Attic"

def cellar : Reference := .inSpace "xwiki" "XWiki" "Cellar"

/-- The lab is decided on twice, the desk once after it was lost; the attic is derived and then lost, the
cellar only lost. -/
def wavering : List Op :=
  [.addStatic lab true, .removeDynamic desk, .addDynamic attic true, .addStatic desk true,
    .addStatic lab false, .addDynamic lab true, .removeDynamic attic, .removeDynamic cellar]

theorem wavering_decides :
    decision wavering desk = some true ∧ decision wavering lab = some false ∧
    decision wavering attic = none ∧ decision wavering cellar = none ∧
    (desk ∈ (ofHistory wavering).added ∧ desk ∉ (ofHistory wavering).leaves) ∧
    (lab ∈ (ofHistory wavering).leaves ∧ lab ∉ (ofHistory wavering).added) ∧
    attic ∈ (ofHistory wavering).added ∧ cellar ∈ (ofHistory wavering).leaves ∧
    ((Op.addDynamic lab true).perform (ofHistory wavering)).1 = false := by
  have hdesk : decision wavering desk = some true := by decide
  have hlab : decision wavering lab = some false := by decide
  have hattic : decision wavering attic = none := by decide
  have hcellar : decision wavering cellar = none := by decide
  obtain ⟨-, -, hin, hout, hfree, -, hrefused, -⟩ := history_decides wavering
  have hderived : Derived wavering attic := ⟨true, by decide⟩
  have hlapsed : Lapsed wavering cellar ∧ ¬ Derived wavering cellar := by
    refine ⟨?_, ?_⟩
    · unfold Lapsed
      decide
    · rintro ⟨create, h⟩
      revert create
      decide
  exact ⟨hdesk, hlab, hattic, hcellar, hin desk hdesk, hout lab hlab,
    (hfree attic hattic).1.2 hderived, (hfree cellar hcellar).2.2 hlapsed, (hrefused lab true).2 hlab⟩

end IdentityBridge.Delta
