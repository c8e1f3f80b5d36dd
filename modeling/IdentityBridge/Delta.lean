import IdentityBridge.Reference

/-! The group delta of one authentication: the groups to join, those to join and create if missing,
and those to leave. The three sets stay disjoint; what the static mappings decide outranks what the
dynamic rules derive, and a group to be created is not also merely joined. -/

namespace IdentityBridge

/-- Add a member to a set given as a list. -/
def insertNew {α : Type} [DecidableEq α] (a : α) (set : List α) : List α :=
  if a ∈ set then set else set ++ [a]

/-- Take a member out of a set given as a list. -/
def discard {α : Type} [DecidableEq α] (a : α) (set : List α) : List α := set.filter (· ≠ a)

@[simp] theorem mem_insertNew {α : Type} [DecidableEq α] {a b : α} {set : List α} :
    b ∈ insertNew a set ↔ b = a ∨ b ∈ set := by
  unfold insertNew
  split <;> simp_all [or_comm]

theorem nodup_insertNew {α : Type} [DecidableEq α] {a : α} {set : List α} (h : set.Nodup) :
    (insertNew a set).Nodup := by
  unfold insertNew
  split
  · exact h
  · next hn =>
    refine List.nodup_append.2 ⟨h, by simp, fun b hb c hc he => hn ?_⟩
    rwa [← List.mem_singleton.1 hc, ← he]

@[simp] theorem mem_discard {α : Type} [DecidableEq α] {a b : α} {set : List α} :
    b ∈ discard a set ↔ b ∈ set ∧ b ≠ a := by
  simp [discard]

structure Delta where
  /-- Groups to join if they exist. -/
  joins : List Reference := []
  /-- Groups to join, and to create if they are missing. -/
  creates : List Reference := []
  /-- Groups to leave. -/
  leaves : List Reference := []
  /-- Groups that the static mappings grant. -/
  granted : List Reference := []
  /-- Groups that the static mappings withhold. -/
  withheld : List Reference := []
deriving DecidableEq

namespace Delta

/-- All groups to join. -/
def added (d : Delta) : List Reference := d.joins ++ d.creates.filter (· ∉ d.joins)

@[simp] theorem mem_added {d : Delta} {g : Reference} :
    g ∈ d.added ↔ g ∈ d.joins ∨ g ∈ d.creates := by
  by_cases h : g ∈ d.joins <;> simp [added, h]

/-- Record what a static mapping decides. -/
def addStatic (d : Delta) (g : Reference) (member : Bool) : Delta :=
  if member then
    { d with
      withheld := discard g d.withheld
      leaves := discard g d.leaves
      granted := insertNew g d.granted
      joins := if g ∈ d.creates then d.joins else insertNew g d.joins }
  else
    { d with
      granted := discard g d.granted
      joins := discard g d.joins
      creates := discard g d.creates
      withheld := insertNew g d.withheld
      leaves := insertNew g d.leaves }

/-- Record a derived group, unless a static mapping withholds it. -/
def addDynamic? (d : Delta) (g : Reference) (create : Bool) : Option Delta :=
  if g ∈ d.withheld then none
  else
    let d := { d with leaves := discard g d.leaves }
    if create then
      some { d with joins := discard g d.joins, creates := insertNew g d.creates }
    else if g ∈ d.creates then some d
    else some { d with joins := insertNew g d.joins }

/-- Record a derived group that is lost, unless it is granted or joined. -/
def removeDynamic? (d : Delta) (g : Reference) : Option Delta :=
  if g ∈ d.granted ∨ g ∈ d.added then none
  else some { d with leaves := insertNew g d.leaves }

/-- The groups among the given ones that are neither joined nor granted. -/
def removalCandidates (d : Delta) (current : List Reference) : List Reference :=
  current.filter fun g => g ∉ d.added && g ∉ d.granted

/-- Nothing to join and nothing to leave. -/
def isEmpty (d : Delta) : Bool := d.joins.isEmpty && d.creates.isEmpty && d.leaves.isEmpty

end Delta

end IdentityBridge
