/-! The order of texts by their characters, and lists sorted by it. -/

namespace IdentityBridge.Text

/-- Sort by a text, keeping the order of entries with the same one. -/
def sortBy {α : Type} (key : α → String) (entries : List α) : List α :=
  entries.mergeSort fun a b => decide (key a ≤ key b)

/-- Keep the first of each run of equal texts. -/
def dropRepeated : List String → List String
  | [] => []
  | [s] => [s]
  | s :: t :: rest => if s = t then dropRepeated (t :: rest) else s :: dropRepeated (t :: rest)

/-- The members of a set of texts in order, each once. -/
def sortSet (members : List String) : List String := dropRepeated (sortBy id members)

theorem mem_dropRepeated {s : String} {members : List String} :
    s ∈ dropRepeated members ↔ s ∈ members := by
  fun_induction dropRepeated members with
  | case1 => simp
  | case2 => simp
  | case3 t rest ih => simp [ih]
  | case4 t u rest h ih => simp [ih]

@[simp] theorem mem_sortSet {s : String} {members : List String} :
    s ∈ sortSet members ↔ s ∈ members := by
  simp [sortSet, sortBy, mem_dropRepeated]

end IdentityBridge.Text
