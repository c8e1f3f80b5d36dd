import IdentityBridge.Text.Cut

/-! Lists written as one text: items stand between delimiters, a backslash takes the meaning from
the character after it, and empty items are dropped. -/

namespace IdentityBridge.Text.Escaped

/-- The items of a text, empty ones included. The delimiter is looked for before the backslash, so
a backslash that delimits does not escape; a backslash at the end of the text is dropped. -/
def cells (delimiter : Option Char) : List Char → List (List Char)
  | [] => [[]]
  | c :: rest =>
    if some c = delimiter then [] :: cells delimiter rest
    else if c = '\\' then
      match rest with
      | [] => [[]]
      | escaped :: rest => extendFirst escaped (cells delimiter rest)
    else extendFirst c (cells delimiter rest)

/-- The delimiter a text stands for; only a text of one character delimits. -/
def delimiter? (s : String) : Option Char :=
  match s.toList with
  | [c] => some c
  | _ => none

/-- The non-empty items of a text. -/
def split (text : String) (delimiter : String) : List String :=
  ((cells (delimiter? delimiter) text.toList).filter (· ≠ [])).map String.ofList

/-- Put a backslash before every delimiter and every backslash. -/
def escape (delimiter : Char) : List Char → List Char
  | [] => []
  | c :: rest =>
    if c = delimiter ∨ c = '\\' then '\\' :: c :: escape delimiter rest
    else c :: escape delimiter rest

/-- Write items as one text. -/
def join (delimiter : Char) (items : List String) : String :=
  String.ofList ([delimiter].intercalate (items.map fun item => escape delimiter item.toList))

section

variable {d : Char} (rest : List Char)

theorem cells_delimiter : cells (some d) (d :: rest) = [] :: cells (some d) rest := by
  rw [cells.eq_def]
  exact if_pos rfl

theorem cells_escaped (hd : d ≠ '\\') (c : Char) :
    cells (some d) ('\\' :: c :: rest) = extendFirst c (cells (some d) rest) := by
  have hs : some '\\' ≠ some d := fun h => hd (Option.some.inj h).symm
  rw [cells.eq_def]
  simp only [if_neg hs, if_true]

theorem cells_letter {c : Char} (hd : c ≠ d) (hb : c ≠ '\\') :
    cells (some d) (c :: rest) = extendFirst c (cells (some d) rest) := by
  have hs : some c ≠ some d := fun h => hd (Option.some.inj h)
  rw [cells.eq_def]
  simp only [if_neg hs, if_neg hb]

end

theorem split_ne_empty {text delimiter item : String} (h : item ∈ split text delimiter) :
    item ≠ "" := by
  simp only [split, List.mem_map, List.mem_filter, decide_eq_true_eq] at h
  obtain ⟨cs, ⟨_, hcs⟩, rfl⟩ := h
  intro he
  exact hcs (by simpa using congrArg String.toList he)

end IdentityBridge.Text.Escaped
