/-! Cutting texts: at the first or last occurrence of a character, at every occurrence of a
sequence, and replacement of every occurrence, which is a cut followed by a join. -/

namespace IdentityBridge.Text

/-- The parts before and after the first occurrence of a character. -/
def cutFirst (d : Char) : List Char → Option (List Char × List Char)
  | [] => none
  | c :: rest =>
    if c = d then some ([], rest)
    else (cutFirst d rest).map fun (before, after) => (c :: before, after)

/-- The parts before and after the last occurrence of a character. -/
def cutLast (d : Char) (cs : List Char) : Option (List Char × List Char) :=
  (cutFirst d cs.reverse).map fun (after, before) => (before.reverse, after.reverse)

/-- Put a character before the first part of a cut text. -/
def extendFirst (c : Char) : List (List Char) → List (List Char)
  | [] => [[c]]
  | part :: parts => (c :: part) :: parts

/-- Cut at the occurrences of `sep`, from the left and without overlaps, after passing over
`skipped` characters. -/
def cutAllFrom (sep : List Char) : Nat → List Char → List (List Char)
  | _, [] => [[]]
  | skipped + 1, _ :: rest => cutAllFrom sep skipped rest
  | 0, c :: rest =>
    if sep.isPrefixOf (c :: rest) then [] :: cutAllFrom sep (sep.length - 1) rest
    else extendFirst c (cutAllFrom sep 0 rest)

/-- Cut at every occurrence of a non-empty sequence. -/
def cutAll (sep cs : List Char) : List (List Char) := cutAllFrom sep 0 cs

/-- Replace every occurrence of a non-empty sequence, from the left; the replacements are not
searched again. -/
def replaceAll (old new cs : List Char) : List Char := new.intercalate (cutAll old cs)

namespace Cut

/-- `cutFirst` on texts. -/
def first (d : Char) (s : String) : Option (String × String) :=
  (cutFirst d s.toList).map fun (before, after) => (String.ofList before, String.ofList after)

/-- `cutLast` on texts. -/
def last (d : Char) (s : String) : Option (String × String) :=
  (cutLast d s.toList).map fun (before, after) => (String.ofList before, String.ofList after)

/-- `cutAll` on texts. -/
def all (sep s : String) : List String := (cutAll sep.toList s.toList).map String.ofList

/-- `replaceAll` on texts; an empty sequence is nowhere replaced. -/
def replace (old new s : String) : String :=
  if old.isEmpty then s else String.ofList (replaceAll old.toList new.toList s.toList)

end Cut

theorem cutFirst_eq_some {d : Char} {cs before after : List Char}
    (h : cutFirst d cs = some (before, after)) : cs = before ++ d :: after ∧ d ∉ before := by
  induction cs generalizing before with
  | nil => simp [cutFirst] at h
  | cons c cs ih =>
    simp only [cutFirst] at h
    split at h
    · rename_i hc
      simp only [Option.some.injEq, Prod.mk.injEq] at h
      obtain ⟨rfl, rfl⟩ := h
      simp [hc]
    · rename_i hc
      obtain ⟨⟨b, a⟩, hb, he⟩ := Option.map_eq_some_iff.1 h
      simp only [Prod.mk.injEq] at he
      obtain ⟨rfl, rfl⟩ := he
      obtain ⟨h₁, h₂⟩ := ih hb
      exact ⟨by simp [h₁], by simp [h₂, Ne.symm hc]⟩

theorem cutFirst_append {d : Char} {before : List Char} (h : d ∉ before) (after : List Char) :
    cutFirst d (before ++ d :: after) = some (before, after) := by
  induction before with
  | nil => simp [cutFirst]
  | cons c cs ih =>
    rw [List.mem_cons, not_or] at h
    simp [cutFirst, Ne.symm h.1, ih h.2]

theorem cutFirst_eq_none {d : Char} {cs : List Char} (h : cutFirst d cs = none) : d ∉ cs := by
  induction cs with
  | nil => simp
  | cons c cs ih =>
    simp only [cutFirst] at h
    split at h
    · cases h
    · rename_i hc
      simp only [Option.map_eq_none_iff] at h
      simp [ih h, Ne.symm hc]

/-- A cut at a single character is a split there. -/
theorem cutAll_singleton (d : Char) (cs : List Char) : cutAll [d] cs = cs.splitOn d := by
  induction cs with
  | nil => rfl
  | cons c rest ih =>
    rw [List.splitOn_cons_eq_if_modifyHead, ← ih, cutAll, cutAllFrom]
    by_cases hc : c = d
    · subst hc
      simp [cutAll]
    · have hd : (d == c) = false := by simpa using Ne.symm hc
      rw [if_neg (by simp [List.isPrefixOf, hd]), if_neg (by simpa using hc)]
      change extendFirst c (cutAll [d] rest) = _
      rw [ih]
      cases h : rest.splitOn d with
      | nil => exact absurd h (List.splitOn_ne_nil d rest)
      | cons part parts => rfl

theorem replaceAll_singleton (d : Char) (new cs : List Char) :
    replaceAll [d] new cs = cs.flatMap fun c => if c = d then new else [c] := by
  rw [replaceAll, cutAll_singleton]
  induction cs with
  | nil => rfl
  | cons c rest ih =>
    have hne : rest.splitOn d ≠ [] := List.splitOn_ne_nil d rest
    rw [List.splitOn_cons_eq_if_modifyHead, List.flatMap_cons, ← ih]
    by_cases hc : c = d
    · rw [if_pos (by simpa using hc), if_pos hc, List.intercalate_cons_of_ne_nil hne, List.nil_append]
    · rw [if_neg (by simpa using hc), if_neg hc]
      cases h : rest.splitOn d with
      | nil => exact absurd h hne
      | cons part parts => exact List.intercalate_cons_cons_left

end IdentityBridge.Text
