import IdentityBridge.Text.Span

/-! Blank characters and the trimming of texts. A text is blank when it holds nothing else; a
trimmed text neither starts nor ends with one. -/

namespace IdentityBridge.Text

/-- The spans of the blank characters: the spaces of every script, line and paragraph ends, tabs
and the four separator controls. -/
def blankSpans : List Span := [
  (0x9, 0xD), (0x1C, 0x20), (0x85, 0x85), (0xA0, 0xA0), (0x1680, 0x1680), (0x2000, 0x200A),
  (0x2028, 0x2029), (0x202F, 0x202F), (0x205F, 0x205F), (0x3000, 0x3000)]

def isBlank (c : Char) : Bool := Span.covers blankSpans c.toNat

/-- Drop the characters of a class from both ends. -/
def trimBy (p : Char → Bool) (cs : List Char) : List Char :=
  ((cs.dropWhile p).reverse.dropWhile p).reverse

def trim (s : String) : String := String.ofList (trimBy isBlank s.toList)

/-- A text without any character other than blanks. -/
def blank (s : String) : Bool := s.toList.all isBlank

theorem trimBy_of_all {p : Char → Bool} {cs : List Char} (h : cs.all p = true) :
    trimBy p cs = [] := by
  have : cs.dropWhile p = [] := by
    induction cs with
    | nil => rfl
    | cons c cs ih =>
      simp only [List.all_cons, Bool.and_eq_true] at h
      simp [h.1, ih h.2]
  simp [trimBy, this]

section

variable {p : Char → Bool} {margin : List Char} {d : Char}

theorem trimBy_append_of_all (h : margin.all p = true) (cs : List Char) :
    trimBy p (cs ++ margin) = trimBy p cs := by
  have hm : ∀ c ∈ margin, p c = true := List.all_eq_true.1 h
  rw [trimBy, List.dropWhile_append]
  split
  · next he =>
    rw [trimBy, List.isEmpty_iff.1 he]
    exact trimBy_of_all h
  · rw [List.reverse_append, List.dropWhile_append_of_pos fun c hc => hm c (List.mem_reverse.1 hc), trimBy]

theorem trimBy_append_left_of_all (h : margin.all p = true) (cs : List Char) :
    trimBy p (margin ++ cs) = trimBy p cs := by
  rw [trimBy, List.dropWhile_append_of_pos (List.all_eq_true.1 h), trimBy]

/-- Around a character that stays, trimming is done on the left of what is before it and on the right of
what is after it. -/
theorem trimBy_append_cons (hd : p d = false) (before after : List Char) :
    trimBy p (before ++ d :: after) =
      before.dropWhile p ++ d :: (after.reverse.dropWhile p).reverse := by
  have hstop (cs rest : List Char) : (cs ++ d :: rest).dropWhile p = cs.dropWhile p ++ d :: rest := by
    rw [List.dropWhile_append]
    split
    · next he => simp [List.isEmpty_iff.1 he, hd]
    · rfl
  rw [trimBy, hstop, List.reverse_append, List.reverse_cons, List.append_assoc, List.singleton_append,
    hstop]
  simp

/-- Trimming leaves nothing where there is nothing but what it drops. -/
theorem trimBy_eq_nil_iff {cs : List Char} : trimBy p cs = [] ↔ cs.all p = true := by
  refine ⟨fun h => List.all_eq_true.2 fun c hc => ?_, trimBy_of_all⟩
  cases hp : p c with
  | true => rfl
  | false =>
    obtain ⟨before, after, rfl⟩ := List.append_of_mem hc
    rw [trimBy_append_cons hp] at h
    exact absurd h (List.append_ne_nil_of_right_ne_nil _ (List.cons_ne_nil _ _))

/-- Of what trimming takes away, some may be missing before. -/
theorem trimBy_dropWhile (cs : List Char) : trimBy p (cs.dropWhile p) = trimBy p cs := by
  have h : trimBy p (cs.takeWhile p ++ cs.dropWhile p) = trimBy p (cs.dropWhile p) :=
    trimBy_append_left_of_all (by simp) _
  rw [← h, List.takeWhile_append_dropWhile]

theorem trimBy_dropWhile_reverse (cs : List Char) :
    trimBy p (cs.reverse.dropWhile p).reverse = trimBy p cs := by
  have h : trimBy p ((cs.reverse.dropWhile p).reverse ++ (cs.reverse.takeWhile p).reverse) =
      trimBy p (cs.reverse.dropWhile p).reverse := trimBy_append_of_all (by simp) _
  rw [← h, ← List.reverse_append, List.takeWhile_append_dropWhile, List.reverse_reverse]

theorem mem_of_mem_trimBy {c : Char} {cs : List Char} (h : c ∈ trimBy p cs) : c ∈ cs := by
  rw [trimBy, List.mem_reverse] at h
  exact (List.dropWhile_sublist p).subset (List.mem_reverse.1 ((List.dropWhile_sublist p).subset h))

/-- A trimmed text has nothing to be dropped in front. -/
theorem dropWhile_of_trimBy {cs : List Char} (h : trimBy p cs = cs) : cs.dropWhile p = cs := by
  have hlength : (trimBy p cs).length ≤ (cs.dropWhile p).length := by
    rw [trimBy, List.length_reverse]
    exact Nat.le_trans (List.dropWhile_suffix p).length_le (Nat.le_of_eq List.length_reverse)
  rw [h] at hlength
  exact (List.dropWhile_suffix p).eq_of_length_le hlength

end

theorem trim_eq_empty_iff {s : String} : trim s = "" ↔ blank s = true := by
  rw [trim, String.ofList_eq_empty_iff, trimBy_eq_nil_iff, blank]

end IdentityBridge.Text
