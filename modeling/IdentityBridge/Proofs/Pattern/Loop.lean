import Mathlib.Data.List.Basic
import IdentityBridge.Pattern

/-! Loops over sets of characters. A greedy loop tries the places where it can end, from the farthest one
back, until the rest of the pattern matches. -/

namespace IdentityBridge.Pattern

variable {set : CharSet} {need : Nat} {place : Place} {before after told rest : List Char}

namespace CharSet

/-- The set of one character. -/
def only (c : Char) : CharSet := { items := [.point c.toNat] }

/-- The set of all characters but one. -/
def but (c : Char) : CharSet := { items := [.point c.toNat], negated := true }

theorem holds_only (c d : Char) : (only c).holds d ↔ d = c := by
  have hc : c.toNat = d.toNat ↔ d = c := by rw [Char.toNat_inj, eq_comm]
  simpa [holds, only, itemHolds] using hc

theorem holds_but (c d : Char) : (but c).holds d ↔ d ≠ c := by
  rw [Ne, ← holds_only]
  simp [holds, but, only]

end CharSet

/-- The places where a loop over a set of characters can end, the farthest first. They are at least `need`
characters on. -/
def stops (set : CharSet) : Nat → List Char → List Char → List Place
  | 0, before, [] => [⟨before, []⟩]
  | _ + 1, _, [] => []
  | 0, before, c :: rest =>
    (if set.holds c then stops set 0 (c :: before) rest else []) ++ [⟨before, c :: rest⟩]
  | need + 1, before, c :: rest => if set.holds c then stops set need (c :: before) rest else []

theorem run_char_nil (set : CharSet) (k : Continuation) (before : List Char)
    (groups : List (Nat × List Char)) : (Node.char set).run k ⟨⟨before, []⟩, groups⟩ = none := rfl

theorem run_char_cons (set : CharSet) (k : Continuation) (before : List Char) (c : Char)
    (rest : List Char) (groups : List (Nat × List Char)) :
    (Node.char set).run k ⟨⟨before, c :: rest⟩, groups⟩ =
      if set.holds c then k ⟨⟨c :: before, rest⟩, groups⟩ else none := rfl

theorem orElse_eq_or (first : Option Progress) (second : Unit → Option Progress) :
    orElse first second = first.or (second ()) := by cases first <;> rfl

/-- From any run on, a greedy loop over a set of characters ends at the first stop that is left and from
which the rest matches. -/
theorem runGreedy_char (set : CharSet) (least : Nat) (k : Continuation) (groups : List (Nat × List Char))
    {fuel : Nat} (count : Nat) {last : Option Nat} (hf : after.length < fuel)
    (hl : ∀ n ∈ last, after.length < n) :
    runGreedy (Node.char set).run least none k fuel count last ⟨⟨before, after⟩, groups⟩ =
      (stops set (least - count) before after).findSome? fun place => k ⟨place, groups⟩ := by
  -- Every run takes a character. So none begins where the last one did, and the fuel lasts to the end.
  induction after generalizing fuel count last before with
  | nil =>
    obtain ⟨fuel, rfl⟩ := Nat.exists_eq_add_one.2 (Nat.zero_lt_of_lt hf)
    rw [runGreedy]
    by_cases hc : count < least
    · obtain ⟨need, hn⟩ := Nat.exists_eq_add_one.2 (Nat.sub_pos_of_lt hc)
      rw [if_pos hc, run_char_nil, hn, stops, List.findSome?_nil]
    · rw [if_neg hc, Nat.sub_eq_zero_of_le (Nat.le_of_not_lt hc), stops, List.findSome?_singleton]
      simp [run_char_nil, orElse]
  | cons c rest ih =>
    obtain ⟨fuel, rfl⟩ := Nat.exists_eq_add_one.2 (Nat.zero_lt_of_lt hf)
    have hf' : rest.length < fuel := by simpa using hf
    rw [runGreedy]
    by_cases hc : count < least
    · have hneed : least - count = least - (count + 1) + 1 := by omega
      have hl' : ∀ n ∈ last, rest.length < n := fun n hn => Nat.lt_of_succ_lt (hl n hn)
      rw [if_pos hc, run_char_cons, hneed, stops]
      by_cases hs : set.holds c
      · rw [if_pos hs, if_pos hs]
        exact ih (count + 1) hf' hl'
      · rw [if_neg hs, if_neg hs, List.findSome?_nil]
    · have hneed : least - (count + 1) = 0 := by omega
      have hlast : last ≠ some (c :: rest).length := fun h => Nat.lt_irrefl _ (hl _ h)
      rw [if_neg hc, Nat.sub_eq_zero_of_le (Nat.le_of_not_lt hc), stops, List.findSome?_append,
        List.findSome?_singleton]
      simp only [mayRepeat, Option.all_none, Bool.true_and, hlast, ne_eq, not_false_eq_true,
        decide_true, if_true]
      rw [orElse_eq_or, run_char_cons]
      by_cases hs : set.holds c
      · rw [if_pos hs, if_pos hs, ih (count + 1) hf' (by simp), hneed]
      · rw [if_neg hs, if_neg hs, List.findSome?_nil]

/-- A greedy loop over a set of characters ends at the first stop from which the rest matches. -/
theorem run_loop_char (set : CharSet) (least : Nat) (k : Continuation) (before after : List Char)
    (groups : List (Nat × List Char)) :
    (Node.loop .greedy least none (.char set)).run k ⟨⟨before, after⟩, groups⟩ =
      (stops set least before after).findSome? fun place => k ⟨place, groups⟩ :=
  runGreedy_char set least k groups 0 (by simp only [loopFuel]; omega) (by simp)

/-- A loop ends after characters of its set. -/
theorem exists_of_mem_stops (h : place ∈ stops set need before after) :
    ∃ told, after = told ++ place.after ∧ need ≤ told.length ∧ ∀ c ∈ told, set.holds c := by
  induction after generalizing need before with
  | nil =>
    cases need with
    | zero =>
      obtain rfl := List.mem_singleton.1 h
      exact ⟨[], rfl, Nat.le_refl _, fun _ hc => absurd hc List.not_mem_nil⟩
    | succ need => cases h
  | cons c rest ih =>
    have hcons {n : Nat} (hc : set.holds c) (h : place ∈ stops set n (c :: before) rest) :
        ∃ told, c :: rest = told ++ place.after ∧ n + 1 ≤ told.length ∧ ∀ c ∈ told, set.holds c := by
      obtain ⟨told, rfl, hn, ht⟩ := ih h
      exact ⟨c :: told, rfl, Nat.succ_le_succ hn, List.forall_mem_cons.2 ⟨hc, ht⟩⟩
    cases need with
    | zero =>
      rw [stops, List.mem_append] at h
      rcases h with h | h
      · split at h
        · next hc =>
          obtain ⟨told, he, -, ht⟩ := hcons hc h
          exact ⟨told, he, Nat.zero_le _, ht⟩
        · cases h
      · obtain rfl := List.mem_singleton.1 h
        exact ⟨[], rfl, Nat.le_refl _, fun _ hc => absurd hc List.not_mem_nil⟩
    | succ need =>
      rw [stops] at h
      split at h
      · next hc => exact hcons hc h
      · cases h

/-- The farthest stop is behind all the next characters that are in the set. -/
theorem stops_append (before rest : List Char) (hn : need ≤ told.length) (ht : ∀ c ∈ told, set.holds c)
    (hr : ∀ c ∈ rest.head?, ¬ set.holds c) :
    ∃ nearer, stops set need before (told ++ rest) = ⟨told.reverse ++ before, rest⟩ :: nearer := by
  induction told generalizing need before with
  | nil =>
    obtain rfl := Nat.le_zero.1 hn
    cases rest with
    | nil => exact ⟨[], rfl⟩
    | cons c rest => exact ⟨[], by rw [List.nil_append, stops, if_neg (hr c rfl)]; rfl⟩
  | cons c told ih =>
    have hc : set.holds c := ht c List.mem_cons_self
    have ht : ∀ c ∈ told, set.holds c := fun c hc => ht c (List.mem_cons_of_mem _ hc)
    rw [List.cons_append, List.reverse_cons, List.append_assoc]
    cases need with
    | zero =>
      obtain ⟨nearer, h⟩ := ih (c :: before) (Nat.zero_le _) ht
      exact ⟨nearer ++ [⟨before, c :: (told ++ rest)⟩], by rw [stops, if_pos hc, h]; rfl⟩
    | succ need =>
      obtain ⟨nearer, h⟩ := ih (c :: before) (Nat.le_of_succ_le_succ hn) ht
      exact ⟨nearer, by rw [stops, if_pos hc, h]; rfl⟩

end IdentityBridge.Pattern
