import Mathlib.Computability.Language
import IdentityBridge.Proofs.Pattern.Loop

/-! The languages of patterns. A node that is made of sets of characters, sequences, alternatives, groups
and loops that reconsider stands for a language, whatever the order in which the ways to match are tried.
Such a node leads from one place to another exactly over the texts of its language, so that a text matches
where a start of it, or all of it, is in the language. -/

namespace IdentityBridge.Pattern

variable {l m : Language Char} {P Q : Place → Prop} {place : Place} {k : Continuation} {node : Node}
  {least count : Nat} {most : Option Nat}

/-! ### Places that lead on -/

/-- A text of the language comes next, and behind it is a place with the property. -/
def Leads (l : Language Char) (P : Place → Prop) (place : Place) : Prop :=
  ∃ s ∈ l, ∃ rest, s ++ rest = place.after ∧ P ⟨s.reverse ++ place.before, rest⟩

theorem leads_one : Leads 1 P place ↔ P place := by
  simp [Leads]

theorem leads_add : Leads (l + m) P place ↔ Leads l P place ∨ Leads m P place := by
  simp only [Leads, Language.mem_add, or_and_right, exists_or]

theorem leads_mul : Leads (l * m) P place ↔ Leads l (Leads m P) place := by
  constructor
  · rintro ⟨_, hs, rest, he, hP⟩
    obtain ⟨a, ha, b, hb, rfl⟩ := Language.mem_mul.1 hs
    rw [List.append_assoc] at he
    rw [List.reverse_append, List.append_assoc] at hP
    exact ⟨a, ha, b ++ rest, he, b, hb, rest, rfl, hP⟩
  · rintro ⟨a, ha, _, he, b, hb, rest, rfl, hP⟩
    refine ⟨a ++ b, Language.append_mem_mul ha hb, rest, by rw [List.append_assoc, he], ?_⟩
    rwa [List.reverse_append, List.append_assoc]

theorem leads_congr (h : ∀ s rest, s ++ rest = place.after →
    (P ⟨s.reverse ++ place.before, rest⟩ ↔ Q ⟨s.reverse ++ place.before, rest⟩)) :
    Leads l P place ↔ Leads l Q place := by
  constructor
  · rintro ⟨s, hs, rest, he, hP⟩
    exact ⟨s, hs, rest, he, (h s rest he).1 hP⟩
  · rintro ⟨s, hs, rest, he, hQ⟩
    exact ⟨s, hs, rest, he, (h s rest he).2 hQ⟩

/-- The texts of one character that is in a set. -/
def single (set : CharSet) : Language Char := {s | ∃ c, set.holds c ∧ s = [c]}

theorem leads_single_cons {set : CharSet} {before rest : List Char} {c : Char} :
    Leads (single set) P ⟨before, c :: rest⟩ ↔ set.holds c ∧ P ⟨c :: before, rest⟩ := by
  constructor
  · rintro ⟨_, ⟨c, hc, rfl⟩, rest, he, hP⟩
    obtain ⟨rfl, rfl⟩ := List.cons.inj he
    exact ⟨hc, hP⟩
  · rintro ⟨hc, hP⟩
    exact ⟨[c], ⟨c, hc, rfl⟩, rest, rfl, hP⟩

theorem not_leads_single_nil {set : CharSet} {before : List Char} :
    ¬ Leads (single set) P ⟨before, []⟩ := by
  rintro ⟨_, ⟨c, -, rfl⟩, rest, he, -⟩
  cases he

/-! ### Loops -/

/-- The texts that are put together of at least `least` and at most `most` texts of a language. -/
def repeated (l : Language Char) (least : Nat) (most : Option Nat) : Language Char :=
  {s | ∃ n, least ≤ n ∧ (∀ m ∈ most, n ≤ m) ∧ s ∈ l ^ n}

/-- After `count` texts of a language, as many more of them lead on as make up an allowed number. -/
def Continues (l : Language Char) (least : Nat) (most : Option Nat) (P : Place → Prop) (count : Nat)
    (place : Place) : Prop :=
  ∃ n, least ≤ count + n ∧ (∀ m ∈ most, count + n ≤ m) ∧ Leads (l ^ n) P place

theorem continues_zero : Continues l least most P 0 place ↔ Leads (repeated l least most) P place := by
  simp only [Continues, Leads, repeated, Nat.zero_add]
  constructor
  · rintro ⟨n, hn, hm, s, hs, h⟩
    exact ⟨s, ⟨n, hn, hm, hs⟩, h⟩
  · rintro ⟨s, ⟨n, hn, hm, hs⟩, h⟩
    exact ⟨n, hn, hm, s, hs, h⟩

theorem continues_of (hc : least ≤ count) (hm : ∀ m ∈ most, count ≤ m) (hP : P place) :
    Continues l least most P count place :=
  ⟨0, hc, hm, by rwa [pow_zero, leads_one]⟩

theorem continues_of_leads (h : Leads l (Continues l least most P (count + 1)) place) :
    Continues l least most P count place := by
  obtain ⟨s, hs, rest, he, n, hn, hm, hP⟩ := h
  have hsucc : count + 1 + n = count + (n + 1) := by omega
  rw [hsucc] at hn
  simp only [hsucc] at hm
  refine ⟨n + 1, hn, hm, ?_⟩
  rw [pow_succ', leads_mul]
  exact ⟨s, hs, rest, he, hP⟩

theorem continues_iff (hc : count < least) : Continues l least most P count place ↔
    Leads l (Continues l least most P (count + 1)) place := by
  refine ⟨fun h => ?_, continues_of_leads⟩
  obtain ⟨n, hn, hm, hP⟩ := h
  obtain ⟨n, rfl⟩ := Nat.exists_eq_add_one.2 (show 0 < n by omega)
  have hsucc : count + (n + 1) = count + 1 + n := by omega
  rw [pow_succ', leads_mul] at hP
  rw [hsucc] at hn
  simp only [hsucc] at hm
  obtain ⟨s, hs, rest, he, hP⟩ := hP
  exact ⟨s, hs, rest, he, n, hn, hm, hP⟩

/-- Of the parts of a text that is not empty one is not empty, and the parts before it can be left out. -/
theorem exists_of_mem_pow {n : Nat} {s : List Char} (h : s ∈ l ^ n) (hs : s ≠ []) :
    ∃ a ∈ l, a ≠ [] ∧ ∃ i < n, ∃ b ∈ l ^ i, a ++ b = s := by
  induction n generalizing s with
  | zero => exact absurd h hs
  | succ n ih =>
    rw [pow_succ', Language.mem_mul] at h
    obtain ⟨a, ha, b, hb, rfl⟩ := h
    by_cases he : a = []
    · subst he
      obtain ⟨a, ha, he, i, hi, b', hb', hab⟩ := ih hb hs
      exact ⟨a, ha, he, i, Nat.lt_succ_of_lt hi, b', hb', hab⟩
    · exact ⟨a, ha, he, n, Nat.lt_succ_self n, b, hb, rfl⟩

theorem mayRepeat_iff : mayRepeat most count ↔ ∀ m ∈ most, count < m := by
  simp [mayRepeat, Option.all_eq_true]

/-- From the least number on, either no more texts are needed, or the next one can be taken to be not
empty. -/
theorem Continues.cases (hc : least ≤ count) (h : Continues l least most P count place) :
    P place ∨ mayRepeat most count ∧ ∃ a ∈ l, a ≠ [] ∧ ∃ rest, a ++ rest = place.after ∧
      Continues l least most P (count + 1) ⟨a.reverse ++ place.before, rest⟩ := by
  obtain ⟨n, -, hm, s, hs, rest, he, hP⟩ := h
  by_cases hse : s = []
  · subst hse
    obtain rfl : rest = place.after := he
    exact .inl hP
  · obtain ⟨a, ha, hae, i, hi, b, hb, rfl⟩ := exists_of_mem_pow hs hse
    rw [List.append_assoc] at he
    rw [List.reverse_append, List.append_assoc] at hP
    have hlt (m : Nat) (h : m ∈ most) : count + 1 + i ≤ m := Nat.le_trans (by omega) (hm m h)
    refine .inr ⟨mayRepeat_iff.2 fun m h => Nat.lt_of_lt_of_le (by omega) (hlt m h), a, ha, hae, b ++ rest,
      he, i, by omega, hlt, b, hb, rest, rfl, hP⟩

/-- Where a loop leads to, by how often it has run and how much was left where its last run began. -/
def Turns (l : Language Char) (least : Nat) (most : Option Nat) (P : Place → Prop) :
    Nat → Nat → Option Nat → Place → Prop
  | 0, _, _, _ => False
  | fuel + 1, count, last, place =>
    if count < least then Leads l (Turns l least most P fuel (count + 1) last) place
    else
      (mayRepeat most count ∧ last ≠ some place.after.length ∧
        Leads l (Turns l least most P fuel (count + 1) (some place.after.length)) place) ∨ P place

/-- A loop that begins a run where the last one began does not run again. -/
theorem of_turns {fuel : Nat} (hc : least ≤ count)
    (h : Turns l least most P fuel count (some place.after.length) place) : P place := by
  cases fuel with
  | zero => cases h
  | succ fuel =>
    rw [Turns, if_neg (Nat.not_lt.2 hc)] at h
    simpa using h

/-- With enough fuel, a loop leads on over as many texts of the language as it is allowed. -/
theorem turns_iff {fuel : Nat} {last : Option Nat} (hm : ∀ m ∈ most, least ≤ m)
    (hc : ∀ m ∈ most, count ≤ m) (hf : least - count + place.after.length + 2 ≤ fuel)
    (hl : ∀ n ∈ last, place.after.length < n) :
    Turns l least most P fuel count last place ↔ Continues l least most P count place := by
  -- Below the least number the fuel counts the runs that are missing. From there on it counts characters: a
  -- run that takes none ends the loop, and can be left out.
  induction fuel generalizing count last place with
  | zero => omega
  | succ fuel ih =>
    rw [Turns]
    split
    · next hlt =>
      rw [continues_iff hlt]
      refine leads_congr fun s rest he => ?_
      have hlen : rest.length ≤ place.after.length := by simp [← he]
      exact ih (fun m h => Nat.lt_of_lt_of_le hlt (hm m h)) (by simp only; omega)
        fun n hn => Nat.lt_of_le_of_lt hlen (hl n hn)
    · next hge =>
      have hge : least ≤ count := Nat.not_lt.1 hge
      have hlast : last ≠ some place.after.length := fun h => Nat.lt_irrefl _ (hl _ h)
      have hstep {s rest : List Char} (hs : s ≠ []) (he : s ++ rest = place.after)
          (hr : mayRepeat most count) :
          Turns l least most P fuel (count + 1) (some place.after.length)
              ⟨s.reverse ++ place.before, rest⟩ ↔
            Continues l least most P (count + 1) ⟨s.reverse ++ place.before, rest⟩ := by
        have hpos := List.length_pos_iff.2 hs
        have hlen : rest.length < place.after.length := by simp [← he, hpos]
        exact ih (mayRepeat_iff.1 hr) (by simp only; omega) (by simpa using hlen)
      constructor
      · rintro (⟨hr, -, s, hs, rest, he, ht⟩ | hP)
        · by_cases hse : s = []
          · subst hse
            obtain rfl : rest = place.after := he
            exact continues_of hge hc (of_turns (Nat.le_succ_of_le hge) ht)
          · exact continues_of_leads ⟨s, hs, rest, he, (hstep hse he hr).1 ht⟩
        · exact continues_of hge hc hP
      · intro h
        rcases h.cases hge with hP | ⟨hr, a, ha, hae, rest, he, h⟩
        · exact .inr hP
        · exact .inl ⟨hr, hlast, a, ha, rest, he, (hstep hae he hr).2 h⟩

/-! ### Continuations -/

/-- A continuation accepts the places with a property, whatever the groups have matched. -/
def Continuation.Accepts (k : Continuation) (P : Place → Prop) : Prop :=
  ∀ p : Progress, (k p).isSome ↔ P p.place

theorem isSome_orElse (first : Option Progress) (second : Unit → Option Progress) :
    (orElse first second).isSome ↔ first.isSome ∨ (second ()).isSome := by
  rw [orElse_eq_or, Option.isSome_or, Bool.or_eq_true]

/-- Whether there is a way does not depend on which is tried first, to run once more or to go on. -/
theorem isSome_more_first (may : Bool) (more stop : Option Progress) :
    (if may then orElse more fun _ => stop else stop).isSome ↔ may ∧ more.isSome ∨ stop.isSome := by
  cases may <;> simp [isSome_orElse]

theorem isSome_more_last (may : Bool) (more stop : Option Progress) :
    (orElse stop fun _ => if may then more else none).isSome ↔ may ∧ more.isSome ∨ stop.isSome := by
  cases may <;> simp [isSome_orElse, or_comm]

/-- Whichever continuation it is run with, what is run leads over the texts of a language. -/
def LeadsOver (run : Continuation → Continuation) (l : Language Char) : Prop :=
  ∀ k P, Continuation.Accepts k P → Continuation.Accepts (run k) (Leads l P)

section

variable {body : Continuation → Continuation}

theorem runGreedy_accepts (hb : LeadsOver body l) (hk : k.Accepts P) (fuel count : Nat)
    (last : Option Nat) : Continuation.Accepts (runGreedy body least most k fuel count last)
      (Turns l least most P fuel count last) := by
  induction fuel generalizing count last with
  | zero => simp [Continuation.Accepts, runGreedy, Turns]
  | succ fuel ih =>
    intro p
    have hnext (last : Option Nat) := hb _ _ (ih (count + 1) last) p
    rw [runGreedy, Turns]
    split
    · exact hnext last
    · refine (isSome_more_first _ _ _).trans ?_
      rw [Bool.and_eq_true, decide_eq_true_eq, and_assoc, hnext, hk p]

theorem runLazy_accepts (hb : LeadsOver body l) (hk : k.Accepts P) (fuel count : Nat)
    (last : Option Nat) : Continuation.Accepts (runLazy body least most k fuel count last)
      (Turns l least most P fuel count last) := by
  induction fuel generalizing count last with
  | zero => simp [Continuation.Accepts, runLazy, Turns]
  | succ fuel ih =>
    intro p
    have hnext (last : Option Nat) := hb _ _ (ih (count + 1) last) p
    rw [runLazy, Turns]
    split
    · exact hnext last
    · refine (isSome_more_last _ _ _).trans ?_
      rw [Bool.and_eq_true, decide_eq_true_eq, and_assoc, hnext, hk p]

end

/-- From its start on a loop leads over the repetitions that it allows. -/
theorem turns_start (hm : ∀ m ∈ most, least ≤ m) (p : Progress) :
    Turns l least most P (loopFuel least p) 0 none p.place ↔ Leads (repeated l least most) P p.place :=
  (turns_iff hm (by simp) (by simp [loopFuel]) (by simp)).trans continues_zero

/-! ### Nodes -/

/-- A node stands for a language: whether it matches depends on no more than the characters it takes. -/
inductive StandsFor : Node → Language Char → Prop where
  | empty : StandsFor .empty 1
  | char (set : CharSet) : StandsFor (.char set) (single set)
  | seq {a b : Node} {l m : Language Char} (ha : StandsFor a l) (hb : StandsFor b m) :
      StandsFor (.seq a b) (l * m)
  | alt {a b : Node} {l m : Language Char} (ha : StandsFor a l) (hb : StandsFor b m) :
      StandsFor (.alt a b) (l + m)
  | loop {greed : Greed} {least : Nat} {most : Option Nat} {body : Node} {l : Language Char}
      (hg : greed ≠ .possessive) (hm : ∀ m ∈ most, least ≤ m) (hb : StandsFor body l) :
      StandsFor (.loop greed least most body) (repeated l least most)
  | group {index : Nat} {body : Node} {l : Language Char} (hb : StandsFor body l) :
      StandsFor (.group index body) l

/-- A node leads over the texts of the language that it stands for, and over no others. -/
theorem StandsFor.leadsOver (h : StandsFor node l) : LeadsOver node.run l := by
  induction h with
  | empty =>
    intro k P hk p
    rw [leads_one]
    exact hk p
  | char set =>
    rintro k P hk ⟨⟨before, _ | ⟨c, rest⟩⟩, groups⟩
    · rw [run_char_nil]
      simp [not_leads_single_nil]
    · rw [run_char_cons, leads_single_cons, ← hk ⟨⟨c :: before, rest⟩, groups⟩]
      split <;> simp [*]
  | seq _ _ iha ihb =>
    intro k P hk p
    rw [leads_mul]
    exact iha _ _ (ihb k P hk) p
  | alt _ _ iha ihb =>
    intro k P hk p
    rw [leads_add, ← iha k P hk p, ← ihb k P hk p]
    exact isSome_orElse _ _
  | @loop greed _ _ _ _ hg hm _ ih =>
    intro k P hk p
    rw [← turns_start hm p]
    cases greed with
    | greedy => exact runGreedy_accepts ih hk _ _ _ p
    | lazy => exact runLazy_accepts ih hk _ _ _ p
    | possessive => exact absurd rfl hg
  | group _ ih =>
    intro k P hk p
    exact ih (fun q => k { q with groups := (_, p.place.textUpTo q.place) :: q.groups }) P
      (fun q => hk _) p

/-! ### Matches -/

variable {pattern : Pattern}

/-- A text matches at its start where it begins with a text of the language. -/
theorem matchStart?_isSome (h : StandsFor pattern.node l) (text : String) :
    (pattern.matchStart? text).isSome ↔ ∃ s ∈ l, s <+: text.toList := by
  have hk : Continuation.Accepts some fun _ => True := fun p => by simp
  rw [matchStart?, h.leadsOver some _ hk]
  simp [Leads, Place.start, List.IsPrefix]

/-! ### Words and runs of characters -/

/-- One character after another, and then a node. -/
def spelled (word : List Char) (node : Node) : Node :=
  word.foldr (fun c node => .seq (.char (.only c)) node) node

theorem single_only (c : Char) : single (.only c) = {[c]} := by
  ext s
  simp only [single, CharSet.holds_only]
  exact exists_eq_left

theorem mem_singleton_mul {word s : List Char} :
    s ∈ ({word} : Language Char) * l ↔ ∃ t ∈ l, word ++ t = s := by
  rw [Language.mem_mul]
  exact exists_eq_left

theorem standsFor_spelled (h : StandsFor node l) (word : List Char) :
    StandsFor (spelled word node) ({word} * l) := by
  induction word with
  | nil => exact (one_mul l).symm ▸ h
  | cons c word ih =>
    have hword : ({c :: word} : Language Char) * l = single (.only c) * ({word} * l) := by
      ext s
      simp [single_only, mem_singleton_mul]
    rw [hword]
    exact .seq (.char _) ih

theorem mem_single_pow {set : CharSet} {n : Nat} {s : List Char} :
    s ∈ single set ^ n ↔ s.length = n ∧ ∀ c ∈ s, set.holds c := by
  induction n generalizing s with
  | zero =>
    rw [pow_zero, Language.mem_one, List.length_eq_zero_iff, iff_self_and]
    rintro rfl
    exact List.forall_mem_nil _
  | succ n ih =>
    rw [pow_succ', Language.mem_mul]
    constructor
    · rintro ⟨_, ⟨c, hc, rfl⟩, b, hb, rfl⟩
      obtain ⟨hn, hs⟩ := ih.1 hb
      exact ⟨congrArg Nat.succ hn, List.forall_mem_cons.2 ⟨hc, hs⟩⟩
    · rintro ⟨hn, hs⟩
      obtain ⟨c, b, rfl⟩ := List.exists_cons_of_length_eq_add_one hn
      obtain ⟨hc, hb⟩ := List.forall_mem_cons.1 hs
      exact ⟨[c], ⟨c, hc, rfl⟩, b, ih.2 ⟨Nat.succ.inj hn, hb⟩, rfl⟩

theorem mem_repeated_single {set : CharSet} {s : List Char} :
    s ∈ repeated (single set) least most ↔
      least ≤ s.length ∧ (∀ m ∈ most, s.length ≤ m) ∧ ∀ c ∈ s, set.holds c := by
  constructor
  · rintro ⟨n, hn, hm, hs⟩
    obtain ⟨rfl, hset⟩ := mem_single_pow.1 hs
    exact ⟨hn, hm, hset⟩
  · rintro ⟨hn, hm, hs⟩
    exact ⟨s.length, hn, hm, mem_single_pow.2 ⟨rfl, hs⟩⟩

end IdentityBridge.Pattern
