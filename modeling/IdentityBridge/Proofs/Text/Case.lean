import IdentityBridge.Text.Case

/-! Texts that have been brought to a case. Each of their characters stays as it is in that case, wherever it
stands, so bringing them to it again changes nothing. For single characters this is a property of the tables:
the runs of code points map past each other, and so do the upper cases of several characters. -/

namespace IdentityBridge.Text

/-! ### Runs that map past each other -/

namespace CaseRun

variable {run : CaseRun} {runs : List CaseRun} {point image : Nat}

/-- Where a run moves a code point. -/
def target (run : CaseRun) (point : Nat) : Nat := (point + run.shift).toNat

/-- The code points of a run. -/
structure Holds (run : CaseRun) (point : Nat) : Prop where
  first_le : run.first ≤ point
  le_last : point ≤ run.last
  in_step : (point - run.first) % run.step = 0

theorem exists_holds_of_image? (h : image? runs point = some image) :
    ∃ run ∈ runs, run.Holds point ∧ image = run.target point := by
  induction runs with
  | nil => cases h
  | cons run rest ih =>
    rw [image?] at h
    split at h
    · cases h
    · next hfirst =>
      split at h
      · next hlast =>
        simp only [Bool.and_eq_true, decide_eq_true_eq, beq_iff_eq] at hlast
        cases h
        exact ⟨run, List.mem_cons_self, ⟨by omega, hlast.1, hlast.2⟩, rfl⟩
      · obtain ⟨other, hother, hholds⟩ := ih h
        exact ⟨other, List.mem_cons_of_mem run hother, hholds⟩

/-- Whether a run maps past other ones: before their first, behind their last or between their code points. -/
def mapsPast (run : CaseRun) : List CaseRun → Bool
  | [] => true
  | other :: rest =>
    run.target run.last < other.first ||
      ((other.last < run.target run.first ||
        ((run.first == run.last || run.step % other.step == 0) &&
          run.target run.first % other.step != other.first % other.step)) && run.mapsPast rest)

theorem Holds.target_mem (h : run.Holds point) :
    run.target run.first ≤ run.target point ∧ run.target point ≤ run.target run.last := by
  have hfirst := h.first_le
  have hlast := h.le_last
  unfold target
  omega

/-- The code points of a run keep their distance when they are moved. -/
theorem Holds.target_eq (h : run.Holds point) (hs : 0 ≤ run.first + run.shift) :
    ∃ n, run.target point = run.target run.first + run.step * n := by
  refine ⟨(point - run.first) / run.step, ?_⟩
  have hstep : run.step * ((point - run.first) / run.step) = point - run.first :=
    Nat.mul_div_cancel' (Nat.dvd_of_mod_eq_zero h.in_step)
  have hfirst := h.first_le
  rw [hstep]
  unfold target
  omega

/-- Whether a run maps nothing to a code point, because that lies before or behind what it maps to. -/
def avoids (run : CaseRun) (point : Nat) : Bool :=
  point < run.target run.first || run.target run.last < point

theorem Holds.target_ne {other : Nat} (h : run.Holds point) (ha : run.avoids other = true) :
    run.target point ≠ other := by
  obtain ⟨hlow, hhigh⟩ := h.target_mem
  simp only [avoids, Bool.or_eq_true, decide_eq_true_eq] at ha
  omega

theorem image?_target (hs : 0 ≤ run.first + run.shift) (h : run.mapsPast runs = true)
    (hp : run.Holds point) : image? runs (run.target point) = none := by
  obtain ⟨hlow, hhigh⟩ := hp.target_mem
  induction runs with
  | nil => rfl
  | cons other rest ih =>
    simp only [mapsPast, Bool.or_eq_true, Bool.and_eq_true, decide_eq_true_eq, beq_iff_eq,
      bne_iff_ne] at h
    rw [image?]
    split
    · rfl
    · next hfirst =>
      rcases h with h | ⟨hother, hrest⟩
      · omega
      · rw [if_neg, ih hrest]
        simp only [Bool.and_eq_true, decide_eq_true_eq, beq_iff_eq, not_and]
        intro hlast hstep
        rcases hother with h | ⟨hphase, hne⟩
        · omega
        · -- a code point in step with the other run has the remainder of its first one
          have hmod : run.target point % other.step = other.first % other.step := by
            obtain ⟨n, hn⟩ := Nat.dvd_of_mod_eq_zero hstep
            rw [show run.target point = other.first + other.step * n by omega, Nat.add_mul_mod_self_left]
          refine hne (hmod ▸ ?_)
          rcases hphase with hone | hdvd
          · have hpoint : point = run.first := Nat.le_antisymm (hone ▸ hp.le_last) hp.first_le
            rw [hpoint]
          · obtain ⟨n, hn⟩ := hp.target_eq hs
            obtain ⟨m, hm⟩ := Nat.dvd_of_mod_eq_zero hdvd
            rw [hn, hm, Nat.mul_assoc, Nat.add_mul_mod_self_left]

end CaseRun

open CaseRun

theorem lowerRuns_past : ∀ run ∈ lowerRuns, 0 ≤ run.first + run.shift ∧
    run.mapsPast lowerRuns = true ∧ run.avoids 'İ'.toNat = true := by
  decide +kernel

theorem upperRuns_past : ∀ run ∈ upperRuns, 0 ≤ run.first + run.shift ∧
    run.mapsPast upperRuns = true ∧ longUppers.all (run.avoids ·.1) = true := by
  decide +kernel

theorem longUppers_past : ∀ entry ∈ longUppers, entry.2 ≠ [] ∧ ∀ point ∈ entry.2,
    image? upperRuns point = none ∧ longUppers.lookup point = none := by
  decide +kernel

theorem mem_longUppers {point : Nat} {points : List Nat} (h : longUppers.lookup point = some points) :
    (point, points) ∈ longUppers := by
  obtain ⟨front, back, heq, -⟩ := List.lookup_eq_some_iff.1 h
  rw [heq]
  exact List.mem_append_right front List.mem_cons_self

/-! ### Single characters -/

variable {c d : Char} {cs before : List Char} {point : Nat}

/-- The character of a code point has that code point, or the first one where there is no such character. -/
theorem toNat_ofNat (point : Nat) :
    (Char.ofNat point).toNat = point ∨ (Char.ofNat point).toNat = 0 := by
  by_cases h : point.isValidChar
  · rw [Char.ofNat, dif_pos h]
    exact .inl rfl
  · rw [Char.ofNat, dif_neg h]
    exact .inr rfl

/-- A character that stays as it is in lower case, wherever it stands. -/
structure StaysLower (c : Char) : Prop where
  ne_sigma : c ≠ 'Σ'
  lowerChar_eq : lowerChar c = [c]

/-- A character that stays as it is in upper case. -/
def StaysUpper (c : Char) : Prop := upperChar c = [c]

theorem staysLower_of_image? (hc : c ≠ 'İ') (h : image? lowerRuns c.toNat = none) : StaysLower c where
  ne_sigma := by
    rintro rfl
    exact absurd h (by decide)
  lowerChar_eq := by
    rw [lowerChar, if_neg hc, h]
    rfl

theorem staysUpper_of_image? (hl : longUppers.lookup c.toNat = none)
    (h : image? upperRuns c.toNat = none) : StaysUpper c := by
  rw [StaysUpper, upperChar, hl, h]
  rfl

/-- No character needs to be brought to lower case twice. -/
theorem staysLower_of_mem (hd : d ∈ lowerChar c) : StaysLower d := by
  by_cases hi : c = 'İ'
  · rw [lowerChar, if_pos hi] at hd
    simp only [List.mem_cons, List.not_mem_nil, or_false] at hd
    rcases hd with rfl | rfl
    · exact ⟨by decide, by decide⟩
    · exact ⟨by decide, by decide⟩
  · rw [lowerChar, if_neg hi] at hd
    obtain rfl := List.mem_singleton.1 hd
    cases h : image? lowerRuns c.toNat with
    | none => exact staysLower_of_image? hi h
    | some point =>
      obtain ⟨run, hrun, hholds, rfl⟩ := exists_holds_of_image? h
      obtain ⟨hs, hpast, hdotted⟩ := lowerRuns_past run hrun
      rcases toNat_ofNat (run.target c.toNat) with hn | hn
      · refine staysLower_of_image? (fun he => ?_) ?_
        · exact hholds.target_ne hdotted (hn.symm.trans (congrArg Char.toNat he))
        · exact (congrArg _ hn).trans (image?_target hs hpast hholds)
      · refine staysLower_of_image? (fun he => ?_) ?_
        · exact absurd (hn.symm.trans (congrArg Char.toNat he)) (by decide)
        · exact (congrArg _ hn).trans rfl

theorem staysUpper_ofNat (hl : longUppers.lookup point = none) (h : image? upperRuns point = none) :
    StaysUpper (Char.ofNat point) := by
  rcases toNat_ofNat point with hn | hn
  · exact staysUpper_of_image? (by rw [hn, hl]) (by rw [hn, h])
  · exact staysUpper_of_image? (by rw [hn]; decide) (by rw [hn]; decide)

/-- No character needs to be brought to upper case twice. -/
theorem staysUpper_of_mem (hd : d ∈ upperChar c) : StaysUpper d := by
  rw [upperChar] at hd
  cases hl : longUppers.lookup c.toNat with
  | some points =>
    rw [hl] at hd
    obtain ⟨point, hpoint, rfl⟩ := List.mem_map.1 hd
    obtain ⟨himage, hlong⟩ := (longUppers_past _ (mem_longUppers hl)).2 point hpoint
    exact staysUpper_ofNat hlong himage
  | none =>
    rw [hl] at hd
    obtain rfl := List.mem_singleton.1 hd
    cases h : image? upperRuns c.toNat with
    | none => exact staysUpper_of_image? hl h
    | some point =>
      obtain ⟨run, hrun, hholds, rfl⟩ := exists_holds_of_image? h
      obtain ⟨hs, hpast, hlong⟩ := upperRuns_past run hrun
      refine staysUpper_ofNat (List.lookup_eq_none_iff.2 fun entry he => ?_) (image?_target hs hpast hholds)
      exact bne_iff_ne.2 (hholds.target_ne (List.all_eq_true.1 hlong entry he))

/-! ### Texts -/

theorem staysLower_of_mem_lowerAfter (hd : d ∈ lowerAfter before cs) : StaysLower d := by
  induction cs generalizing before with
  | nil => cases hd
  | cons c after ih =>
    rw [lowerAfter] at hd
    rcases List.mem_append.1 hd with hd | hd
    · by_cases hc : c = 'Σ'
      · rw [if_pos hc] at hd
        split at hd <;> obtain rfl := List.mem_singleton.1 hd <;> exact ⟨by decide, by decide⟩
      · rw [if_neg hc] at hd
        exact staysLower_of_mem hd
    · exact ih hd

theorem lowerAfter_of_stays (h : ∀ c ∈ cs, StaysLower c) : lowerAfter before cs = cs := by
  induction cs generalizing before with
  | nil => rfl
  | cons c after ih =>
    obtain ⟨hc, hafter⟩ := List.forall_mem_cons.1 h
    rw [lowerAfter, if_neg hc.ne_sigma, hc.lowerChar_eq, ih hafter, List.singleton_append]

/-- The texts in lower case are those of characters that stay as they are. -/
theorem lowerChars_eq_self_iff : lowerChars cs = cs ↔ ∀ c ∈ cs, StaysLower c := by
  refine ⟨fun h c hc => ?_, lowerAfter_of_stays⟩
  rw [← h] at hc
  exact staysLower_of_mem_lowerAfter hc

theorem staysUpper_of_mem_upperChars (hd : d ∈ upperChars cs) : StaysUpper d := by
  obtain ⟨c, -, hc⟩ := List.mem_flatMap.1 hd
  exact staysUpper_of_mem hc

theorem upperChars_of_stays (h : ∀ c ∈ cs, StaysUpper c) : upperChars cs = cs := by
  induction cs with
  | nil => rfl
  | cons c after ih =>
    obtain ⟨hc, hafter⟩ := List.forall_mem_cons.1 h
    rw [upperChars, List.flatMap_cons, hc]
    exact congrArg (c :: ·) (ih hafter)

theorem upperChar_ne_nil (c : Char) : upperChar c ≠ [] := by
  rw [upperChar]
  cases hl : longUppers.lookup c.toNat with
  | none => exact List.cons_ne_nil _ _
  | some points => exact mt List.map_eq_nil_iff.1 (longUppers_past _ (mem_longUppers hl)).1

end IdentityBridge.Text
