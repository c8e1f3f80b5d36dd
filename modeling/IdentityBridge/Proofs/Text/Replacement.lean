import IdentityBridge.Text.Cut

/-! Replacing a sequence of characters in a text. The occurrences are met from the left, each of them as
early as possible after the one before, and what is put in their place is not looked at again. That is a
relation between the text before and the text after, and replacing is the function of this relation. -/

namespace IdentityBridge.Text

variable {old new cs before after out : List Char} {c : Char}

/-- A text with every occurrence of `old` replaced, from the left. -/
inductive Replaced (old new : List Char) : List Char → List Char → Prop where
  /-- There is no occurrence. -/
  | none {cs : List Char} (h : ¬ old <:+: cs) : Replaced old new cs cs
  /-- There is a first one, and the text goes on behind it. -/
  | first (before : List Char) {after out : List Char}
      (h : ∀ earlier later, earlier ++ old ++ later = before ++ old ++ after →
        before.length ≤ earlier.length)
      (hr : Replaced old new after out) : Replaced old new (before ++ old ++ after) (before ++ new ++ out)

/-! ### Replacing step by step -/

theorem cutAllFrom_eq_drop (old : List Char) (skipped : Nat) (cs : List Char) :
    cutAllFrom old skipped cs = cutAll old (cs.drop skipped) := by
  induction cs generalizing skipped with
  | nil => cases skipped <;> rfl
  | cons c rest ih =>
    cases skipped with
    | zero => rfl
    | succ skipped => exact ih skipped

theorem extendFirst_ne_nil (c : Char) (parts : List (List Char)) : extendFirst c parts ≠ [] := by
  cases parts <;> exact List.cons_ne_nil _ _

theorem cutAll_ne_nil (old cs : List Char) : cutAll old cs ≠ [] := by
  cases cs with
  | nil => exact List.cons_ne_nil _ _
  | cons c rest =>
    rw [cutAll, cutAllFrom]
    split
    · exact List.cons_ne_nil _ _
    · exact extendFirst_ne_nil _ _

theorem intercalate_extendFirst {parts : List (List Char)} (h : parts ≠ []) :
    new.intercalate (extendFirst c parts) = c :: new.intercalate parts := by
  cases parts with
  | nil => exact absurd rfl h
  | cons part parts =>
    cases parts with
    | nil => simp [extendFirst]
    | cons next parts => simp [extendFirst, List.intercalate_cons_cons]

theorem replaceAll_append (h : old ≠ []) (new after : List Char) :
    replaceAll old new (old ++ after) = new ++ replaceAll old new after := by
  obtain ⟨c, rest, rfl⟩ := List.exists_cons_of_ne_nil h
  have hcut : cutAll (c :: rest) (c :: rest ++ after) = [] :: cutAll (c :: rest) after := by
    have hp : (c :: rest).isPrefixOf (c :: (rest ++ after)) = true :=
      List.isPrefixOf_iff_prefix.2 (List.prefix_append (c :: rest) after)
    rw [List.cons_append, cutAll, cutAllFrom, if_pos hp, cutAllFrom_eq_drop, List.length_cons,
      Nat.add_sub_cancel, List.drop_left]
  rw [replaceAll, hcut, List.intercalate_cons_of_ne_nil (cutAll_ne_nil _ _), List.nil_append, replaceAll]

theorem replaceAll_cons (h : ¬ old <+: c :: cs) :
    replaceAll old new (c :: cs) = c :: replaceAll old new cs := by
  rw [replaceAll, cutAll, cutAllFrom, if_neg (mt List.isPrefixOf_iff_prefix.1 h)]
  exact intercalate_extendFirst (cutAll_ne_nil old cs)

/-! ### The relation -/

theorem replaced_replaceAll (h : old ≠ []) (new cs : List Char) :
    Replaced old new cs (replaceAll old new cs) := by
  induction hn : cs.length using Nat.strongRecOn generalizing cs with
  | ind n ih =>
    by_cases hp : old <+: cs
    · obtain ⟨after, rfl⟩ := hp
      have hlt : after.length < n := by
        have hold := List.length_pos_iff.2 h
        rw [List.length_append] at hn
        omega
      rw [replaceAll_append h]
      exact .first [] (fun _ _ _ => Nat.zero_le _) (ih _ hlt after rfl)
    · cases cs with
      | nil => exact .none fun hi => h (List.infix_nil.1 hi)
      | cons c cs =>
        rw [replaceAll_cons hp]
        have hrest := ih cs.length (by rw [← hn]; exact Nat.lt_succ_self _) cs rfl
        generalize replaceAll old new cs = out at hrest
        cases hrest with
        | none hi =>
          refine .none fun hc => ?_
          rcases List.infix_cons_iff.1 hc with hpre | hinf
          · exact hp hpre
          · exact hi hinf
        | first before hf hr =>
          refine .first (c :: before) (fun earlier later he => ?_) hr
          cases earlier with
          | nil => exact absurd ⟨later, by simpa using he⟩ hp
          | cons c' earlier =>
            exact Nat.succ_le_succ (hf earlier later (List.cons.inj he).2)

/-- A text without occurrences stays as it is. -/
theorem replaceAll_of_not_occurs (h : ¬ old <:+: cs) : replaceAll old new cs = cs := by
  induction cs with
  | nil => rfl
  | cons c cs ih =>
    rw [List.infix_cons_iff, not_or] at h
    rw [replaceAll_cons h.1, ih h.2]

theorem Replaced.eq_replaceAll (h : old ≠ []) (hr : Replaced old new cs out) :
    out = replaceAll old new cs := by
  induction hr with
  | none hi => exact (replaceAll_of_not_occurs hi).symm
  | @first before after out hf _ ih =>
    rw [ih]
    clear ih
    induction before with
    | nil =>
      rw [List.nil_append, List.nil_append, replaceAll_append h]
    | cons c before ihb =>
      have hp : ¬ old <+: c :: (before ++ old ++ after) := by
        rintro ⟨later, hl⟩
        exact absurd (hf [] later (by simpa using hl)) (by simp)
      have hbefore : ∀ earlier later, earlier ++ old ++ later = before ++ old ++ after →
          before.length ≤ earlier.length := by
        intro earlier later he
        exact Nat.le_of_succ_le_succ (hf (c :: earlier) later (congrArg (c :: ·) he))
      rw [List.cons_append, List.cons_append, List.cons_append, List.cons_append, replaceAll_cons hp,
        ihb hbefore]

/-- Where something is put in, nothing becomes empty. -/
theorem Replaced.ne_nil (hr : Replaced old new cs out) (hn : new ≠ []) (hc : cs ≠ []) : out ≠ [] := by
  cases hr with
  | none => exact hc
  | first => simp [hn]

/-- Replacing in a text does what the relation says, and nothing else does. -/
theorem replaced_replace {old : String} (h : old ≠ "") (new text : String) :
    Replaced old.toList new.toList text.toList (Cut.replace old new text).toList := by
  have hold : old.toList ≠ [] := by simpa using h
  have hempty : ¬ old.isEmpty = true := by simpa using h
  rw [Cut.replace, if_neg hempty, String.toList_ofList]
  exact replaced_replaceAll hold _ _

theorem Replaced.eq_replace {old new text out : String} (h : old ≠ "")
    (hr : Replaced old.toList new.toList text.toList out.toList) : out = Cut.replace old new text := by
  have hold : old.toList ≠ [] := by simpa using h
  refine String.toList_inj.1 ?_
  rw [hr.eq_replaceAll hold, (replaced_replace h new text).eq_replaceAll hold]

end IdentityBridge.Text
