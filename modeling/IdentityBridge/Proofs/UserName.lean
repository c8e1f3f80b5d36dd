import Mathlib.Data.List.Basic
import IdentityBridge.Proofs.Text.Case
import IdentityBridge.UserName

/-! Names that have been normalized. A style keeps the characters that its mapping of the case leaves as they
are, and a style other than that of titles brings a name to such characters alone. Replacements of single
characters keep it so, if the style keeps what they put in, and take all their keys out of the name for good;
then a normalized name is its own normal form. A title is one unless the upper case of its first character
goes on with characters that have another lower case; these are brought to lower case when the name is
normalized again, and then it stays. -/

namespace IdentityBridge.UserName

open Text

variable {style : CaseStyle} {replacements : Table String String} {entry : String × String}
  {entries : List (String × String)} {text old new : String} {cs : List Char} {c d : Char}

/-! ### Cases -/

namespace CaseStyle

/-- A character that a style leaves as it is, wherever it stands. -/
def Keeps : CaseStyle → Char → Prop
  | lowercase, c => StaysLower c
  | uppercase, c => StaysUpper c
  | titlecase, c => StaysUpper c ∧ StaysLower c
  | none, _ => True

theorem keeps_of_mem_fold (hs : style ≠ titlecase) (h : c ∈ style.fold cs) : style.Keeps c := by
  cases style with
  | lowercase => exact staysLower_of_mem_lowerAfter h
  | uppercase => exact staysUpper_of_mem_upperChars h
  | titlecase => exact absurd rfl hs
  | none => trivial

theorem fold_of_keeps (h : ∀ c ∈ cs, style.Keeps c) : style.fold cs = cs := by
  cases style with
  | lowercase => exact lowerAfter_of_stays h
  | uppercase => exact upperChars_of_stays h
  | titlecase =>
    cases cs with
    | nil => rfl
    | cons c rest =>
      obtain ⟨hc, hrest⟩ := List.forall_mem_cons.1 h
      rw [fold, upperChars_of_stays (by simpa using hc.1), lowerChars,
        lowerAfter_of_stays fun d hd => (hrest d hd).2, List.singleton_append]
  | none => rfl

end CaseStyle

theorem normalizeCase_of_keeps (h : ∀ c ∈ text.toList, style.Keeps c) :
    normalizeCase style text = text := by
  rw [normalizeCase, CaseStyle.fold_of_keeps h, String.ofList_toList]

theorem keeps_of_mem_normalizeCase (hs : style ≠ .titlecase)
    (h : c ∈ (normalizeCase style text).toList) : style.Keeps c := by
  rw [normalizeCase, String.toList_ofList] at h
  exact CaseStyle.keeps_of_mem_fold hs h

/-! ### Replacements -/

/-- A text is a part of another one. -/
def Occurs (part text : String) : Prop := part.toList <:+: text.toList

theorem occurs_iff_mem {part : String} (h : part.toList = [d]) : Occurs part text ↔ d ∈ text.toList := by
  rw [Occurs, h]
  refine ⟨fun hd => hd.subset (List.mem_singleton_self d), fun hd => ?_⟩
  obtain ⟨front, back, heq⟩ := List.append_of_mem hd
  exact ⟨front, back, by rw [heq, List.append_assoc, List.singleton_append]⟩

/-- A key that can be replaced is one character. -/
def Single (key : String) : Prop := key ≠ "" → key.length = 1

theorem Single.cases (h : Single old) : old = "" ∨ ∃ d, old.toList = [d] := by
  by_cases he : old = ""
  · exact .inl he
  · exact .inr (List.length_eq_one_iff.1 (String.length_toList.trans (h he)))

theorem toList_replace (h : old.toList = [d]) (new text : String) :
    (Cut.replace old new text).toList = text.toList.flatMap fun c => if c = d then new.toList else [c] := by
  have hne : ¬ old.isEmpty = true := by
    rw [String.isEmpty_iff]
    rintro rfl
    cases h
  rw [Cut.replace, if_neg hne, h, replaceAll_singleton, String.toList_ofList]

/-- After a replacement there are characters that were there and are not replaced, and those put in. -/
theorem mem_replace (hk : Single old) (h : c ∈ (Cut.replace old new text).toList) :
    (c ∈ text.toList ∧ old.toList ≠ [c]) ∨ c ∈ new.toList := by
  rcases hk.cases with rfl | ⟨d, hd⟩
  · exact .inl ⟨h, nofun⟩
  · rw [toList_replace hd] at h
    obtain ⟨x, hx, hc⟩ := List.mem_flatMap.1 h
    by_cases hxd : x = d
    · rw [if_pos hxd] at hc
      exact .inr hc
    · rw [if_neg hxd, List.mem_singleton] at hc
      subst hc
      exact .inl ⟨hx, fun he => hxd (by simpa using he.symm.trans hd)⟩

theorem replace_of_not_occurs (hk : Single old) (h : old ≠ "" → ¬ Occurs old text) :
    Cut.replace old new text = text := by
  rcases hk.cases with rfl | ⟨d, hd⟩
  · rfl
  · have hne : old ≠ "" := by
      rintro rfl
      cases hd
    have hmem : d ∉ text.toList := mt (occurs_iff_mem hd).2 (h hne)
    apply String.toList_inj.1
    have hkeep (c : Char) (hc : c ∈ text.toList) : (if c = d then new.toList else [c]) = [c] :=
      if_neg fun he : c = d => hmem (he ▸ hc)
    rw [toList_replace hd, List.flatMap_congr hkeep, List.flatMap_singleton']

/-- A character of a text after replacements was there before and is no key, or stands in a value. -/
theorem mem_foldl_replace (hk : ∀ entry ∈ entries, Single entry.1)
    (h : c ∈ (entries.foldl (fun text (old, new) => Cut.replace old new text) text).toList) :
    (c ∈ text.toList ∧ ∀ entry ∈ entries, entry.1.toList ≠ [c]) ∨
      ∃ entry ∈ entries, c ∈ entry.2.toList := by
  induction entries generalizing text with
  | nil => exact .inl ⟨h, nofun⟩
  | cons entry rest ih =>
    obtain ⟨hentry, hrest⟩ := List.forall_mem_cons.1 hk
    rcases ih hrest h with ⟨hc, hkeys⟩ | ⟨later, hlater, hc⟩
    · rcases mem_replace hentry hc with ⟨hc, hkey⟩ | hc
      · exact .inl ⟨hc, List.forall_mem_cons.2 ⟨hkey, hkeys⟩⟩
      · exact .inr ⟨entry, List.mem_cons_self, hc⟩
    · exact .inr ⟨later, List.mem_cons_of_mem entry hlater, hc⟩

theorem foldl_replace_of_not_occurs (hk : ∀ entry ∈ entries, Single entry.1)
    (h : ∀ entry ∈ entries, entry.1 ≠ "" → ¬ Occurs entry.1 text) :
    entries.foldl (fun text (old, new) => Cut.replace old new text) text = text := by
  induction entries with
  | nil => rfl
  | cons entry rest ih =>
    obtain ⟨old, new⟩ := entry
    obtain ⟨hentry, hrest⟩ := List.forall_mem_cons.1 hk
    obtain ⟨hno, hnone⟩ := List.forall_mem_cons.1 h
    simp only [List.foldl_cons, replace_of_not_occurs hentry hno]
    exact ih hrest hnone

/-! ### Normal forms -/

/-- Replacements of single characters whose values the style leaves as they are and none of whose keys occurs in
a value; an empty key is no key. -/
structure Settling (style : CaseStyle) (replacements : Table String String) : Prop where
  single : ∀ key ∈ replacements.keys, Single key
  absent : ∀ key ∈ replacements.keys, key ≠ "" → ∀ value ∈ replacements.values, ¬ Occurs key value
  kept : ∀ value ∈ replacements.values, normalizeCase style value = value

namespace Settling

variable (h : Settling style replacements)
include h

theorem single_entry (hentry : entry ∈ replacements.entries) : Single entry.1 :=
  h.single _ (List.mem_map_of_mem hentry)

/-- After the replacements no key is left, and the style keeps the text if it did before. -/
theorem mem_replaceParts (hc : c ∈ (replaceParts replacements text).toList) :
    (∀ key ∈ replacements.keys, key.toList ≠ [c]) ∧
      (style ≠ .titlecase → (∀ c ∈ text.toList, style.Keeps c) → style.Keeps c) := by
  rcases mem_foldl_replace (fun _ => h.single_entry) hc with ⟨hc, hkeys⟩ | ⟨entry, hentry, hc⟩
  · exact ⟨List.forall_mem_map.2 hkeys, fun _ hkeep => hkeep c hc⟩
  · have hvalue : entry.2 ∈ replacements.values := List.mem_map_of_mem hentry
    refine ⟨fun key hkey he => ?_, fun hs _ => ?_⟩
    · have hne : key ≠ "" := by
        rintro rfl
        cases he
      exact h.absent key hkey hne entry.2 hvalue ((occurs_iff_mem he).2 hc)
    · rw [← h.kept entry.2 hvalue] at hc
      exact keeps_of_mem_normalizeCase hs hc

theorem not_occurs {key : String} (hkey : key ∈ replacements.keys) (hne : key ≠ "") :
    ¬ Occurs key (replaceParts replacements text) := by
  rcases (h.single key hkey).cases with he | ⟨d, hd⟩
  · exact absurd he hne
  · rw [occurs_iff_mem hd]
    exact fun hmem => (h.mem_replaceParts hmem).1 key hkey hd

theorem replaceParts_of_not_occurs
    (hnone : ∀ key ∈ replacements.keys, key ≠ "" → ¬ Occurs key text) :
    replaceParts replacements text = text :=
  foldl_replace_of_not_occurs (fun _ => h.single_entry) fun _ hentry => hnone _ (List.mem_map_of_mem hentry)

end Settling

/-- Where a style brings all characters of a name to one case, or none, and the replacements settle with it, a
normalized name holds no key and is its own normal form. -/
theorem normalize_settles (hs : style ≠ .titlecase) (h : Settling style replacements) (name : String) :
    normalize style replacements (normalize style replacements name) =
        normalize style replacements name ∧
      ∀ key ∈ replacements.keys, key ≠ "" → ¬ Occurs key (normalize style replacements name) := by
  have hnone : ∀ key ∈ replacements.keys, key ≠ "" → ¬ Occurs key (normalize style replacements name) :=
    fun key => h.not_occurs
  have hcase : normalizeCase style (normalize style replacements name) = normalize style replacements name :=
    normalizeCase_of_keeps fun c hc => (h.mem_replaceParts hc).2 hs fun _ => keeps_of_mem_normalizeCase hs
  refine ⟨?_, hnone⟩
  rw [normalize, hcase, h.replaceParts_of_not_occurs hnone]

instance (part text : String) : Decidable (Occurs part text) :=
  inferInstanceAs (Decidable (part.toList <:+: text.toList))

instance (key : String) : Decidable (Single key) :=
  inferInstanceAs (Decidable (key ≠ "" → key.length = 1))

/-- Dots and at signs, which mean something in the name of a page, give way to others. -/
def mailParts : Table String String := .ofList [(".", "="), ("@", "_"), ("", "at")]

theorem mailName_settled : CaseStyle.lowercase ≠ .titlecase ∧ Settling .lowercase mailParts ∧
    normalize .lowercase mailParts "ΟΔΟΣ.İ@Example.com" = "οδοσ=i̇_example=com" ∧
    normalize .lowercase mailParts "οδοσ=i̇_example=com" = "οδοσ=i̇_example=com" := by
  have hs : Settling .lowercase mailParts := ⟨by decide, by decide, by decide⟩
  have hname : normalize .lowercase mailParts "ΟΔΟΣ.İ@Example.com" = "οδοσ=i̇_example=com" := by
    decide +kernel
  obtain ⟨hsettled, -⟩ := normalize_settles (by decide) hs "ΟΔΟΣ.İ@Example.com"
  rw [hname] at hsettled
  exact ⟨by decide, hs, hname, hsettled⟩

/-! ### Titles -/

theorem normalizeCase_titlecase (h : text.toList = c :: cs) :
    (normalizeCase .titlecase text).toList = upperChar c ++ lowerChars cs := by
  rw [normalizeCase, h, String.toList_ofList, CaseStyle.fold, upperChars, List.flatMap_singleton]

/-- A title is its first character and what follows, which may be in upper case as well. -/
theorem normalizeCase_title (hc : StaysUpper c) (h : text.toList = c :: cs) :
    normalizeCase .titlecase text = String.ofList (c :: lowerChars cs) := by
  apply String.toList_inj.1
  rw [normalizeCase_titlecase h, hc, String.toList_ofList, List.singleton_append]

theorem title_eq_self_iff (hc : StaysUpper c) (h : text.toList = c :: cs) :
    normalizeCase .titlecase text = text ↔ ∀ d ∈ cs, StaysLower d := by
  rw [normalizeCase_title hc h, ← String.toList_inj, String.toList_ofList, h, List.cons.injEq,
    and_iff_right rfl, lowerChars_eq_self_iff]

/-- The title of a name is in title case itself exactly where the upper case of the first character of the name
goes on with characters that stay in lower case, or does not go on. Where it is not, its own title is. -/
theorem title_settles (name : String) :
    (normalizeCase .titlecase (normalizeCase .titlecase name) = normalizeCase .titlecase name ↔
      ∀ c ∈ name.toList.head?, ∀ d ∈ (upperChar c).tail, StaysLower d) ∧
    normalizeCase .titlecase (normalizeCase .titlecase (normalizeCase .titlecase name)) =
      normalizeCase .titlecase (normalizeCase .titlecase name) := by
  cases h : name.toList with
  | nil =>
    obtain rfl : name = "" := String.toList_inj.1 h
    exact ⟨iff_of_true rfl nofun, rfl⟩
  | cons c rest =>
    obtain ⟨first, tail, hupper⟩ := List.exists_cons_of_ne_nil (upperChar_ne_nil c)
    have hfirst : StaysUpper first := staysUpper_of_mem (hupper ▸ List.mem_cons_self)
    have hrest (d : Char) (hd : d ∈ lowerChars rest) : StaysLower d := staysLower_of_mem_lowerAfter hd
    have htitle : (normalizeCase .titlecase name).toList = first :: (tail ++ lowerChars rest) := by
      rw [normalizeCase_titlecase h, hupper, List.cons_append]
    have hagain := normalizeCase_title hfirst htitle
    constructor
    · rw [title_eq_self_iff hfirst htitle, List.forall_mem_append, and_iff_left hrest]
      simp [hupper]
    · rw [title_eq_self_iff hfirst (by rw [hagain, String.toList_ofList])]
      exact fun d => staysLower_of_mem_lowerAfter

/-- The upper case of a sharp s is two letters, and only the first of them is one of a title. -/
theorem sharp_unsettled : normalizeCase .titlecase "ß" = "SS" ∧
    normalizeCase .titlecase (normalizeCase .titlecase "ß") = "Ss" := by
  decide +kernel

end IdentityBridge.UserName
