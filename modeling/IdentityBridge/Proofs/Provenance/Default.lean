import IdentityBridge.Proofs.Pattern.Loop
import IdentityBridge.Proofs.Provenance.Field

/-! Fields with the default separator, format and pattern. Their entries have the local form of a group
before an equal sign. The pattern takes what stands before the first equal sign for the group, and tells
no role. -/

namespace IdentityBridge.Provenance

variable {f : Field} {group : Reference} {role text entry : String}

section

open Pattern

/-- The characters that can stand in the group of an entry. -/
def besidesEqual : CharSet := .but '='

def equalSign : CharSet := .only '='

def anyChar : CharSet := { items := [.class false .space, .class true .space] }

theorem holds_equalSign (c : Char) : equalSign.holds c ↔ c = '=' := CharSet.holds_only '=' c

theorem holds_besidesEqual (c : Char) : besidesEqual.holds c ↔ c ≠ '=' := CharSet.holds_but '=' c

theorem holds_anyChar (c : Char) : anyChar.holds c := by
  simp [CharSet.holds, anyChar, CharSet.itemHolds]

/-- What the default pattern has behind the group. -/
def behindGroup : Node := .seq (.char equalSign) (.loop .greedy 0 none (.char anyChar))

/-- Accepts the end of a text. -/
def atEnd : Continuation := fun p => if p.place.after.isEmpty then some p else none

/-- Behind the group there is an equal sign, and anything after it. -/
theorem run_behindGroup {before after : List Char} {groups : List (Nat × List Char)}
    {found : Progress} : behindGroup.run atEnd ⟨⟨before, after⟩, groups⟩ = some found ↔
      ∃ rest, after = '=' :: rest ∧ found = ⟨⟨rest.reverse ++ '=' :: before, []⟩, groups⟩ := by
  change (Node.char equalSign).run ((Node.loop .greedy 0 none (.char anyChar)).run atEnd) _ = _ ↔ _
  cases after with
  | nil => simp [run_char_nil]
  | cons c rest =>
    obtain ⟨nearer, h⟩ := stops_append (c :: before) []
      (Nat.zero_le rest.length) (fun c _ => holds_anyChar c) (by simp)
    rw [List.append_nil] at h
    rw [run_char_cons, run_loop_char, h, List.findSome?_cons]
    by_cases hc : c = '='
    · subst hc
      simp only [holds_equalSign, if_true, atEnd, List.isEmpty_nil, List.cons.injEq, true_and,
        exists_eq_left', Option.some.injEq]
      exact eq_comm
    · simp [holds_equalSign, hc]

theorem matchWhole?_default (cs : List Char) :
    Field.defaultPattern.matchWhole? (String.ofList cs) =
      (stops besidesEqual 1 [] cs).findSome? fun place =>
        behindGroup.run atEnd ⟨place, [(1, (Place.start cs).textUpTo place)]⟩ := by
  rw [matchWhole?, String.toList_ofList]
  exact run_loop_char besidesEqual 1 _ [] cs []

/-- An entry is matched where an equal sign stands in it but not at its start; the group is what stands
before the first equal sign. -/
theorem matchWhole?_eq_some {cs : List Char} {found : Progress} :
    Field.defaultPattern.matchWhole? (String.ofList cs) = some found ↔
      ∃ told rest, cs = told ++ '=' :: rest ∧ told ≠ [] ∧ '=' ∉ told ∧
        found = ⟨⟨cs.reverse, []⟩, [(1, told)]⟩ := by
  -- The group first goes as far as it can, which is up to the first equal sign; from there the rest matches.
  have hmatch {told rest : List Char} (hne : told ≠ []) (h : '=' ∉ told) :
      Field.defaultPattern.matchWhole? (String.ofList (told ++ '=' :: rest)) =
        some ⟨⟨(told ++ '=' :: rest).reverse, []⟩, [(1, told)]⟩ := by
    obtain ⟨nearer, hstops⟩ := stops_append [] ('=' :: rest)
      (Nat.one_le_iff_ne_zero.2 (mt List.length_eq_zero_iff.1 hne))
      (fun c hc => (holds_besidesEqual c).2 fun he => h (he ▸ hc)) (by simp [holds_besidesEqual])
    have hrun : behindGroup.run atEnd ⟨⟨told.reverse, '=' :: rest⟩, [(1, told)]⟩ = some _ :=
      run_behindGroup.2 ⟨rest, rfl, rfl⟩
    rw [matchWhole?_default, hstops, List.findSome?_cons]
    simp [Place.textUpTo, Place.start, hrun]
  constructor
  · intro h
    rw [matchWhole?_default] at h
    obtain ⟨place, hp, hrun⟩ := List.exists_of_findSome?_eq_some h
    obtain ⟨told, rfl, hn, ht⟩ := exists_of_mem_stops hp
    obtain ⟨rest, hafter, -⟩ := run_behindGroup.1 hrun
    have hne : told ≠ [] := List.ne_nil_of_length_pos hn
    have hequal : '=' ∉ told := fun hc => (holds_besidesEqual '=').1 (ht _ hc) rfl
    rw [hafter] at h ⊢
    rw [← matchWhole?_default, hmatch hne hequal] at h
    exact ⟨told, rest, rfl, hne, hequal, (Option.some.inj h).symm⟩
  · rintro ⟨told, rest, rfl, hne, h, rfl⟩
    exact hmatch hne h

end

/-! ### Fields with the defaults -/

/-- The separator, the pattern and the format of a field are those that fields have by default. -/
structure Field.IsDefault (f : Field) : Prop where
  separator : f.values.separator = ({} : FieldValues).separator
  valuePattern : f.values.valuePattern = ({} : FieldValues).valuePattern
  valueFormat : f.values.valueFormat = ({} : FieldValues).valueFormat

namespace Field.IsDefault

theorem format_eq (h : f.IsDefault) : f.format = defaultFormat := by
  have hread := f.read_format
  rw [h.valueFormat, read_defaultFormat] at hread
  exact (Except.ok.inj hread).symm

theorem pattern_eq (h : f.IsDefault) : f.pattern = defaultPattern := by
  have hread := f.read_pattern
  rw [h.valuePattern, read_defaultPattern] at hread
  exact (Except.ok.inj hread).symm

theorem entry_eq (h : f.IsDefault) (group : Reference) (role : String) :
    f.entry group role = group.localForm ++ "=" ++ role := by
  rw [Field.entry, h.format_eq]
  simp [Format.render, defaultFormat, String.join, Placeholder.value, String.append_assoc]

theorem mem_entries (h : f.IsDefault) : entry ∈ f.entries text ↔
    entry.toList ∈ text.toList.splitOn '|' ∧ entry ≠ "" := by
  have hcut : Text.Cut.all f.values.separator text = (text.toList.splitOn '|').map String.ofList := by
    rw [h.separator]
    exact congrArg (·.map String.ofList) (Text.cutAll_singleton '|' text.toList)
  rw [Field.entries, if_neg (by rw [h.separator]; decide), hcut]
  simp [String.ofList_eq]

/-- An entry records a group, for any role, where what it tells before its first equal sign names the
group. -/
theorem records_iff (h : f.IsDefault) : f.records group role entry ↔ ∃ told rest,
    entry = told ++ "=" ++ rest ∧ told ≠ "" ∧ '=' ∉ told.toList ∧ namesGroup group told := by
  have hall (cs told : List Char) :
      ((defaultPattern.namedText? ⟨⟨cs, []⟩, [(1, told)]⟩ "group").all (namesGroup group) &&
        (defaultPattern.namedText? ⟨⟨cs, []⟩, [(1, told)]⟩ "role").all (· = role)) =
      namesGroup group (String.ofList told) := Bool.and_true _
  rw [Field.records, h.pattern_eq]
  constructor
  · intro hr
    split at hr
    · cases hr
    · next found hm =>
      rw [← String.ofList_toList (s := entry)] at hm
      obtain ⟨told, rest, he, hne, hequal, rfl⟩ := matchWhole?_eq_some.1 hm
      rw [hall] at hr
      refine ⟨String.ofList told, String.ofList rest, ?_, ?_, ?_, hr⟩
      · rw [← String.toList_inj, he]
        simp
      · simpa using hne
      · simpa using hequal
  · rintro ⟨told, rest, rfl, hne, hequal, hg⟩
    have hm := matchWhole?_eq_some.2 ⟨told.toList, rest.toList, rfl, by simpa using hne, hequal, rfl⟩
    have he : String.ofList (told.toList ++ '=' :: rest.toList) = told ++ "=" ++ rest := by
      rw [← String.toList_inj]
      simp
    rw [he] at hm
    rw [hm]
    exact (hall _ _).trans (by simpa using hg)

end Field.IsDefault

end IdentityBridge.Provenance
