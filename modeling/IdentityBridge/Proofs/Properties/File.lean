import IdentityBridge.Properties.File
import IdentityBridge.Proofs.Properties.Group

/-! Property files that were written for a list of pairs. Each pair has a line of its own, and between these
there may be lines that say nothing; every line ends in one of three ways, which may differ from line to
line. Reading such a file gives the table of the pairs. -/

namespace IdentityBridge.Properties.File

open Text

variable {line before after rest : List Char}

/-! ### Lines -/

/-- What can end a line. -/
inductive LineEnd where
  | feed
  | feedAfterReturn
  | carriageReturn
deriving DecidableEq

def LineEnd.chars : LineEnd → List Char
  | feed => ['\n']
  | feedAfterReturn => ['\r', '\n']
  | carriageReturn => ['\r']

/-- A text without an end of a line. -/
def OneLine (text : List Char) : Prop := '\n' ∉ text ∧ '\r' ∉ text

theorem OneLine.append (hb : OneLine before) (ha : OneLine after) : OneLine (before ++ after) :=
  ⟨by simp [hb.1, ha.1], by simp [hb.2, ha.2]⟩

/-- The characters before the first end of a line belong to the first line. -/
theorem lines_append (h : OneLine line) {first : List Char} {more : List (List Char)}
    (hr : lines rest = first :: more) : lines (line ++ rest) = (line ++ first) :: more := by
  induction line with
  | nil => exact hr
  | cons c line ih =>
    obtain ⟨hf, hc⟩ := h
    rw [List.mem_cons, not_or] at hf hc
    have hother : ¬ (c = '\n' ∨ c = '\r') := not_or.2 ⟨Ne.symm hf.1, Ne.symm hc.1⟩
    rw [List.cons_append, lines.eq_3 _ _ fun _ h _ => hc.1 h.symm, if_neg hother, ih ⟨hf.2, hc.2⟩]
    rfl

/-- What the lines of a text say, in order. -/
def entries (text : List Char) : List (String × String) := (lines text).filterMap entry?

theorem entries_of_oneLine (h : OneLine line) : entries line = ( entry? line).toList := by
  have hlines : lines (line ++ []) = [line ++ []] := lines_append h rfl
  rw [List.append_nil] at hlines
  rw [entries, hlines]
  cases he : entry? line <;> simp [he]

/-- After a line feed comes a line of its own. -/
theorem entries_feed (rest : List Char) : entries ('\n' :: rest) = entries rest := by
  have hlines : lines ('\n' :: rest) = [] :: lines rest := by simp [lines]
  rw [entries, hlines]
  rfl

theorem exists_lines_end (ending : LineEnd) (rest : List Char) : ∃ more,
    lines (ending.chars ++ rest) = [] :: more ∧ more.filterMap entry? = entries rest := by
  cases ending with
  | feed => exact ⟨lines rest, by simp [lines, LineEnd.chars], rfl⟩
  | feedAfterReturn => exact ⟨lines rest, by simp [lines, LineEnd.chars], rfl⟩
  | carriageReturn =>
    cases rest with
    | nil => exact ⟨lines [], by simp [lines, LineEnd.chars], rfl⟩
    | cons c rest =>
      by_cases hc : c = '\n'
      · -- the two characters are one end, and an empty line is lost
        subst hc
        exact ⟨lines rest, by simp [lines, LineEnd.chars], (entries_feed rest).symm⟩
      · exact ⟨lines (c :: rest), by simp [lines, LineEnd.chars, hc], rfl⟩

theorem entries_append (h : OneLine line) (ending : LineEnd) (rest : List Char) :
    entries (line ++ (ending.chars ++ rest)) = ( entry? line).toList ++ entries rest := by
  obtain ⟨more, hlines, hmore⟩ := exists_lines_end ending rest
  have hall : lines (line ++ (ending.chars ++ rest)) = (line ++ []) :: more := lines_append h hlines
  rw [entries, hall, List.append_nil, ← hmore]
  cases he : entry? line <;> simp [he]

/-! ### What a line says -/

theorem isComment_iff : isComment line = true ↔ line.head? = some '#' ∨ line.head? = some '!' := by
  cases line with
  | nil => simp [isComment]
  | cons c text =>
    unfold isComment
    split <;> simp_all

theorem isComment_append (h : before ≠ []) (after : List Char) :
    isComment (before ++ after) = isComment before := by
  rw [Bool.eq_iff_iff, isComment_iff, isComment_iff]
  cases before with
  | nil => exact absurd rfl h
  | cons c text => rfl

/-- A line that is cut at its first equal sign says the two sides, unless it is a comment. -/
theorem entry?_cut (h : '=' ∉ before) (after : List Char) : entry? (before ++ '=' :: after) =
    if isComment (before.dropWhile isBlank) then none
    else some (String.ofList (trimBy isBlank before), String.ofList (trimBy isBlank after)) := by
  have hcomment (rest : List Char) : isComment (before.dropWhile isBlank ++ '=' :: rest) =
      isComment (before.dropWhile isBlank) := by
    by_cases hb : before.dropWhile isBlank = []
    · rw [hb]
      rfl
    · exact isComment_append hb _
  have hfirst : '=' ∉ before.dropWhile isBlank := fun hm => h (List.dropWhile_subset _ hm)
  simp only [ entry?, trimBy_append_cons (p := isBlank) (d := '=') (by decide), hcomment,
    cutFirst_append hfirst, trimBy_dropWhile, trimBy_dropWhile_reverse, Option.map_some]

/-- Lines that say nothing. -/
inductive Idle : List Char → Prop where
  | blank {line : List Char} (h : line.all isBlank = true) : Idle line
  | comment {margin : List Char} (hm : margin.all isBlank = true) {mark : Char}
      (h : mark = '#' ∨ mark = '!') (text : List Char) : Idle (margin ++ mark :: text)
  | plain {line : List Char} (h : '=' ∉ line) : Idle line

theorem entry?_of_not_mem (h : '=' ∉ line) : entry? line = none := by
  have hcut : cutFirst '=' (trimBy isBlank line) = none := by
    cases hc : cutFirst '=' (trimBy isBlank line) with
    | none => rfl
    | some cut =>
      have hm : '=' ∈ trimBy isBlank line := by simp [(cutFirst_eq_some hc).1]
      exact absurd (mem_of_mem_trimBy hm) h
  simp only [ entry?, hcut, Option.map_none, ite_self]

theorem Idle.entry?_eq_none (h : Idle line) : entry? line = none := by
  cases h with
  | blank hb =>
    refine entry?_of_not_mem fun hm => ?_
    exact absurd (List.all_eq_true.1 hb _ hm) (by decide)
  | plain hp => exact entry?_of_not_mem hp
  | @comment margin hm mark hmark text =>
    have hd : isBlank mark = false := by rcases hmark with rfl | rfl <;> decide
    have htrim := trimBy_append_cons hd [] text
    have hcomment : isComment (trimBy isBlank (margin ++ mark :: text)) = true := by
      rw [trimBy_append_left_of_all hm, ← List.nil_append (mark :: text), htrim, isComment_iff]
      simpa using hmark
    simp only [ entry?, hcomment, if_true]

/-- A text that can stand on one side of an equal sign: it is trimmed and has no end of a line. -/
structure Tidy (text : String) : Prop where
  trimmed : Text.trim text = text
  oneLine : OneLine text.toList

/-- A pair that can be written as a line. -/
structure Writable (pair : String × String) : Prop where
  key : Tidy pair.1
  value : Tidy pair.2
  noEqualSign : '=' ∉ pair.1.toList
  noComment : pair.1.toList.head? ≠ some '#' ∧ pair.1.toList.head? ≠ some '!'

/-- The line of a pair. -/
def pairLine (pair : String × String) : List Char := pair.1.toList ++ " = ".toList ++ pair.2.toList

theorem Tidy.trimBy_toList {text : String} (h : Tidy text) :
    trimBy isBlank text.toList = text.toList := by
  simpa [Text.trim] using congrArg String.toList h.trimmed

theorem Writable.oneLine {pair : String × String} (h : Writable pair) : OneLine (pairLine pair) :=
  (h.key.oneLine.append ⟨by decide, by decide⟩).append h.value.oneLine

/-- The line of a pair says the pair. -/
theorem Writable.entry?_pairLine {pair : String × String} (h : Writable pair) :
    entry? (pairLine pair) = some pair := by
  obtain ⟨key, value⟩ := pair
  have hline : pairLine (key, value) = (key.toList ++ [' ']) ++ '=' :: ([' '] ++ value.toList) := by
    simp [pairLine]
  have hfirst : '=' ∉ key.toList ++ [' '] := by simpa using h.noEqualSign
  have hcomment : isComment ((key.toList ++ [' ']).dropWhile isBlank) = false := by
    rw [List.dropWhile_append, dropWhile_of_trimBy h.key.trimBy_toList]
    split
    · rfl
    · next hne =>
      rw [isComment_append (by simpa using hne), Bool.eq_false_iff, ne_eq, isComment_iff, not_or]
      exact h.noComment
  have hspace : [' '].all isBlank = true := by decide
  rw [hline, entry?_cut hfirst, hcomment, trimBy_append_of_all hspace, trimBy_append_left_of_all hspace,
    h.key.trimBy_toList, h.value.trimBy_toList]
  simp

/-! ### Files -/

/-- A line of a file: the one of a pair, or one that says nothing. -/
inductive Line where
  | pair (key value : String)
  | idle (text : String)
deriving DecidableEq

namespace Line

def text : Line → List Char
  | pair key value => pairLine (key, value)
  | idle text => text.toList

def pair? : Line → Option (String × String)
  | pair key value => some (key, value)
  | idle _ => none

/-- A line that says what it is meant to say. -/
def Valid : Line → Prop
  | pair key value => Writable (key, value)
  | idle text => OneLine text.toList ∧ Idle text.toList

theorem Valid.oneLine {l : Line} (h : l.Valid) : OneLine l.text := by
  cases l with
  | pair key value => exact Writable.oneLine h
  | idle text => exact h.1

theorem Valid.entry?_text {l : Line} (h : l.Valid) : entry? l.text = l.pair? := by
  cases l with
  | pair key value => exact Writable.entry?_pairLine h
  | idle text => exact h.2.entry?_eq_none

end Line

/-- The text of a file, line by line with the end of each; after the last end there may be a further text. -/
def write (content : List (Line × LineEnd)) (last : String := "") : String :=
  String.ofList (content.flatMap (fun (l, ending) => l.text ++ ending.chars) ++ last.toList)

theorem entries_write {content : List (Line × LineEnd)} (h : ∀ l ∈ content, l.1.Valid) {last : List Char}
    (ho : OneLine last) (hi : Idle last) :
    entries (content.flatMap (fun (l, ending) => l.text ++ ending.chars) ++ last) =
      content.filterMap (·.1.pair?) := by
  induction content with
  | nil =>
    rw [List.flatMap_nil, List.nil_append, entries_of_oneLine ho, hi.entry?_eq_none]
    rfl
  | cons first content ih =>
    obtain ⟨l, ending⟩ := first
    have hl : l.Valid := h (l, ending) List.mem_cons_self
    rw [List.flatMap_cons, List.append_assoc, List.append_assoc, entries_append hl.oneLine,
      ih fun l hm => h l (List.mem_cons_of_mem _ hm), hl.entry?_text]
    cases hp : l.pair? <;> simp [hp]

/-- A file with a line `key = value` for each of some pairs, in their order, and with lines between them that
are blank, comments or without equal sign, is read as the table of the pairs: each key stands where it comes
first and has its last value. The lines end each in its own way, and a last line that says nothing need not
end. The keys and the values are trimmed texts of one line; the keys may be empty, but have no equal sign
and do not begin as a comment does. -/
theorem written_file_reads_back {content : List (Line × LineEnd)} (h : ∀ l ∈ content, l.1.Valid)
    {last : String} (hl : OneLine last.toList ∧ Idle last.toList) {pairs : List (String × String)}
    (hp : content.filterMap (·.1.pair?) = pairs) :
    read (write content last) = Table.ofList pairs ∧
      (read (write content last)).keys = (pairs.map Prod.fst).eraseDups ∧
      ∀ key, (read (write content last)).find? key =
        (pairs.reverse.find? fun pair => pair.1 = key).map Prod.snd := by
  have hread : read (write content last) = Table.ofList pairs := by
    rw [read, write, String.toList_ofList, ← hp, ← entries_write h hl.1 hl.2]
    rfl
  refine ⟨hread, ?_, fun key => ?_⟩
  · rw [hread, Table.keys_ofList]
  · rw [hread, Table.find?_ofList, Table.findIn_eq_find?]

/-! ### An example -/

/-- A value that begins with an equal sign and has a number sign, an empty key, a key that comes again with
an empty value, and lines of all kinds that say nothing. -/
def handwritten : List (Line × LineEnd) := [
  (.idle "# home = nowhere", .feed), (.pair "home" "=a # b", .carriageReturn), (.idle "", .feed),
  (.pair "" "!", .feedAfterReturn), (.idle "no sign", .carriageReturn), (.idle "\t ! x = y", .feed),
  (.pair "home" "", .feed)]

theorem handwritten_valid : ∀ l ∈ handwritten, l.1.Valid := by
  have hname : Tidy "home" := ⟨by cbv, by decide, by decide⟩
  have hmarked : Tidy "=a # b" := ⟨by cbv, by decide, by decide⟩
  have hexclaimed : Tidy "!" := ⟨by cbv, by decide, by decide⟩
  have hempty : Tidy "" := ⟨by cbv, by decide, by decide⟩
  have hone : Writable ("home", "=a # b") := ⟨hname, hmarked, by decide, by decide, by decide⟩
  have htwo : Writable ("", "!") := ⟨hempty, hexclaimed, by decide, by decide, by decide⟩
  have hthree : Writable ("home", "") := ⟨hname, hempty, by decide, by decide, by decide⟩
  have hcomment : Idle "# home = nowhere".toList :=
    @Idle.comment [] rfl '#' (.inl rfl) " home = nowhere".toList
  have hmargin : Idle "\t ! x = y".toList :=
    @Idle.comment ['\t', ' '] (by decide) '!' (.inr rfl) " x = y".toList
  simp only [handwritten, List.forall_mem_cons, Line.Valid]
  exact ⟨⟨⟨by decide, by decide⟩, hcomment⟩, hone, ⟨⟨by decide, by decide⟩, .blank (by decide)⟩, htwo,
    ⟨⟨by decide, by decide⟩, .plain (by decide)⟩, ⟨⟨by decide, by decide⟩, hmargin⟩, hthree, by simp⟩

theorem handwritten_reads_back : (∀ l ∈ handwritten, l.1.Valid) ∧
    (OneLine "end".toList ∧ Idle "end".toList) ∧
    (read (write handwritten "end")).keys = ["home", ""] ∧
    (read (write handwritten "end")).find? "home" = some "" ∧
    (read (write handwritten "end")).find? "" = some "!" := by
  have hl : OneLine "end".toList ∧ Idle "end".toList := ⟨⟨by decide, by decide⟩, .plain (by decide)⟩
  have hp : handwritten.filterMap (·.1.pair?) = [("home", "=a # b"), ("", "!"), ("home", "")] := rfl
  obtain ⟨-, hkeys, hfind⟩ := written_file_reads_back handwritten_valid hl hp
  exact ⟨handwritten_valid, hl, hkeys.trans (by decide), (hfind "home").trans (by decide),
    (hfind "").trans (by decide)⟩

end IdentityBridge.Properties.File
