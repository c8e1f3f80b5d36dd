import Mathlib.Data.List.Basic
import IdentityBridge.Proofs.Outcome
import IdentityBridge.Provenance.Format

/-! Which texts are formats, and how formats are written. A text is a format just if every opening brace
that no backslash makes literal begins a placeholder. What is read has no empty literal and no two
literals side by side; and every format of this shape, written, is read as it was, so that any text can
be had as an entry. -/

namespace IdentityBridge.Provenance

theorem Placeholder.ofName?_eq_some {name : String} {p : Placeholder} :
    ofName? name = some p ↔ p.name = name := by
  constructor
  · intro h
    simpa using List.find?_some h
  · rintro rfl
    exact ofName?_name p

namespace Format

/-! ### The grammar -/

/-- Every opening brace that no backslash makes literal begins a placeholder. A backslash takes the next
character to itself, if there is one. -/
def WellFormed : List Char → Prop
  | [] => True
  | '\\' :: _ :: rest => WellFormed rest
  | c :: rest => (c = '\x7b' → ∃ p, Token.print (.slot p) <+: c :: rest) ∧ WellFormed rest

/-- No literal is empty, and no two stand side by side. -/
def Proper : Format → Prop
  | [] => True
  | .slot _ :: rest => Proper rest
  | .literal text :: rest => text ≠ "" ∧ (∀ next, rest.head? ≠ some (.literal next)) ∧ Proper rest

/-! ### Reading characters -/

theorem atoms_opening (rest : List Char) : atoms none ('\x7b' :: rest) = atoms (some []) rest := by
  cases rest <;> rfl

theorem atoms_escaped (c : Char) (rest : List Char) :
    atoms none ('\\' :: c :: rest) = (atoms none rest).map (.letter c :: ·) := rfl

theorem atoms_cons {c : Char} (hb : c ≠ '\\') (ho : c ≠ '\x7b') (rest : List Char) :
    atoms none (c :: rest) = (atoms none rest).map (.letter c :: ·) := by
  cases rest with
  | nil => simp [atoms, ho, hb]
  | cons _ _ => rw [atoms, if_neg ho, if_neg hb]

/-- Escaped text is read as letters. -/
theorem atoms_escape (cs rest : List Char) :
    atoms none (escape cs ++ rest) = (atoms none rest).map (cs.map .letter ++ ·) := by
  induction cs with
  | nil => cases h : atoms none rest <;> simp [escape, h, Except.map]
  | cons c cs ih =>
    have hmap : (atoms none (escape cs ++ rest)).map (.letter c :: ·) =
        (atoms none rest).map ((c :: cs).map .letter ++ ·) := by
      rw [ih]
      cases atoms none rest <;> rfl
    rw [← hmap, escape]
    split
    · exact atoms_escaped c _
    · next h =>
      rw [not_or] at h
      exact atoms_cons h.1 h.2 _

/-- The name of a placeholder has nothing to escape, nor has the brace after it. -/
theorem escape_name (p : Placeholder) :
    escape (p.name.toList ++ ['\x7d']) = p.name.toList ++ ['\x7d'] := by
  cases p <;> decide

theorem closing_notMem_name (p : Placeholder) : '\x7d' ∉ p.name.toList := by cases p <;> decide

/-- Between braces every character before the closing one belongs to the name. -/
theorem atoms_inside {name : List Char} (hn : '\x7d' ∉ name) (acc rest : List Char) :
    atoms (some acc) (name ++ '\x7d' :: rest) = atoms (some (name.reverse ++ acc)) ('\x7d' :: rest) := by
  induction name generalizing acc with
  | nil => rfl
  | cons c name ih =>
    rw [List.mem_cons, not_or] at hn
    rw [List.cons_append, atoms, if_neg (Ne.symm hn.1), ih hn.2, List.reverse_cons, List.append_assoc,
      List.singleton_append]

theorem atoms_unmatched {acc rest : List Char} (hn : '\x7d' ∉ rest) :
    atoms (some acc) rest = .error .unmatchedBrace := by
  induction rest generalizing acc with
  | nil => rfl
  | cons c rest ih =>
    rw [List.mem_cons, not_or] at hn
    rw [atoms, if_neg (Ne.symm hn.1), ih hn.2]

theorem atoms_slot (p : Placeholder) (rest : List Char) :
    atoms none (Token.print (.slot p) ++ rest) = (atoms none rest).map (.slot p :: ·) := by
  have hp : Token.print (.slot p) ++ rest = '\x7b' :: (p.name.toList ++ '\x7d' :: rest) := by
    simp [Token.print]
  rw [hp, atoms_opening, atoms_inside (closing_notMem_name p), atoms, if_pos rfl]
  simp only [List.append_nil, List.reverse_reverse, String.ofList_toList, Placeholder.ofName?_name]

/-- After an opening brace there is a placeholder, or the text is no format. -/
theorem exists_slot_of_isOk {rest : List Char}
    (h : (atoms none ('\x7b' :: rest)).isOk = true) : ∃ p, Token.print (.slot p) <+: '\x7b' :: rest := by
  rw [atoms_opening] at h
  by_cases hm : '\x7d' ∈ rest
  · obtain ⟨name, more, rfl, hn⟩ := List.eq_append_cons_of_mem hm
    rw [atoms_inside hn, atoms, if_pos rfl] at h
    simp only [List.append_nil, List.reverse_reverse] at h
    cases hp : Placeholder.ofName? (String.ofList name) with
    | none =>
      rw [hp] at h
      cases h
    | some p =>
      have hname := congrArg String.toList (Placeholder.ofName?_eq_some.1 hp)
      rw [String.toList_ofList] at hname
      exact ⟨p, more, by simp [Token.print, hname]⟩
  · rw [atoms_unmatched hm] at h
    cases h

/-! ### Acceptance -/

/-- Behind its opening brace a placeholder is as good as any letters. -/
theorem isOk_atoms_slot {p : Placeholder} {rest : List Char}
    (h : Token.print (.slot p) <+: '\x7b' :: rest) :
    (atoms none ('\x7b' :: rest)).isOk = (atoms none rest).isOk := by
  obtain ⟨more, hmore⟩ := h
  have hrest : rest = escape (p.name.toList ++ ['\x7d']) ++ more := by
    rw [escape_name]
    exact (List.cons.inj hmore).2.symm
  rw [← hmore, atoms_slot, Outcome.isOk_map, hrest, atoms_escape, Outcome.isOk_map]

/-- A text can be read just if it is well formed. -/
theorem isOk_atoms_iff (cs : List Char) : (atoms none cs).isOk = true ↔ WellFormed cs := by
  fun_induction WellFormed cs with
  | case1 => exact iff_of_true rfl trivial
  | case2 c rest ih => rw [atoms_escaped, Outcome.isOk_map, ih]
  | case3 c rest hb ih =>
    rw [← ih]
    by_cases ho : c = '\x7b'
    · subst ho
      constructor
      · intro h
        have hp := exists_slot_of_isOk h
        exact ⟨fun _ => hp, by rwa [← isOk_atoms_slot hp.choose_spec]⟩
      · rintro ⟨hp, h⟩
        rwa [isOk_atoms_slot (hp rfl).choose_spec]
    · rw [and_iff_right (fun h => absurd h ho)]
      by_cases hs : c = '\\'
      · subst hs
        -- a backslash that takes nothing to itself is the last character
        cases rest with
        | nil => exact iff_of_true rfl rfl
        | cons next rest => exact absurd rfl (hb next rest rfl)
      · rw [atoms_cons hs ho, Outcome.isOk_map]

/-! ### The shape of formats -/

/-- The characters and placeholders of a token. -/
def Token.atoms : Token → List Atom
  | .literal text => text.toList.map .letter
  | .slot p => [.slot p]

theorem atoms_print (f : Format) :
    Format.atoms none (f.flatMap Token.print) = .ok (f.flatMap Token.atoms) := by
  induction f with
  | nil => rfl
  | cons t f ih =>
    rw [List.flatMap_cons, List.flatMap_cons]
    cases t with
    | literal text =>
      rw [Token.print, atoms_escape, ih]
      rfl
    | slot p =>
      rw [atoms_slot, ih]
      rfl

/-- A letter begins a literal or goes to the front of one. -/
theorem Proper.addLetter {f : Format} (h : f.Proper) (c : Char) : Proper (addLetter c f) := by
  have hne (text : String) : String.singleton c ++ text ≠ "" := by
    intro he
    simpa using congrArg String.toList he
  match f with
  | [] => exact ⟨by simp, by simp, trivial⟩
  | .slot p :: rest => exact ⟨by simp, by simp, h⟩
  | .literal text :: rest => exact ⟨hne text, h.2⟩

/-- What is read has no empty literal and no two literals side by side. -/
theorem proper_ofAtoms (as : List Atom) : Proper (ofAtoms as) := by
  induction as with
  | nil => trivial
  | cons a as ih =>
    cases a with
    | letter c => exact ih.addLetter c
    | slot p => exact ih

theorem addLetter_of_head {f : Format} (h : ∀ text, f.head? ≠ some (.literal text)) (c : Char) :
    addLetter c f = .literal (String.singleton c) :: f := by
  match f with
  | [] => rfl
  | .slot p :: rest => rfl
  | .literal text :: rest => exact absurd rfl (h text)

/-- Letters before a format that does not begin with a literal make one literal. -/
theorem ofAtoms_letters {as : List Atom} (h : ∀ text, (ofAtoms as).head? ≠ some (.literal text))
    {cs : List Char} (hcs : cs ≠ []) :
    ofAtoms (cs.map .letter ++ as) = .literal (String.ofList cs) :: ofAtoms as := by
  induction cs with
  | nil => exact absurd rfl hcs
  | cons c cs ih =>
    rw [List.map_cons, List.cons_append, ofAtoms]
    cases cs with
    | nil => exact addLetter_of_head h c
    | cons next cs =>
      rw [ih (List.cons_ne_nil _ _)]
      simp only [addLetter, String.ofList_cons]

theorem ofAtoms_atoms {f : Format} (h : f.Proper) : ofAtoms (f.flatMap Token.atoms) = f := by
  induction f with
  | nil => rfl
  | cons t f ih =>
    cases t with
    | literal text =>
      obtain ⟨hne, hnext, hf⟩ := h
      have hcs : text.toList ≠ [] := by simpa using hne
      rw [List.flatMap_cons, Token.atoms, ofAtoms_letters _ hcs, ih hf, String.ofList_toList]
      rwa [ih hf]
    | slot p => rw [List.flatMap_cons, Token.atoms, List.singleton_append, ofAtoms, ih h]

/-! ### Reading and writing -/

theorem read_eq_ok {text : String} {f : Format} :
    read text = .ok f ↔ ∃ as, atoms none text.toList = .ok as ∧ ofAtoms as = f := by
  unfold read
  cases h : atoms none text.toList with
  | ok as => simp
  | error fault => cases fault <;> simp

/-- A format that is written reads back. -/
theorem read_print {f : Format} (h : f.Proper) : read (print f) = .ok f :=
  read_eq_ok.2 ⟨_, by rw [print, String.toList_ofList, atoms_print], ofAtoms_atoms h⟩

/-- An escaped text stands for itself. -/
theorem exists_render_escape (s : String) : ∃ f, read (String.ofList (escape s.toList)) = .ok f ∧
    ∀ g role, render g role f = s := by
  by_cases hs : s = ""
  · subst hs
    exact ⟨[], rfl, fun _ _ => rfl⟩
  · have hp : Proper [.literal s] := ⟨hs, by simp, trivial⟩
    refine ⟨[.literal s], ?_, fun g role => by simp [render]⟩
    have hprint : print [.literal s] = String.ofList (escape s.toList) := by
      simp [print, Token.print]
    rw [← hprint, read_print hp]

/-- Exactly the well-formed texts are formats. What is read has no empty literal and no two side by side,
and each format of this shape is what its written form reads as. An escaped text gives entries that are
that text, for every group and role. -/
theorem read_exact :
    (∀ text, (∃ f, read text = .ok f) ↔ WellFormed text.toList) ∧
    (∀ text f, read text = .ok f → f.Proper) ∧
    (∀ f : Format, f.Proper → read (print f) = .ok f) ∧
    ∀ s, ∃ f, read (String.ofList (escape s.toList)) = .ok f ∧ ∀ g role, render g role f = s := by
  refine ⟨fun text => ?_, fun text f h => ?_, fun f h => read_print h, exists_render_escape⟩
  · rw [← isOk_atoms_iff]
    cases h : atoms none text.toList <;> simp [read_eq_ok, h, Except.isOk, Except.toBool]
  · obtain ⟨as, -, rfl⟩ := read_eq_ok.1 h
    exact proper_ofAtoms as

/-- A group in braces of its own, and the role after a backslash. -/
def braced : Format :=
  [.literal "\x7b", .slot .groupFullName, .literal "\x7d\\", .slot .role]

theorem braced_reads : braced.Proper ∧ read (print braced) = .ok braced ∧
    WellFormed (print braced).toList := by
  have hp : braced.Proper := by simp [braced, Proper]
  obtain ⟨hwell, -, hprint, -⟩ := read_exact
  have hr := hprint braced hp
  have hw := (hwell (print braced)).1 ⟨braced, hr⟩
  exact ⟨hp, hr, hw⟩

end Format

end IdentityBridge.Provenance
