import IdentityBridge.Reference

/-! Written references read back. Escaping keeps the separators inside the parts of a reference apart
from those between them, so that reading a written form gives the parts again. What a page says of a
member therefore names that member and no other one, and no two references are written alike. -/

namespace IdentityBridge.Reference

/-! ### Marks of written forms -/

theorem marks_cons {c : Char} (rest : List Char) (hb : c ≠ '\\') (hd : c ≠ '.') (hw : c ≠ ':') :
    marks (c :: rest) = .letter c :: marks rest := by
  rw [marks]
  · simp [hb, hd, hw]
  · rintro _ _ rfl
    exact absurd rfl hb

theorem marks_dot (rest : List Char) : marks ('.' :: rest) = .spaceEnd :: marks rest := by
  rw [marks] <;> simp

theorem marks_colon (rest : List Char) : marks (':' :: rest) = .wikiEnd :: marks rest := by
  rw [marks] <;> simp

/-- Escaped text has letters only. -/
theorem marks_escape (cs rest : List Char) :
    marks (escape cs ++ rest) = cs.map .letter ++ marks rest := by
  induction cs with
  | nil => rfl
  | cons c cs ih =>
    by_cases h : c = '\\' ∨ c = '.' ∨ c = ':'
    · simp only [escape, h, if_true, List.cons_append, List.map_cons, marks, ih]
    · rw [not_or, not_or] at h
      simp only [escape, h, or_self, if_false, List.cons_append, List.map_cons]
      rw [marks_cons _ h.1 h.2.1 h.2.2, ih]

/-- The marks of the path and the name of a page. -/
def localMarks (name : List Char) : List (List Char) → List Mark
  | [] => name.map .letter
  | space :: spaces => space.map .letter ++ .spaceEnd :: localMarks name spaces

theorem marks_path (spaces : List (List Char)) (hs : spaces ≠ []) (name : List Char) :
    marks (['.'].intercalate (spaces.map escape) ++ '.' :: escape name) = localMarks name spaces := by
  have hname : marks (escape name) = name.map .letter := by
    have h := marks_escape name []
    rwa [List.append_nil, marks, List.append_nil] at h
  induction spaces with
  | nil => exact absurd rfl hs
  | cons space rest ih =>
    cases rest with
    | nil =>
      simp only [List.map_cons, List.map_nil, List.intercalate_singleton]
      rw [marks_escape, marks_dot, hname]
      rfl
    | cons next rest =>
      have ih := ih (List.cons_ne_nil _ _)
      rw [List.map_cons, List.map_cons, List.intercalate_cons_cons, ← List.map_cons, List.append_assoc,
        List.append_assoc, marks_escape, List.singleton_append, marks_dot, ih]
      rfl

theorem marks_localChars (r : Reference) :
    marks r.localChars = localMarks r.name.toList (r.spaces.map String.toList) := by
  have h := marks_path (r.spaces.map String.toList) (by simpa using r.spaces_ne_nil) r.name.toList
  rwa [List.map_map] at h

/-! ### Parts of written forms -/

theorem segments_letters (cs : List Char) (ms : List Mark) :
    segments (cs.map .letter ++ .spaceEnd :: ms) = cs :: segments ms := by
  induction cs with
  | nil => rfl
  | cons c cs ih => simp only [List.map_cons, List.cons_append, segments, ih, Text.extendFirst]

theorem segments_localMarks (name : List Char) (spaces : List (List Char)) :
    segments (localMarks name spaces) = spaces ++ [name] := by
  induction spaces with
  | nil =>
    simp only [localMarks, List.nil_append]
    induction name with
    | nil => rfl
    | cons c cs ih => simp only [List.map_cons, segments, ih, Text.extendFirst]
  | cons space spaces ih => rw [localMarks, segments_letters, ih, List.cons_append]

theorem cutWiki_letters (cs : List Char) (ms : List Mark) :
    cutWiki (cs.map .letter ++ .wikiEnd :: ms) = some (cs, ms) := by
  induction cs with
  | nil => rfl
  | cons c cs ih => simp [cutWiki, ih]

theorem cutWiki_localMarks (name : List Char) {spaces : List (List Char)} (hs : spaces ≠ []) :
    cutWiki (localMarks name spaces) = none := by
  obtain ⟨space, rest, rfl⟩ := List.exists_cons_of_ne_nil hs
  rw [localMarks]
  induction space with
  | nil => rfl
  | cons c cs ih => simpa [cutWiki] using ih

theorem segments_localChars (r : Reference) :
    (segments (marks r.localChars)).map String.ofList = r.spaces ++ [r.name] := by
  rw [marks_localChars, segments_localMarks]
  simp [List.map_map, Function.comp_def]

theorem scan_localForm (r : Reference) : Parts.scan r.localForm = ⟨none, r.spaces, r.name⟩ := by
  have hcut : cutWiki (marks r.localChars) = none := by
    rw [marks_localChars]
    exact cutWiki_localMarks _ (by simpa using r.spaces_ne_nil)
  simp only [Parts.scan, localForm, String.toList_ofList, hcut, segments_localChars]
  simp

theorem scan_serialize (r : Reference) :
    Parts.scan r.serialize = ⟨some r.wiki, r.spaces, r.name⟩ := by
  have hcut : cutWiki (marks r.serialize.toList) = some (r.wiki.toList, marks r.localChars) := by
    rw [serialize, String.toList_ofList, marks_escape, marks_colon, cutWiki_letters]
  simp only [Parts.scan, hcut, segments_localChars, String.ofList_toList]
  simp

theorem scan_compact (r : Reference) (wiki : String) : Parts.scan (r.compact wiki) =
    ⟨if r.wiki = wiki then none else some r.wiki, r.spaces, r.name⟩ := by
  unfold compact
  split
  · exact scan_localForm r
  · exact scan_serialize r

/-! ### Round trips -/

theorem complete_localForm (r : Reference) (spaces : List String) (h : spaces ≠ []) :
    (Parts.scan r.localForm).complete r.wiki spaces h = r := by
  simp [scan_localForm, Parts.complete, r.spaces_ne_nil, Parts.wikiOr]

/-- A written form is read whatever path completes it, and whatever wiki does unless its own is empty. -/
theorem complete_serialize {r : Reference} {wiki : String} (hw : r.wiki ≠ "" ∨ wiki = "")
    (spaces : List String) (h : spaces ≠ []) :
    (Parts.scan r.serialize).complete wiki spaces h = r := by
  have hwiki : (Parts.mk (some r.wiki) r.spaces r.name).wikiOr wiki = r.wiki := by
    by_cases he : r.wiki = ""
    · simp [Parts.wikiOr, he, hw.resolve_left (fun h => h he)]
    · simp [Parts.wikiOr, he]
  rw [scan_serialize, Parts.complete, dif_neg r.spaces_ne_nil, hwiki]

theorem resolve_serialize {r : Reference} {wiki : String} (hw : r.wiki ≠ "" ∨ wiki = "")
    (space : String) : resolve r.serialize wiki space = r := complete_serialize hw [space] _

theorem resolveOn_localForm {r page : Reference} (h : r.wiki = page.wiki) :
    resolveOn page r.localForm = r := by
  rw [resolveOn]
  simp only [← h]
  exact complete_localForm r page.spaces page.spaces_ne_nil

/-- What a page says of a member names that member. -/
theorem resolveOn_compact {r : Reference} (page : Reference) (hw : r.wiki ≠ "") :
    resolveOn page (r.compact page.wiki) = r := by
  unfold compact
  split
  · next h => exact resolveOn_localForm h
  · exact complete_serialize (.inl hw) page.spaces page.spaces_ne_nil

theorem compact_ne_empty (r : Reference) (wiki : String) : r.compact wiki ≠ "" := by
  intro h
  have h := congrArg String.toList h
  unfold compact at h
  split at h <;> simp [localForm, serialize, localChars] at h

/-! ### Any path

A written form has a path of its own, so that it is read even where there is no path to complete it. -/

theorem resolve?_of_path {text : String} (h : (Parts.scan text).path ≠ []) (wiki : String)
    (path : List String) :
    resolve? text wiki path = some ((Parts.scan text).complete wiki (Parts.scan text).path h) := by
  unfold resolve?
  split
  · exact (dif_neg h).trans (congrArg some (dif_neg h).symm)
  · exact congrArg some ((dif_neg h).trans (dif_neg h).symm)

theorem resolve?_localForm (r : Reference) (path : List String) :
    resolve? r.localForm r.wiki path = some r := by
  have hp : (Parts.scan r.localForm).path ≠ [] := by
    rw [scan_localForm]
    exact r.spaces_ne_nil
  rw [resolve?_of_path hp, complete_localForm]

theorem resolve?_serialize {r : Reference} {wiki : String} (hw : r.wiki ≠ "" ∨ wiki = "")
    (path : List String) : resolve? r.serialize wiki path = some r := by
  have hp : (Parts.scan r.serialize).path ≠ [] := by
    rw [scan_serialize]
    exact r.spaces_ne_nil
  rw [resolve?_of_path hp, complete_serialize hw]

theorem resolve?_compact {r : Reference} {wiki : String} (hw : r.wiki ≠ "" ∨ r.wiki = wiki)
    (path : List String) : resolve? (r.compact wiki) wiki path = some r := by
  unfold compact
  split
  · next h =>
    subst h
    exact resolve?_localForm r path
  · next h => exact resolve?_serialize (.inl (hw.resolve_right h)) path

/-! ### Different references -/

theorem serialize_injective : Function.Injective serialize := by
  intro r r' h
  have hscan := congrArg Parts.scan h
  rw [scan_serialize, scan_serialize] at hscan
  cases r
  cases r'
  simpa using hscan

/-- As seen from one wiki, different references are written differently. -/
theorem compact_injective (wiki : String) : Function.Injective fun r : Reference => r.compact wiki := by
  intro r r' h
  have hscan := congrArg Parts.scan h
  simp only [scan_compact, Parts.mk.injEq] at hscan
  obtain ⟨hwiki, hspaces, hname⟩ := hscan
  -- the wiki is left out of both forms, where it is the same, or of neither
  have hw : r.wiki = r'.wiki := by
    split at hwiki <;> split at hwiki <;> simp_all
  cases r
  cases r'
  simp_all

theorem Parts.wikiOr_ne_empty (p : Parts) {wiki : String} (h : wiki ≠ "") : p.wikiOr wiki ≠ "" := by
  unfold wikiOr
  split
  · split <;> assumption
  · exact h

/-- What is read with a wiki to complete it has a wiki. -/
theorem wiki_of_resolve? {text wiki : String} {path : List String} {r : Reference} (h : wiki ≠ "")
    (hr : resolve? text wiki path = some r) : r.wiki ≠ "" := by
  have hw := (Parts.scan text).wikiOr_ne_empty h
  unfold resolve? Parts.complete at hr
  dsimp only at hr
  split at hr
  · split at hr
    · cases hr
    · cases hr
      exact hw
  · split at hr
    · cases hr
      exact hw
    · cases hr
      exact hw

/-- A reference is read back from each of its written forms, as far as the form or the completion gives
its wiki, and whatever path there is to complete it. So different references are written differently; and
what was once read from some text, completed from some wiki, is read back from its written form
everywhere. -/
theorem written_reads_back :
    (∀ (r : Reference) (path : List String), resolve? r.localForm r.wiki path = some r) ∧
    (∀ (r : Reference) (wiki : String) (path : List String), r.wiki ≠ "" ∨ wiki = "" →
      resolve? r.serialize wiki path = some r) ∧
    (∀ (r : Reference) (wiki : String) (path : List String), r.wiki ≠ "" ∨ r.wiki = wiki →
      resolve? (r.compact wiki) wiki path = some r) ∧
    Function.Injective serialize ∧
    (∀ wiki, Function.Injective fun r : Reference => r.compact wiki) ∧
    ∀ (text wiki : String) (path : List String) (r : Reference), wiki ≠ "" →
      resolve? text wiki path = some r →
        ∀ (wiki' : String) (path' : List String), resolve? r.serialize wiki' path' = some r :=
  ⟨resolve?_localForm, fun _ _ path hw => resolve?_serialize hw path,
    fun _ _ path hw => resolve?_compact hw path, serialize_injective, compact_injective,
    fun _ _ _ _ hw hr _ path' => resolve?_serialize (.inl (wiki_of_resolve? hw hr)) path'⟩

/-- A page whose name and spaces are made of separators, or of nothing. -/
def dotted : Reference := { wiki := "a:b", spaces := ["", ".\\"], name := ":" }

/-- It is read back from its written form where nothing could complete it, and from the compact one on
its wiki. -/
theorem dotted_reads_back : dotted.wiki ≠ "" ∧ resolve? dotted.serialize "" [] = some dotted ∧
    resolve? (dotted.compact "a:b") "a:b" [] = some dotted := by
  have hw : dotted.wiki ≠ "" := by decide
  obtain ⟨-, hserialize, hcompact, -⟩ := written_reads_back
  exact ⟨hw, hserialize dotted "" [] (.inl hw), hcompact dotted "a:b" [] (.inl hw)⟩

end IdentityBridge.Reference
