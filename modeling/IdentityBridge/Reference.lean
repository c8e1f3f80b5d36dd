import IdentityBridge.Text.Cut

/-! References to wiki pages. A reference names a wiki, a path of at least one space, and a page;
it is written `wiki:Space.Nested.Page`, locally without the wiki. A backslash before a separator or
another backslash takes its meaning away. Reading completes missing parts from given ones. -/

namespace IdentityBridge

/-- A wiki page, located by wiki, path of spaces and page name. -/
structure Reference where
  wiki : String
  spaces : List String
  name : String
  spaces_ne_nil : spaces ≠ [] := by simp
deriving DecidableEq

namespace Reference

/-- Put a backslash before every separator and every backslash. -/
def escape : List Char → List Char
  | [] => []
  | c :: rest =>
    if c = '\\' ∨ c = '.' ∨ c = ':' then '\\' :: c :: escape rest else c :: escape rest

/-- The characters of the local form, which leaves the wiki out. -/
def localChars (r : Reference) : List Char :=
  ['.'].intercalate (r.spaces.map fun space => escape space.toList) ++ '.' :: escape r.name.toList

/-- The written form without the wiki. -/
def localForm (r : Reference) : String := String.ofList r.localChars

/-- The written form with the wiki. -/
def serialize (r : Reference) : String :=
  String.ofList (escape r.wiki.toList ++ ':' :: r.localChars)

/-- The written form as seen from a wiki: without the wiki when it is that one. -/
def compact (r : Reference) (wiki : String) : String :=
  if r.wiki = wiki then r.localForm else r.serialize

/-- The space that directly holds the page. -/
def lastSpace (r : Reference) : String := r.spaces.getLast r.spaces_ne_nil

/-- The page of a name directly in a space. -/
def inSpace (wiki space name : String) : Reference := { wiki, spaces := [space], name }

/-- The page of another name in the same space. -/
def sibling (r : Reference) (name : String) : Reference := { r with name }

instance : ToString Reference := ⟨serialize⟩

/-! ### Reading -/

/-- A character of a written reference after the escapes are resolved: a letter of some part, or a
separator. -/
inductive Mark where
  | letter (c : Char)
  | wikiEnd
  | spaceEnd
deriving DecidableEq

/-- Resolve the escapes; a backslash at the end stands for nothing. -/
def marks : List Char → List Mark
  | [] => []
  | '\\' :: c :: rest => .letter c :: marks rest
  | c :: rest =>
    if c = '\\' then marks rest
    else if c = ':' then .wikiEnd :: marks rest
    else if c = '.' then .spaceEnd :: marks rest
    else .letter c :: marks rest

/-- The wiki part and what follows it. Only the first colon ends a wiki part, and only when no dot
comes before it. -/
def cutWiki : List Mark → Option (List Char × List Mark)
  | [] => none
  | .wikiEnd :: rest => some ([], rest)
  | .spaceEnd :: _ => none
  | .letter c :: rest => (cutWiki rest).map fun (wiki, rest) => (c :: wiki, rest)

/-- The parts between dots; a colon is here a letter like any other. -/
def segments : List Mark → List (List Char)
  | [] => [[]]
  | .spaceEnd :: rest => [] :: segments rest
  | .wikiEnd :: rest => Text.extendFirst ':' (segments rest)
  | .letter c :: rest => Text.extendFirst c (segments rest)

/-- What a text says of a reference: perhaps a wiki, perhaps a path, and a page name. -/
structure Parts where
  wiki : Option String
  path : List String
  name : String
deriving DecidableEq

namespace Parts

/-- Read a text. -/
def scan (text : String) : Parts :=
  let all := marks text.toList
  let (wiki, rest) := match cutWiki all with
    | some (wiki, rest) => (some (String.ofList wiki), rest)
    | none => (none, all)
  let segments := (segments rest).map String.ofList
  { wiki, path := segments.dropLast, name := segments.getLast?.getD "" }

/-- The given wiki stands in for a missing or empty one. -/
def wikiOr (p : Parts) (wiki : String) : String :=
  match p.wiki with
  | some w => if w = "" then wiki else w
  | none => wiki

/-- Fill the missing parts from a wiki and a path. -/
def complete (p : Parts) (wiki : String) (spaces : List String) (h : spaces ≠ []) : Reference :=
  if hp : p.path = [] then ⟨p.wikiOr wiki, spaces, p.name, h⟩
  else ⟨p.wikiOr wiki, p.path, p.name, hp⟩

end Parts

/-- Read a reference, completed from a wiki and a space. -/
def resolve (text wiki space : String) : Reference :=
  (Parts.scan text).complete wiki [space] (by simp)

/-- Read a reference as it is meant on a page: completed from the wiki and the path of the page. -/
def resolveOn (page : Reference) (text : String) : Reference :=
  (Parts.scan text).complete page.wiki page.spaces page.spaces_ne_nil

/-- Read a reference, completed from a wiki and a path; an empty path cannot complete a text
without one. -/
def resolve? (text wiki : String) (spaces : List String) : Option Reference :=
  let parts := Parts.scan text
  if h : spaces = [] then
    if hp : parts.path = [] then none
    else some ⟨parts.wikiOr wiki, parts.path, parts.name, hp⟩
  else some (parts.complete wiki spaces h)

/-- A reference with the given parts, if the path is not empty. -/
def ofParts? (wiki : String) (spaces : List String) (name : String) : Option Reference :=
  if h : spaces = [] then none else some ⟨wiki, spaces, name, h⟩

end Reference

end IdentityBridge
