import IdentityBridge.Text.CaseTable

/-! Lower and upper case of texts. Both may change the length of a text, and the lower case of a
capital sigma depends on its place: it is a final sigma at the end of a word of letters with case. -/

namespace IdentityBridge.Text

/-- Characters that are passed over when the context of a sigma is examined. -/
def isCaseIgnorable (c : Char) : Bool := Span.covers caseIgnorableSpans c.toNat

/-- Whether the first character that is not passed over has case. -/
def startsCased (cs : List Char) : Bool :=
  match cs.dropWhile isCaseIgnorable with
  | [] => false
  | c :: _ => Span.covers casedSpans c.toNat

/-- A capital sigma is final when a letter with case precedes it and none follows it; `before` is
the preceding text, nearest character first. -/
def isFinalSigma (before after : List Char) : Bool := startsCased before && !startsCased after

/-- The lower case of a character outside any context. -/
def lowerChar (c : Char) : List Char :=
  if c = 'İ' then ['i', '\u0307']
  else [((CaseRun.image? lowerRuns c.toNat).map Char.ofNat).getD c]

def upperChar (c : Char) : List Char :=
  match longUppers.lookup c.toNat with
  | some points => points.map Char.ofNat
  | none => [((CaseRun.image? upperRuns c.toNat).map Char.ofNat).getD c]

/-- The lower case of a text that follows `before`. -/
def lowerAfter (before : List Char) : List Char → List Char
  | [] => []
  | c :: after =>
    (if c = 'Σ' then (if isFinalSigma before after then ['ς'] else ['σ']) else lowerChar c) ++
      lowerAfter (c :: before) after

def lowerChars (cs : List Char) : List Char := lowerAfter [] cs

def upperChars (cs : List Char) : List Char := cs.flatMap upperChar

def lower (s : String) : String := String.ofList (lowerChars s.toList)

def upper (s : String) : String := String.ofList (upperChars s.toList)

end IdentityBridge.Text
