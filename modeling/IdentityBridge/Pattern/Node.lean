import IdentityBridge.Pattern.CharSet

/-! The structure of patterns: sets of characters, sequences, alternatives, loops, groups,
references to groups and assertions about the place of a match. -/

namespace IdentityBridge.Pattern

/-- Places in a text. -/
inductive Anchor where
  | textStart
  /-- The start of the text or of a line in it. -/
  | lineStart
  | textEnd
  /-- The end of the text, or before a line feed that ends it. -/
  | lastLineEnd
  /-- The end of the text or of a line in it. -/
  | lineEnd
  /-- Between a word character and none, or nowhere near one if `inside`. -/
  | wordEdge (inside : Bool) (repertoire : Repertoire)
deriving DecidableEq, Repr

/-- How often a loop prefers to run, and whether it reconsiders. -/
inductive Greed where
  /-- As often as possible, reconsidering downwards. -/
  | greedy
  /-- As seldom as possible, reconsidering upwards. -/
  | lazy
  /-- As often as possible, for good. -/
  | possessive
deriving DecidableEq, Repr

inductive Node where
  | empty
  | char (set : CharSet)
  | seq (first second : Node)
  | alt (first second : Node)
  /-- Repeat from `least` to `most` times, without bound if that is missing. -/
  | loop (greed : Greed) (least : Nat) (most : Option Nat) (body : Node)
  | group (index : Nat) (body : Node)
  /-- The text of a group again, regardless of case in a repertoire if one is given. -/
  | backref (index : Nat) (caseless : Option Repertoire)
  | anchor (a : Anchor)
  /-- What follows matches, or does not if `negated`. -/
  | ahead (negated : Bool) (body : Node)
  /-- What precedes, so many characters of it, matches, or does not if `negated`. -/
  | behind (negated : Bool) (width : Nat) (body : Node)
  /-- The first way to match counts. -/
  | atomic (body : Node)
  /-- One node if a group has matched, another if not. -/
  | ifGroup (index : Nat) (yes no : Node)
deriving DecidableEq, Repr

/-- The least and the greatest number of characters of a match; unbounded if the second is missing. -/
structure Width where
  least : Nat
  most : Option Nat
deriving DecidableEq, Repr

namespace Width

def zero : Width := ⟨0, some 0⟩

def add (a b : Width) : Width :=
  ⟨a.least + b.least, do return (← a.most) + (← b.most)⟩

def max? (a b : Option Nat) : Option Nat := do return max (← a) (← b)

def either (a b : Width) : Width := ⟨min a.least b.least, max? a.most b.most⟩

def repeated (w : Width) (least : Nat) (most : Option Nat) : Width where
  least := w.least * least
  most :=
    match w.most, most with
    | some 0, _ => some 0
    | some n, some m => some (n * m)
    | none, some 0 => some 0
    | _, _ => none

/-- The greatest number of characters that is looked back over. -/
def limit : Nat := 0xFFFFFFFF

/-- The number of characters of every match, if it is the same for all and within the limit. -/
def fixed? (w : Width) : Option Nat := w.most.filter fun n => n = w.least && n ≤ limit

end Width

/-- The width of a node, given the widths of the groups it may refer to. -/
def Node.width (groups : Nat → Width) : Node → Width
  | empty => .zero
  | char _ => ⟨1, some 1⟩
  | seq a b => (a.width groups).add (b.width groups)
  | alt a b => (a.width groups).either (b.width groups)
  | loop _ least most body => (body.width groups).repeated least most
  | group _ body => body.width groups
  | backref index _ => groups index
  | anchor _ => .zero
  | ahead _ _ => .zero
  | behind _ _ _ => .zero
  | atomic body => body.width groups
  | ifGroup _ yes no => (yes.width groups).either (no.width groups)

end IdentityBridge.Pattern
