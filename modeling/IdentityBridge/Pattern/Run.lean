import IdentityBridge.Pattern.Node

/-! Matching by backtracking. A node is tried at a place with a continuation that says whether the
rest can match from where the node ends; the first way that the continuation accepts wins. -/

namespace IdentityBridge.Pattern

/-- A place in a text: the characters before it, nearest first, and those after it. -/
structure Place where
  before : List Char
  after : List Char
deriving DecidableEq, Repr

namespace Place

def start (text : List Char) : Place := ⟨[], text⟩

/-- Step over the next character. -/
def advance? (p : Place) : Option (Char × Place) :=
  match p.after with
  | [] => none
  | c :: rest => some (c, ⟨c :: p.before, rest⟩)

/-- Step back over so many characters. -/
def back? : Nat → Place → Option Place
  | 0, p => some p
  | n + 1, p =>
    match p.before with
    | [] => none
    | c :: rest => back? n ⟨rest, c :: p.after⟩

/-- The text from a place up to a later one. -/
def textUpTo (p later : Place) : List Char := p.after.take (p.after.length - later.after.length)

end Place

/-- How far a match has come: its place, and the texts of the groups matched so far, latest first. -/
structure Progress where
  place : Place
  groups : List (Nat × List Char) := []
deriving DecidableEq, Repr

namespace Progress

def groupText? (p : Progress) (index : Nat) : Option (List Char) := p.groups.lookup index

end Progress

/-- Whether an anchor holds at a place. -/
def Anchor.holds (p : Place) : Anchor → Bool
  | textStart => p.before.isEmpty
  | lineStart => p.before.isEmpty || p.before.head? = some '\n'
  | textEnd => p.after.isEmpty
  | lastLineEnd => p.after.isEmpty || p.after = ['\n']
  | lineEnd => p.after.isEmpty || p.after.head? = some '\n'
  | wordEdge inside repertoire =>
    let isWord (c : Option Char) : Bool := c.any (CharClass.word.holds repertoire)
    if p.before.isEmpty && p.after.isEmpty then false
    else (isWord p.before.head? != isWord p.after.head?) != inside

/-- Step over the given text, compared by a relation of characters. -/
def skipText (same : Char → Char → Bool) : List Char → Place → Option Place
  | [], p => some p
  | c :: rest, p =>
    match p.advance? with
    | none => none
    | some (d, p) => if same c d then skipText same rest p else none

/-- When two characters count as the same in a reference to a group. -/
def sameIn : Option Repertoire → Char → Char → Bool
  | none, c, d => c = d
  | some .ascii, c, d => c.toLower = d.toLower
  | some .unicode, c, d => lowerOne c = lowerOne d

abbrev Continuation := Progress → Option Progress

/-- The first of two ways that succeeds. -/
def orElse (first : Option Progress) (second : Unit → Option Progress) : Option Progress :=
  match first with
  | some r => some r
  | none => second ()

/-- Whether a loop may run once more after `count` times. -/
def mayRepeat (most : Option Nat) (count : Nat) : Bool := most.all (count < ·)

/-- Run a loop as often as possible first. From the least number on, it does not run again from the
place where its last run began. -/
def runGreedy (body : Continuation → Continuation) (least : Nat) (most : Option Nat)
    (k : Continuation) : Nat → Nat → Option Nat → Continuation
  | 0, _, _, _ => none
  | fuel + 1, count, last, p =>
    if count < least then body (runGreedy body least most k fuel (count + 1) last) p
    else
      let here := p.place.after.length
      if mayRepeat most count && last ≠ some here then
        orElse (body (runGreedy body least most k fuel (count + 1) (some here)) p) fun _ => k p
      else k p

/-- Run a loop as seldom as possible first. -/
def runLazy (body : Continuation → Continuation) (least : Nat) (most : Option Nat)
    (k : Continuation) : Nat → Nat → Option Nat → Continuation
  | 0, _, _, _ => none
  | fuel + 1, count, last, p =>
    if count < least then body (runLazy body least most k fuel (count + 1) last) p
    else
      let here := p.place.after.length
      orElse (k p) fun _ =>
        if mayRepeat most count && last ≠ some here then
          body (runLazy body least most k fuel (count + 1) (some here)) p
        else none

/-- Run a loop as often as possible, each time in the first way that matches. -/
def runPossessive (body : Continuation → Continuation) (least : Nat) (most : Option Nat) :
    Nat → Nat → Option Nat → Continuation
  | 0, _, _, _ => none
  | fuel + 1, count, last, p =>
    if count < least then
      match body some p with
      | some p => runPossessive body least most fuel (count + 1) last p
      | none => none
    else
      let here := p.place.after.length
      if mayRepeat most count && last ≠ some here then
        match body some p with
        | some p => runPossessive body least most fuel (count + 1) (some here) p
        | none => some p
      else some p

/-- Enough fuel for a loop: after the least number of runs, every run but one takes a character. -/
def loopFuel (least : Nat) (p : Progress) : Nat := least + p.place.after.length + 2

namespace Node

/-- Match a node from a place on, then whatever the continuation stands for. -/
def run : Node → Continuation → Continuation
  | empty, k, p => k p
  | char set, k, p =>
    match p.place.advance? with
    | none => none
    | some (c, place) => if set.holds c then k { p with place } else none
  | seq a b, k, p => a.run (b.run k) p
  | alt a b, k, p => orElse (a.run k p) fun _ => b.run k p
  | loop .greedy least most body, k, p =>
    runGreedy body.run least most k (loopFuel least p) 0 none p
  | loop .lazy least most body, k, p =>
    runLazy body.run least most k (loopFuel least p) 0 none p
  | loop .possessive least most body, k, p =>
    match runPossessive body.run least most (loopFuel least p) 0 none p with
    | some p => k p
    | none => none
  | group index body, k, p =>
    body.run (fun q => k { q with groups := (index, p.place.textUpTo q.place) :: q.groups }) p
  | backref index caseless, k, p =>
    match p.groupText? index with
    | none => none
    | some text =>
      match skipText (sameIn caseless) text p.place with
      | none => none
      | some place => k { p with place }
  | anchor a, k, p => if a.holds p.place then k p else none
  | ahead negated body, k, p =>
    match body.run some p with
    | some q => if negated then none else k { q with place := p.place }
    | none => if negated then k p else none
  | behind negated width body, k, p =>
    match (p.place.back? width).bind fun place => body.run some { p with place } with
    | some q => if negated then none else k { q with place := p.place }
    | none => if negated then k p else none
  | atomic body, k, p =>
    match body.run some p with
    | some q => k q
    | none => none
  | ifGroup index yes no, k, p =>
    if (p.groupText? index).isSome then yes.run k p else no.run k p

end Node

end IdentityBridge.Pattern
