import IdentityBridge.Reference
import IdentityBridge.Table

/-! Wiki pages and the objects on them. The objects of a class lie in numbered slots. Removing an
object empties its slot and keeps the numbers of the others, so a number is never given twice. -/

namespace IdentityBridge

/-- The properties of an object. -/
abbrev Fields := Table String String

/-- An object, with its place among the objects of its class. -/
structure PageObject where
  className : String
  number : Nat
  fields : Fields := .empty
deriving DecidableEq

structure Page where
  reference : Reference
  /-- The slots of each class, in order of the first object of each. -/
  slots : Table String (List (Option Fields)) := .empty
  /-- The page has not been saved yet. -/
  isNew : Bool := true
deriving DecidableEq

namespace Page

def slotsOf (p : Page) (className : String) : List (Option Fields) :=
  (p.slots.find? className).getD []

/-- The objects in slots that are numbered from `start` on. -/
def occupied (className : String) (start : Nat) : List (Option Fields) → List PageObject
  | [] => []
  | none :: rest => occupied className (start + 1) rest
  | some fields :: rest => ⟨className, start, fields⟩ :: occupied className (start + 1) rest

/-! ### Looking up objects -/

/-- The object of a class under a number. -/
def object? (p : Page) (className : String) : Int → Option PageObject
  | .ofNat number =>
    ((p.slotsOf className)[number]?.join).map fun fields => ⟨className, number, fields⟩
  | .negSucc _ => none

/-- The objects of a class in order of their numbers. -/
def objectsOf (p : Page) (className : String) : List PageObject :=
  occupied className 0 (p.slotsOf className)

/-- All objects, class after class. -/
def objects (p : Page) : List PageObject :=
  p.slots.entries.flatMap fun (className, slots) => occupied className 0 slots

def firstOf? (p : Page) (className : String) : Option PageObject := (p.objectsOf className).head?

/-- The first object of any class that has a property. -/
def firstWith? (p : Page) (property : String) : Option PageObject :=
  p.objects.find? (·.fields.contains property)

/-- The first object of a class whose property has a value. -/
def find? (p : Page) (className property value : String) : Option PageObject :=
  (p.objectsOf className).find? fun o => o.fields.find? property = some value

/-! ### Changing objects -/

/-- Put an object with the given properties into the next slot of its class. -/
def add (p : Page) (className : String) (fields : Fields) : Page :=
  { p with slots := p.slots.insert className (p.slotsOf className ++ [some fields]) }

/-- The number that the next object of a class gets. -/
def nextNumber (p : Page) (className : String) : Nat := (p.slotsOf className).length

/-- Change the properties of an object. -/
def modify (p : Page) (className : String) (number : Nat) (f : Fields → Fields) : Page :=
  { p with slots := p.slots.modify className fun slots => slots.modify number (Option.map f) }

/-- Set a property of an object. -/
def set (p : Page) (o : PageObject) (property value : String) : Page :=
  p.modify o.className o.number (·.insert property value)

/-- Empty the slot of an object. -/
def remove (p : Page) (className : String) (number : Nat) : Page :=
  { p with slots := p.slots.modify className fun slots => slots.set number none }

end Page

end IdentityBridge
