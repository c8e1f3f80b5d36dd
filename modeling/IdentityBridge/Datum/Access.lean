import IdentityBridge.Datum
import IdentityBridge.Table

/-! Access to parts of data, by kind and by name. A field that is null counts as missing. -/

namespace IdentityBridge.Datum

def asText? : Datum → Option String
  | text s => some s
  | _ => none

def asWhole? : Datum → Option Int
  | whole n => some n
  | _ => none

def asTruth? : Datum → Option Bool
  | truth b => some b
  | _ => none

def items : Datum → List Datum
  | list items => items
  | _ => []

def fields : Datum → List (String × Datum)
  | record fields => fields
  | _ => []

/-- The text, or the empty one for what is none. -/
def textD (d : Datum) : String := d.asText?.getD ""

def item (d : Datum) (i : Nat) : Datum := d.items[i]?.getD null

def texts (d : Datum) : List String := d.items.map textD

/-- A pair of a key and a value. -/
def entry? : Datum → Option (String × Datum)
  | list [text key, value] => some (key, value)
  | _ => none

def entries (d : Datum) : List (String × Datum) := d.items.filterMap entry?

/-- Pairs of texts as a table; of pairs with the same key the last one counts. -/
def table (d : Datum) : Table String String :=
  Table.ofList (d.entries.map fun (key, value) => (key, value.textD))

/-! ### Fields -/

def field? (d : Datum) (name : String) : Option Datum :=
  match d.fields.lookup name with
  | some null => none
  | found => found

def field (d : Datum) (name : String) : Datum := (d.field? name).getD null

def text? (d : Datum) (name : String) : Option String := (d.field name).asText?

def textAt (d : Datum) (name : String) (default : String := "") : String :=
  (d.text? name).getD default

def truthAt (d : Datum) (name : String) (default : Bool := false) : Bool :=
  (d.field name).asTruth?.getD default

def whole? (d : Datum) (name : String) : Option Int := (d.field name).asWhole?

end IdentityBridge.Datum
