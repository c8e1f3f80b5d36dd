import IdentityBridge.Table
import IdentityBridge.Text.Blank
import IdentityBridge.Text.Cut

/-! Property files: one `key = value` a line, both sides trimmed. Blank lines, comments and lines
without equal sign are passed over, and a later line overrides an earlier one of the same key. -/

namespace IdentityBridge.Properties.File

/-- The lines of a text. A line ends at a line feed, a carriage return or both in this order. -/
def lines : List Char → List (List Char)
  | [] => [[]]
  | '\r' :: '\n' :: rest => [] :: lines rest
  | c :: rest =>
    if c = '\n' ∨ c = '\r' then [] :: lines rest else Text.extendFirst c (lines rest)

/-- A trimmed line that starts with a number sign or an exclamation mark is a comment. -/
def isComment (line : List Char) : Bool :=
  match line with
  | '#' :: _ => true
  | '!' :: _ => true
  | _ => false

/-- The key and the value of a line. -/
def entry? (line : List Char) : Option (String × String) :=
  let line := Text.trimBy Text.isBlank line
  if isComment line then none
  else (Text.cutFirst '=' line).map fun (key, value) =>
    (String.ofList (Text.trimBy Text.isBlank key), String.ofList (Text.trimBy Text.isBlank value))

/-- The properties of a file. -/
def read (text : String) : Table String String :=
  Table.ofList ((lines text.toList).filterMap entry?)

end IdentityBridge.Properties.File
