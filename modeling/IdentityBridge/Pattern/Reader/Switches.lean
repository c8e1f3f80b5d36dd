import IdentityBridge.Pattern.Reader.State

/-! Reading of switches, letters that set flags for the whole pattern or set and clear them for a part. -/

namespace IdentityBridge.Pattern.Reader

/-- The effect of switching a flag on or off; flags that count for whole patterns only cannot be
switched for a part. -/
def switch (on whole : Bool) (flags : Flags) : Char → Option Flags
  | 'i' => some { flags with caseless := on }
  | 'm' => some { flags with multiline := on }
  | 's' => some { flags with dotAll := on }
  | 'x' => some { flags with verbose := on }
  | 'a' => if on then some { flags with repertoire := .ascii } else none
  | 'u' => if on then some { flags with repertoire := .unicode } else none
  | 't' => if on && whole then some { flags with loopless := on } else none
  | _ => none

/-- The letters of flags that come next. -/
def flagLetters : Read (List Char) := do
  takeUpTo (fun c => ['i', 'm', 's', 'x', 'a', 'u', 't'].contains c) (← get).rest.length

def switchAll (on whole : Bool) (flags : Flags) (letters : List Char) : Read Flags :=
  letters.foldlM (fun flags c => match switch on whole flags c with
    | some flags => pure flags
    | none => refuse) flags

/-- The flags after a question mark: for the whole pattern, with the letters that switch them, or for
the group that follows. -/
inductive Switches where
  | whole (flags : Flags) (letters : List Char)
  | part (flags : Flags)

def switches : Read Switches := do
  let flags := (← get).flags
  let on ← flagLetters
  if on.contains 'a' && on.contains 'u' then refuse
  match ← next with
  | .plain ')' => if on = [] then refuse else return .whole (← switchAll true true flags on) on
  | .plain ':' => if on = [] then refuse else return .part (← switchAll true false flags on)
  | .plain '-' =>
    let off ← flagLetters
    if off = [] || on.any off.contains then refuse
    expect ':'
    return .part (← switchAll false false (← switchAll true false flags on) off)
  | _ => refuse

end IdentityBridge.Pattern.Reader
