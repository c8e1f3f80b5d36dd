/-! Sets of characters given by increasing lists of closed spans of code points, the form in
which the character tables of this folder are written. -/

namespace IdentityBridge.Text

/-- A closed span of code points, first and last. -/
abbrev Span := Nat × Nat

namespace Span

/-- Membership in an increasing list of spans; the search ends at the first span beyond the point. -/
def covers : List Span → Nat → Bool
  | [], _ => false
  | (first, last) :: rest, point =>
    if point < first then false else if point ≤ last then true else covers rest point

end Span

end IdentityBridge.Text
