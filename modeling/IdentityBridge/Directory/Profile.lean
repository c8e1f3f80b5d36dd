import IdentityBridge.Directory

/-! User profiles. A profile is a page with an object that holds the facts about a user, under names
from a list of known ones. -/

namespace IdentityBridge

namespace Profile

def userClass : String := "XWiki.XWikiUsers"

def activeProperty : String := "active"

/-- The facts that profiles hold unless other ones are chosen. -/
def knownFacts : List String := [
  "first_name", "last_name", "email", "company", "phone", "address", "blog", "blogfeed", "comment",
  "imaccount", "imtype", activeProperty, "avatar"]

def creationComment : String := "Trusted authenticator user creation"

/-- A new user is active unless told otherwise. -/
def withActive (facts : Fields) : Fields :=
  if facts.contains activeProperty then facts else facts.insert activeProperty "1"

/-- The facts under known names. -/
def restrict (known : List String) (facts : Fields) : Fields := facts.filter (·.1 ∈ known)

/-- The facts that an object does not hold yet. -/
def changes (current facts : Fields) : Fields :=
  facts.filter fun (name, value) => current.find? name ≠ some value

/-- What the profile on a page holds. -/
def current (page : Page) : Fields := ((page.firstOf? userClass).map (·.fields)).getD .empty

/-- Write facts to the profile on a page, which is added if it is missing. -/
def write (page : Page) (facts : Fields) : Page :=
  match page.firstOf? userClass with
  | some profile => page.modify userClass profile.number (·.insertAll facts.entries)
  | none => page.add userClass (.ofList facts.entries)

end Profile

namespace Directory

open Profile

/-- Create a profile where there is no page yet. -/
def createProfile (d : Directory) (known : List String) (user : Reference) (facts : Fields) :
    Bool × Directory :=
  d.attempt do
    let page ← d.load user
    if !page.isNew then return (false, d)
    let page := page.add userClass (restrict known (withActive facts))
    return (true, ← d.save page creationComment)

/-- Write the known facts that differ to an existing page, if there are any. -/
def updateProfile (d : Directory) (known : List String) (user : Reference) (facts : Fields)
    (comment : String) : Bool × Directory :=
  d.attempt do
    let page ← d.load user
    if page.isNew then return (false, d)
    let changed := changes (current page) (restrict known facts)
    if changed.isEmpty then return (true, d)
    return (true, ← d.save (write page changed) comment)

end Directory

end IdentityBridge
