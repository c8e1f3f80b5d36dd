import IdentityBridge.Page
import IdentityBridge.Report

/-! The directory of wiki pages. Pages are loaded and saved as wholes, and every save is noted with
its comment. Outages stand for a backend that fails: while one lasts, the accesses that it affects
are errors and change nothing. -/

namespace IdentityBridge

/-- The ways to reach pages. -/
inductive Access where
  | existence
  | reading
  | saving
  | members
  | groups
deriving DecidableEq, Repr

def Access.name : Access → String
  | existence => "exists"
  | reading => "get"
  | saving => "save"
  | members => "members"
  | groups => "groups"

inductive DirectoryError where
  /-- An access to a page has failed. -/
  | unavailable (access : Access) (page : Reference)
  | profileUpdateFailed
  | groupQueryFailed
  /-- The groups of a user cannot be told, because of another error. -/
  | groupsUnknown (user : Reference) (cause : String)
deriving DecidableEq

namespace DirectoryError

def report : DirectoryError → Report
  | unavailable access page => {
      kind := .documentStore
      message := access.name ++ " [" ++ page.serialize ++ "]" }
  | profileUpdateFailed => { kind := .documentStore, message := "update" }
  | groupQueryFailed => { kind := .groupQuery, message := "query" }
  | groupsUnknown user cause => {
      kind := .groupQuery
      message := "Failed to list groups of user [" ++ user.serialize ++ "]: " ++ cause
      details := { entries := [("user", .text user.serialize)] } }

end DirectoryError

/-- The pages that an outage affects. -/
inductive Extent where
  | nowhere
  | everywhere
  | on (pages : List Reference)
deriving DecidableEq

def Extent.covers : Extent → Reference → Bool
  | nowhere, _ => false
  | everywhere, _ => true
  | on pages, page => pages.contains page

structure Outages where
  existence : Extent := .nowhere
  reading : Extent := .nowhere
  saving : Extent := .nowhere
  members : Extent := .nowhere
  groups : Extent := .nowhere
  /-- Whether the groups of a member cannot be queried at all. -/
  groupQuery : Bool := false
  /-- Whether no profile can be updated. -/
  profileUpdate : Bool := false
deriving DecidableEq

namespace Outages

def extent (o : Outages) : Access → Extent
  | .existence => o.existence
  | .reading => o.reading
  | .saving => o.saving
  | .members => o.members
  | .groups => o.groups

end Outages

/-- Every page is kept under its own reference and has been saved. -/
structure Directory where
  pages : Table Reference Page := .empty
  /-- The saved pages with their comments, oldest first. -/
  saves : List (Reference × String) := []
  outages : Outages := {}
  kept : ∀ entry ∈ pages.entries, entry.2.reference = entry.1 ∧ entry.2.isNew = false := by
    simp [Table.empty]
deriving DecidableEq

namespace Directory

/-- The directory without pages. -/
def empty : Directory := {}

/-- An access to a page, which fails during an outage. -/
def reach (d : Directory) (access : Access) (page : Reference) : Except DirectoryError Unit :=
  if (d.outages.extent access).covers page then .error (.unavailable access page) else .ok ()

def contains (d : Directory) (page : Reference) : Bool := d.pages.contains page

/-- Whether a page has been saved. -/
def exists? (d : Directory) (page : Reference) : Except DirectoryError Bool := do
  d.reach .existence page
  return d.contains page

/-- The saved page, or a new empty one. -/
def page (d : Directory) (page : Reference) : Page :=
  (d.pages.find? page).getD { reference := page }

def load (d : Directory) (page : Reference) : Except DirectoryError Page := do
  d.reach .reading page
  return d.page page

/-- The directory after a page has been saved. -/
def put (d : Directory) (page : Page) (comment : String) : Directory :=
  { d with
    pages := d.pages.insert page.reference { page with isNew := false }
    saves := d.saves ++ [(page.reference, comment)]
    kept := by
      intro entry h
      rcases Table.mem_insert.1 h with rfl | ⟨-, h⟩
      · exact ⟨rfl, rfl⟩
      · exact d.kept entry h }

def save (d : Directory) (page : Page) (comment : String) : Except DirectoryError Directory := do
  d.reach .saving page.reference
  return d.put page comment

def delete (d : Directory) (page : Reference) : Directory :=
  { d with
    pages := d.pages.erase page
    kept := fun entry h => d.kept entry (List.mem_filter.1 h).1 }

/-- What an operation changes, or the directory as it was, with the sign of failure, if the
operation meets an error. -/
def attempt (d : Directory) (operation : Except DirectoryError (Bool × Directory)) :
    Bool × Directory :=
  match operation with
  | .ok result => result
  | .error _ => (false, d)

end Directory

end IdentityBridge
