import IdentityBridge.Delta
import IdentityBridge.Directory

/-! Groups. A group is a page with one object for each member, which names the member as seen from the
wiki of the group. Groups can be members of groups, and a member of a group belongs to all groups that
the group belongs to. -/

namespace IdentityBridge

namespace Page

def groupClass : String := "XWiki.XWikiGroups"

def memberProperty : String := "member"

/-- The members of a group page, as they are written on it. -/
def memberEntries (p : Page) : List String :=
  (p.objectsOf groupClass).filterMap fun o =>
    (o.fields.find? memberProperty).filter (· ≠ "")

/-- The members of a group page. An entry is completed from the wiki and the path of the page. -/
def members (p : Page) : List Reference := p.memberEntries.map (Reference.resolveOn p.reference)

/-- The name of a member on the page of a group. -/
def memberName (group member : Reference) : String := member.compact group.wiki

end Page

/-! ### Groups of groups -/

namespace Membership

/-- The groups with a member that is the given one or an already found group, and that are not found
themselves. -/
def fresh (groups : List (Reference × List Reference)) (member : Reference)
    (found : List Reference) : List Reference :=
  (groups.filter fun (group, members) =>
    group ∉ found && members.any fun m => m = member || m ∈ found).map (·.1)

theorem filter_notMem_append (groups : List (Reference × List Reference))
    (found more : List Reference) :
    groups.filter (·.1 ∉ found ++ more) =
      (groups.filter (·.1 ∉ found)).filter (·.1 ∉ more) := by
  rw [List.filter_filter]
  refine List.filter_congr fun x _ => ?_
  by_cases h₁ : x.1 ∈ found <;> by_cases h₂ : x.1 ∈ more <;> simp [h₁, h₂]

theorem missing_lt {groups : List (Reference × List Reference)} {member : Reference}
    {found : List Reference} (h : fresh groups member found ≠ []) :
    (groups.filter (·.1 ∉ found ++ fresh groups member found)).length <
      (groups.filter (·.1 ∉ found)).length := by
  obtain ⟨group, hg⟩ := List.exists_mem_of_ne_nil _ h
  obtain ⟨⟨g, members⟩, hm, rfl⟩ := List.mem_map.1 hg
  have hm' := List.mem_filter.1 hm
  simp only [Bool.and_eq_true, decide_eq_true_eq] at hm'
  rw [filter_notMem_append]
  refine List.length_filter_lt_length_iff_exists.2 ⟨(g, members), ?_, ?_⟩
  · exact List.mem_filter.2 ⟨hm'.1, by simpa using hm'.2.1⟩
  · simpa using hg

/-- Add groups until there is none left to add. -/
def closure (groups : List (Reference × List Reference)) (member : Reference)
    (found : List Reference) : List Reference :=
  if fresh groups member found = [] then found
  else closure groups member (found ++ fresh groups member found)
termination_by (groups.filter (·.1 ∉ found)).length
decreasing_by exact missing_lt ‹_›

end Membership

namespace Directory

/-- The members of a group; a page that is not there has none. -/
def membersOf (d : Directory) (group : Reference) : List Reference :=
  match d.pages.find? group with
  | some page => page.members
  | none => []

def members (d : Directory) (group : Reference) : Except DirectoryError (List Reference) := do
  d.reach .members group
  return d.membersOf group

/-- The pages with group objects, each with its members. -/
def groupTable (d : Directory) : List (Reference × List Reference) :=
  (d.pages.entries.filter fun (_, page) => page.objectsOf Page.groupClass ≠ []).map
    fun (group, page) => (group, page.members)

/-- The groups of a member, direct or through other groups. -/
def groupsOf (d : Directory) (member : Reference) : List Reference :=
  Membership.closure d.groupTable member []

def groups (d : Directory) (member : Reference) : Except DirectoryError (List Reference) := do
  if d.outages.groupQuery then throw .groupQueryFailed
  match d.reach .groups member with
  | .ok () => return d.groupsOf member
  | .error e => throw (.groupsUnknown member e.report.text)

/-! ### Joining and leaving -/

/-- Make a user a member of a group, which is created if that is allowed. -/
def join (d : Directory) (user group : Reference) (comment : String) (create : Bool) :
    Bool × Directory :=
  d.attempt do
    let page ← d.load group
    if page.isNew && !create then return (false, d)
    let name := Page.memberName group user
    match page.find? Page.groupClass Page.memberProperty name with
    | some _ => return (true, d)
    | none =>
      let page := page.add Page.groupClass (.ofList [(Page.memberProperty, name)])
      return (true, ← d.save page comment)

/-- Take the first entry of a user from a group. -/
def leave (d : Directory) (user group : Reference) (comment : String) : Bool × Directory :=
  d.attempt do
    let page ← d.load group
    if page.isNew then return (false, d)
    match page.find? Page.groupClass Page.memberProperty (Page.memberName group user) with
    | none => return (true, d)
    | some entry => return (true, ← d.save (page.remove entry.className entry.number) comment)

/-- Do an operation on several groups, one after another. It succeeds if it does on each. -/
def onEach (operation : Directory → Reference → Bool × Directory) (d : Directory)
    (groups : List Reference) : Bool × Directory :=
  groups.foldl (fun (success, d) group =>
    let (done, d) := operation d group
    (success && done, d)) (true, d)

/-- Join and leave groups: join those in which the user is not yet, leave those in which the user is.
Where the user is, is asked once before. -/
def synchronizeMembership (d : Directory) (user : Reference) (joins creates leaves : List Reference)
    (comment : String) : Bool × Directory :=
  match d.groups user with
  | .error _ => (false, d)
  | .ok current =>
    let (joined, d) := onEach (fun d g => d.join user g comment false) d
      (joins.filter (· ∉ current))
    let (created, d) := onEach (fun d g => d.join user g comment true) d
      (creates.filter (· ∉ current))
    let (left, d) := onEach (fun d g => d.leave user g comment) d (leaves.filter (· ∈ current))
    (joined && created && left, d)

end Directory

end IdentityBridge
