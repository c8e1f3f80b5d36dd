import Mathlib
import IdentityBridge.Proofs.Membership.Flat

/-! Memberships as sets. A directory whose pages write each member once and in the usual form is, as far
as memberships go, a set of members for each group that is there. Joining adds to the set of one group and
leaving takes from it, a page is saved just if the set of its group changes, and this carries over to any
sequence of such commands. -/

namespace IdentityBridge

/-- The groups that are there, and the set of the members of each. -/
@[ext] structure Roster where
  present : Reference → Bool
  members : Reference → Finset Reference

namespace Roster

variable {r : Roster} {user group : Reference}

def add (r : Roster) (user group : Reference) : Roster where
  present := Function.update r.present group true
  members := Function.update r.members group (insert user (r.members group))

def remove (r : Roster) (user group : Reference) : Roster where
  present := r.present
  members := Function.update r.members group ((r.members group).erase user)

theorem add_of_mem (hp : r.present group = true) (hm : user ∈ r.members group) :
    r.add user group = r := by
  ext1
  · rw [add, ← hp, Function.update_eq_self]
  · rw [add, Finset.insert_eq_of_mem hm, Function.update_eq_self]

theorem remove_of_not_mem (hm : user ∉ r.members group) : r.remove user group = r := by
  rw [remove, Finset.erase_eq_of_notMem hm, Function.update_eq_self]

end Roster

/-- The groups and members of a directory. -/
def Directory.roster (d : Directory) : Roster where
  present := d.contains
  members g := (d.membersOf g).toFinset

namespace Membership

/-! ### Commands -/

/-- What can be asked of the members of a group. -/
inductive Command where
  | join (user group : Reference) (comment : String) (create : Bool)
  | leave (user group : Reference) (comment : String)

namespace Command

def user : Command → Reference
  | join user _ _ _ => user
  | leave user _ _ => user

def group : Command → Reference
  | join _ group _ _ => group
  | leave _ group _ => group

def comment : Command → String
  | join _ _ comment _ => comment
  | leave _ _ comment => comment

/-- Do it in a directory. -/
def perform : Command → Directory → Bool × Directory
  | join user group comment create, d => d.join user group comment create
  | leave user group comment, d => d.leave user group comment

/-- Do it to the sets of members: nobody joins a missing group that may not be created, and nobody leaves
a missing group. -/
def enact : Command → Roster → Bool × Roster
  | join user group _ create, r =>
    if r.present group || create then (true, r.add user group) else (false, r)
  | leave user group _, r => if r.present group then (true, r.remove user group) else (false, r)

/-- The save that is due: one of the group, if its members change. -/
def due (c : Command) (r : Roster) : List (Reference × String) :=
  if (c.enact r).2.members c.group = r.members c.group then [] else [(c.group, c.comment)]

end Command

/-- Do one command after another, and gather the answers. -/
def performAll : List Command → Directory → List Bool × Directory
  | [], d => ([], d)
  | c :: rest, d =>
    ((c.perform d).1 :: (performAll rest (c.perform d).2).1, (performAll rest (c.perform d).2).2)

def enactAll : List Command → Roster → List Bool × Roster
  | [], r => ([], r)
  | c :: rest, r =>
    ((c.enact r).1 :: (enactAll rest (c.enact r).2).1, (enactAll rest (c.enact r).2).2)

def dueAll : List Command → Roster → List (Reference × String)
  | [], _ => []
  | c :: rest, r => c.due r ++ dueAll rest (c.enact r).2

/-! ### One command -/

/-- A command has done to a directory, with this result, what it does to the sets of members. A page is
saved if the members change, and nothing is touched if they do not. -/
structure Refines (c : Command) (d : Directory) (r : Bool × Directory) : Prop where
  canonical : r.2.Canonical
  outages : r.2.outages = d.outages
  answer : r.1 = (c.enact d.roster).1
  roster : r.2.roster = (c.enact d.roster).2
  saves : r.2.saves = d.saves ++ c.due d.roster
  still : c.due d.roster = [] → r.2 = d

variable {c : Command} {d : Directory} {user group : Reference} {comment : String} {create : Bool}

/-- A command that leaves the sets as they are may leave the directory as it is. -/
theorem refines_self {answer : Bool} (hd : d.Canonical) (h : c.enact d.roster = (answer, d.roster)) :
    Refines c d (answer, d) := by
  have hdue : c.due d.roster = [] := by rw [Command.due, h, if_pos rfl]
  refine ⟨hd, rfl, ?_, ?_, ?_, fun _ => rfl⟩
  · rw [h]
  · rw [h]
  · rw [hdue, List.append_nil]

/-- A command that changes the sets must save the page of its group. -/
theorem refines_put {p : Page} {r : Roster} (hd : (d.put p comment).Canonical)
    (hp : p.reference = c.group) (hc : c.comment = comment) (h : c.enact d.roster = (true, r))
    (hr : (d.put p comment).roster = r) (hne : r.members c.group ≠ d.roster.members c.group) :
    Refines c d (true, d.put p comment) := by
  have hdue : c.due d.roster = [(c.group, comment)] := by rw [Command.due, h, if_neg hne, hc]
  refine ⟨hd, rfl, ?_, ?_, ?_, fun hn => ?_⟩
  · rw [h]
  · rw [h, hr]
  · rw [hdue, ← hp]
    rfl
  · rw [hdue] at hn
    cases hn

/-- Saving the page of a group brings it into being and gives it the members that the page lists. -/
theorem roster_put {p : Page} (hp : p.reference = group) {members : Finset Reference}
    (hm : ∀ m, m ∈ (d.put p comment).membersOf group ↔ m ∈ members) :
    (d.put p comment).roster = ⟨Function.update d.roster.present group true,
      Function.update d.roster.members group members⟩ := by
  ext1
  · funext g
    by_cases hg : g = group
    · simp [Directory.roster, Directory.contains_put, hp, hg]
    · simp [Directory.roster, Directory.contains_put, hp, hg, Ne.symm hg]
  · funext g
    by_cases hg : g = group
    · subst hg
      ext m
      simp [Directory.roster, hm]
    · simp [Directory.roster, Directory.membersOf_put, hp, hg, Ne.symm hg]

section

open Directory

/-- Whether the sets list a user is written on the page of the group. -/
theorem mem_roster (hd : d.Canonical) (hw : user.wiki ≠ "") : user ∈ d.roster.members group ↔
    Page.memberName group user ∈ (d.page group).memberEntries := by
  rw [← hd.mem_membersOf hw]
  exact List.mem_toFinset

theorem join_refines (hw : user.wiki ≠ "") (ho : d.outages = {}) (hd : d.Canonical) :
    Refines (.join user group comment create) d (d.join user group comment create) := by
  have hj := join_joins d user group comment create
  have hcan := hj.canonical hw hd
  have hin := hj.mem_of_done hw
  have hagree := (hj.changes hw).agree
  generalize d.join user group comment create = r at hj hcan hin hagree
  cases hj with
  | refused h =>
    apply refines_self hd
    simp [Command.enact, roster, (h ho).1, (h ho).2]
  | listed h =>
    apply refines_self hd
    have hp : d.roster.present group = true := contains_of_entry h
    have hm := (mem_roster hd hw).2 h
    simp only [Command.enact, hp, Bool.true_or, if_true, Roster.add_of_mem hp hm]
  | added hn hc =>
    have hg : (d.roster.present group || create) = true := by simpa [roster] using hc
    refine refines_put hcan (reference_add d group _ _) rfl (if_pos hg) ?_
      fun (he : (d.roster.add user group).members group = d.roster.members group) => ?_
    · refine roster_put (reference_add d group _ _) fun m => ?_
      rw [Finset.mem_insert]
      by_cases hm : m = user
      · subst hm
        exact iff_of_true (hin rfl) (.inl rfl)
      · rw [hagree m group hm]
        simp [roster, hm]
    · have hm : user ∈ (d.roster.add user group).members group := by simp [Roster.add]
      rw [he] at hm
      exact hn ((mem_roster hd hw).1 hm)

theorem leave_refines (hw : user.wiki ≠ "") (ho : d.outages = {}) (hd : d.Canonical) :
    Refines (.leave user group comment) d (d.leave user group comment) := by
  have hl := leave_leaves d user group comment
  have hcan := hl.canonical hw hd
  have hout := hl.mem_membersOf hw ho hd
  have hagree := (hl.changes hw).agree
  generalize d.leave user group comment = r at hl hcan hout hagree
  cases hl with
  | refused h =>
    apply refines_self hd
    simp [Command.enact, roster, h ho]
  | unlisted h hc =>
    apply refines_self hd
    have hp : d.roster.present group = true := hc
    have hm := mt (mem_roster hd hw).1 h
    simp only [Command.enact, hp, if_true, Roster.remove_of_not_mem hm]
  | removed o hf =>
    have hentry := Page.mem_memberEntries_of_find? (memberName_ne_empty group user) hf
    have hp : d.roster.present group = true := contains_of_entry hentry
    refine refines_put hcan (reference_remove d group _ _) rfl (if_pos hp) ?_
      fun (he : (d.roster.remove user group).members group = d.roster.members group) => ?_
    · have hr : d.roster.remove user group = ⟨Function.update d.roster.present group true,
          Function.update d.roster.members group ((d.roster.members group).erase user)⟩ := by
        rw [← hp, Function.update_eq_self]
        rfl
      rw [hr]
      refine roster_put (reference_remove d group _ _) fun m => ?_
      rw [Finset.mem_erase]
      by_cases hm : m = user
      · subst hm
        exact iff_of_false (fun h => ((hout group).1 h).2 rfl) fun h => h.1 rfl
      · rw [hagree m group hm]
        simp [roster, hm]
    · have hm := (mem_roster hd hw).2 hentry
      have hn : user ∉ (d.roster.remove user group).members group := by simp [Roster.remove]
      rw [he] at hn
      exact hn hm

end

theorem perform_refines (c : Command) (hw : c.user.wiki ≠ "") (ho : d.outages = {})
    (hd : d.Canonical) : Refines c d (c.perform d) := by
  cases c with
  | join user group comment create => exact join_refines hw ho hd
  | leave user group comment => exact leave_refines hw ho hd

/-! ### Sequences of commands -/

/-- Whatever sequence of commands is performed, the pages go on writing each member once and in the usual
form, the answers and the members come out as for sets, and the saves are those that are due. Each command
on the way does to the directory it meets what it does to the sets. -/
theorem performAll_refines (ho : d.outages = {}) (hd : d.Canonical) (commands : List Command)
    (hw : ∀ c ∈ commands, c.user.wiki ≠ "") :
    (performAll commands d).2.Canonical ∧
    (performAll commands d).1 = (enactAll commands d.roster).1 ∧
    (performAll commands d).2.roster = (enactAll commands d.roster).2 ∧
    (performAll commands d).2.saves = d.saves ++ dueAll commands d.roster ∧
    ∀ before c after, commands = before ++ c :: after →
      Refines c (performAll before d).2 (c.perform (performAll before d).2) := by
  induction commands generalizing d with
  | nil =>
    refine ⟨hd, rfl, rfl, (List.append_nil _).symm, fun before c after h => ?_⟩
    simp at h
  | cons first rest ih =>
    have hf := perform_refines first (hw first List.mem_cons_self) ho hd
    obtain ⟨hcan, hans, hros, hsav, hstep⟩ := ih (hf.outages.trans ho) hf.canonical
      fun c hc => hw c (List.mem_cons_of_mem _ hc)
    rw [hf.roster] at hans hros hsav
    refine ⟨hcan, ?_, hros, ?_, fun before c after h => ?_⟩
    · rw [performAll, enactAll, hans, hf.answer]
    · rw [performAll, dueAll, hsav, hf.saves, List.append_assoc]
    · cases before with
      | nil =>
        cases h
        exact hf
      | cons earlier before =>
        cases h
        exact hstep before c after rfl

/-! ### An example -/

section

open Directory

/-- An intern joins the staff and leaves the interns, twice each, and is the first of the board as soon
as there may be one. -/
def career : List Command := [
  .join carol staff "hired" false, .join carol staff "hired" false,
  .leave carol interns "left", .leave carol interns "left",
  .join carol board "elected" false, .join carol board "elected" true]

theorem company_canonical : company.Canonical :=
  (canonical_empty.put_groupPage (m := carol) (by decide) (by cbv) _).put_groupPage (m := interns)
    (by decide) (by cbv) _

theorem career_answers : (enactAll career company.roster).1 = [true, true, true, true, false, true] := by
  cbv

theorem career_due : dueAll career company.roster =
    [(staff, "hired"), (interns, "left"), (board, "elected")] := by
  cbv

/-- What the second of each pair of commands finds already done is not saved again. -/
theorem career_refines : company.outages = {} ∧ company.Canonical ∧
    (∀ c ∈ career, c.user.wiki ≠ "") ∧
    (performAll career company).1 = [true, true, true, true, false, true] ∧
    (performAll career company).2.saves =
      company.saves ++ [(staff, "hired"), (interns, "left"), (board, "elected")] := by
  have hw : ∀ c ∈ career, c.user.wiki ≠ "" := by decide
  obtain ⟨-, hans, -, hsav, -⟩ := performAll_refines rfl company_canonical career hw
  rw [career_due] at hsav
  exact ⟨rfl, company_canonical, hw, hans.trans career_answers, hsav⟩

end

end Membership

end IdentityBridge
