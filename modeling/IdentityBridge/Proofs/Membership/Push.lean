import Mathlib
import IdentityBridge.Proofs.Membership.Step

/-! Pushing memberships. Where a user is, is asked once before anything is joined or left. So a group
that the user belongs to by way of other groups is not joined, and a push that leaves those may succeed
and yet take the user out of it; every other group that is to be joined is attained. -/

namespace IdentityBridge.Directory

variable {d d' : Directory} {user group : Reference} {joins creates leaves : List Reference}
  {comment : String}

/-- The groups joined, those joined and created if missing, and those left: each is done on what the
operations before have made of the directory. -/
theorem synchronizeMembership_eq (h : d.groups user = .ok (d.groupsOf user)) :
    d.synchronizeMembership user joins creates leaves comment =
      let joined := onEach (fun d g => d.join user g comment false) d
        (joins.filter (· ∉ d.groupsOf user))
      let created := onEach (fun d g => d.join user g comment true) joined.2
        (creates.filter (· ∉ d.groupsOf user))
      let left := onEach (fun d g => d.leave user g comment) created.2
        (leaves.filter (· ∈ d.groupsOf user))
      (joined.1 && created.1 && left.1, left.2) := by
  rw [synchronizeMembership, h]

theorem changes_joins (hw : user.wiki ≠ "") (comment : String) (create : Bool)
    (groups : List Reference) (d : Directory) :
    Changes user groups d (onEach (fun d g => d.join user g comment create) d groups).2 :=
  onEach_changes (fun d g => (join_joins d user g comment create).changes hw) groups d

theorem changes_leaves (hw : user.wiki ≠ "") (comment : String) (groups : List Reference)
    (d : Directory) :
    Changes user groups d (onEach (fun d g => d.leave user g comment) d groups).2 :=
  onEach_changes (fun d g => (leave_leaves d user g comment).changes hw) groups d

theorem mono_joins (hw : user.wiki ≠ "") (create : Bool) (groups : List Reference) {m g : Reference}
    (hm : m ∈ d.membersOf g) :
    m ∈ (onEach (fun d g => d.join user g comment create) d groups).2.membersOf g :=
  onEach_rel (R := fun d d' => m ∈ d.membersOf g → m ∈ d'.membersOf g) (fun _ hm => hm)
    (fun h h' hm => h' (h hm)) (fun d g' hm => (join_joins d user g' comment create).mono hw hm)
    d groups hm

theorem anti_leaves (hw : user.wiki ≠ "") (groups : List Reference) {m g : Reference}
    (hm : m ∈ (onEach (fun d g => d.leave user g comment) d groups).2.membersOf g) :
    m ∈ d.membersOf g :=
  onEach_rel (R := fun d d' => m ∈ d'.membersOf g → m ∈ d.membersOf g) (fun _ hm => hm)
    (fun h h' hm => h (h' hm)) (fun d g' hm => (leave_leaves d user g' comment).anti hw hm)
    d groups hm

/-- Where every group is joined with success, each lists the user. -/
theorem mem_of_joins_done (hw : user.wiki ≠ "") {create : Bool} {groups : List Reference}
    {d : Directory} (h : (onEach (fun d g => d.join user g comment create) d groups).1 = true)
    {g : Reference} (hg : g ∈ groups) :
    user ∈ (onEach (fun d g => d.join user g comment create) d groups).2.membersOf g := by
  induction groups generalizing d with
  | nil => cases hg
  | cons first rest ih =>
    rw [onEach_cons] at h ⊢
    rw [Bool.and_eq_true] at h
    rcases List.mem_cons.1 hg with rfl | hg
    · exact mono_joins hw create rest ((join_joins d user g comment create).mem_of_done hw h.1)
    · exact ih h.2 hg

/-- A user has been made a member of some groups, with success on each. -/
structure Joined (user : Reference) (groups : List Reference) (d d' : Directory) : Prop extends
    Changes user groups d d' where
  kept : ∀ g, user ∈ d.membersOf g → user ∈ d'.membersOf g
  lists : ∀ g ∈ groups, user ∈ d'.membersOf g

/-- Entries of a user have been taken from some groups. -/
structure Left (user : Reference) (groups : List Reference) (d d' : Directory) : Prop extends
    Changes user groups d d' where
  known : ∀ g, user ∈ d'.membersOf g → user ∈ d.membersOf g

/-- A push with success joins, joins or creates, and then leaves. -/
theorem phases_of_done (hw : user.wiki ≠ "")
    (h : d.synchronizeMembership user joins creates leaves comment = (true, d')) :
    ∃ d₁ d₂, Joined user (joins.filter (· ∉ d.groupsOf user)) d d₁ ∧
      Joined user (creates.filter (· ∉ d.groupsOf user)) d₁ d₂ ∧
      Left user (leaves.filter (· ∈ d.groupsOf user)) d₂ d' := by
  rcases groups_cases d user with hok | ⟨⟨e, he⟩, -⟩
  · rw [synchronizeMembership_eq hok] at h
    simp only [Prod.mk.injEq, Bool.and_eq_true] at h
    obtain ⟨⟨⟨hj, hc⟩, -⟩, rfl⟩ := h
    exact ⟨_, _,
      ⟨changes_joins hw _ _ _ _, fun _ => mono_joins hw _ _, fun _ => mem_of_joins_done hw hj⟩,
      ⟨changes_joins hw _ _ _ _, fun _ => mono_joins hw _ _, fun _ => mem_of_joins_done hw hc⟩,
      ⟨changes_leaves hw _ _ _, fun _ => anti_leaves hw _⟩⟩
  · rw [synchronizeMembership, he] at h
    cases h

/-- After a push that succeeds, the groups that list the user are those that did and are not left and
those joined anew. The user belongs to each group that was to be joined, except for groups that did not
list the user but were reached by way of others: these, like all groups, the user belongs to just if a
chain of memberships still leads there from a group that lists the user. -/
theorem synchronizeMembership_attains (hw : user.wiki ≠ "")
    (hl : ∀ g ∈ leaves, g ∉ joins ∧ g ∉ creates)
    (h : d.synchronizeMembership user joins creates leaves comment = (true, d')) :
    (∀ g, g ∈ joins ∨ g ∈ creates → g ∉ d.groupsOf user ∨ user ∈ d.membersOf g →
      user ∈ d'.membersOf g ∧ g ∈ d'.groupsOf user) ∧
    (∀ g, g ∈ d'.groupsOf user ↔ ∃ first, user ∈ d'.membersOf first ∧ d.Leads user first g) ∧
    (∀ g, user ∈ d'.membersOf g →
      user ∈ d.membersOf g ∨ (g ∈ joins ∨ g ∈ creates) ∧ g ∉ d.groupsOf user) ∧
    (∀ g, g ∉ leaves → user ∈ d.membersOf g → user ∈ d'.membersOf g) := by
  obtain ⟨d₁, d₂, hj, hc, hd⟩ := phases_of_done hw h
  have stays {g : Reference} (hg : g ∉ leaves) (hm : user ∈ d₂.membersOf g) :
      user ∈ d'.membersOf g := by
    rw [hd.membersOf fun hf => hg (List.mem_filter.1 hf).1]
    exact hm
  refine ⟨fun g hg hnew => ?_, fun g => ?_, fun g hm => ?_, fun g hg hm => ?_⟩
  · have hgl : g ∉ leaves := by
      intro hgl
      rcases hg with hg | hg
      · exact (hl g hgl).1 hg
      · exact (hl g hgl).2 hg
    have hm : user ∈ d₂.membersOf g := by
      rcases hnew with hnew | hm
      · rcases hg with hg | hg
        · exact hc.kept g (hj.lists g (List.mem_filter.2 ⟨hg, by simpa using hnew⟩))
        · exact hc.lists g (List.mem_filter.2 ⟨hg, by simpa using hnew⟩)
      · exact hc.kept g (hj.kept g hm)
    exact ⟨stays hgl hm, mem_groupsOf_of_membersOf (stays hgl hm)⟩
  · have ha : AgreeBut user d d' := (hj.agree.trans hc.agree).trans hd.agree
    rw [mem_groupsOf_iff_leads, ha.leads]
  · have hm := hd.known g hm
    by_cases hgc : g ∈ creates.filter (· ∉ d.groupsOf user)
    · have hg := List.mem_filter.1 hgc
      exact .inr ⟨.inr hg.1, by simpa using hg.2⟩
    rw [hc.membersOf hgc] at hm
    by_cases hgj : g ∈ joins.filter (· ∉ d.groupsOf user)
    · have hg := List.mem_filter.1 hgj
      exact .inr ⟨.inl hg.1, by simpa using hg.2⟩
    rw [hj.membersOf hgj] at hm
    exact .inl hm
  · exact stays hg (hc.kept g (hj.kept g hm))

/-! ### A company -/

def interns : Reference := .inSpace "xwiki" "XWiki" "Interns"

def staff : Reference := .inSpace "xwiki" "XWiki" "Staff"

def board : Reference := .inSpace "xwiki" "XWiki" "Board"

def carol : Reference := .inSpace "xwiki" "XWiki" "carol"

/-- A page that lists one member. -/
def groupPage (group : Reference) (member : String) : Page :=
  Page.add { reference := group } Page.groupClass (.ofList [(Page.memberProperty, member)])

/-- The interns belong to the staff, and one user is an intern. -/
def company : Directory :=
  (empty.put (groupPage interns "XWiki.carol") "").put (groupPage staff "XWiki.Interns") ""

theorem company_groupsOf : company.groupsOf carol = [interns, staff] := by cbv

theorem promotion_done :
    (company.synchronizeMembership carol [staff] [board] [interns] "").1 = true := by cbv

theorem company_attains :
    carol.wiki ≠ "" ∧ (∀ g ∈ [interns], g ∉ [staff] ∧ g ∉ [board]) ∧
    ∃ d', company.synchronizeMembership carol [staff] [board] [interns] "" = (true, d') ∧
      carol ∈ d'.membersOf board ∧ board ∈ d'.groupsOf carol := by
  have hw : carol.wiki ≠ "" := by decide
  have hl : ∀ g ∈ [interns], g ∉ [staff] ∧ g ∉ [board] := by decide
  have hb : board ∉ company.groupsOf carol := by
    rw [company_groupsOf]
    decide
  have h := Prod.ext (y := (true, _)) promotion_done rfl
  exact ⟨hw, hl, _, h, (synchronizeMembership_attains hw hl h).1 board (.inr (by simp)) (.inl hb)⟩

theorem transfer_done : (company.synchronizeMembership carol [staff] [] [interns] "").1 = true := by
  cbv

theorem transfer_groupsOf :
    (company.synchronizeMembership carol [staff] [] [interns] "").2.groupsOf carol = [] := by cbv

/-- A push that succeeds may take a user out of a group that was to be joined: here the user belongs to
the staff as an intern, so the staff is not joined, and then the interns are left. -/
theorem not_attained :
    ¬ ∀ (d d' : Directory) (user : Reference) (joins creates leaves : List Reference)
        (comment : String), user.wiki ≠ "" →
      (∀ g ∈ joins, g ∉ creates) → (∀ g ∈ joins, g ∉ leaves) → (∀ g ∈ creates, g ∉ leaves) →
      d.synchronizeMembership user joins creates leaves comment = (true, d') →
      ∀ g, g ∈ joins ∨ g ∈ creates → g ∈ d'.groupsOf user := by
  intro h
  have hs := h company _ carol [staff] [] [interns] "" (by decide) (by decide) (by decide) (by decide)
    (Prod.ext transfer_done rfl) staff (.inl (by simp))
  rw [transfer_groupsOf] at hs
  cases hs

end IdentityBridge.Directory
