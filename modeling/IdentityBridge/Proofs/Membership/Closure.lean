import Mathlib.Logic.Relation
import IdentityBridge.Directory.Membership

/-! The groups of a member, which are found by adding groups until none is left, are those that a chain
of memberships leads to. What a chain makes of the memberships of one user is told by the groups that
list the user and by chains that do not come back to the user. -/

namespace IdentityBridge

namespace Membership

/-- A group has a member. -/
def Lists (groups : List (Reference × List Reference)) (member group : Reference) : Prop :=
  ∃ members, (group, members) ∈ groups ∧ member ∈ members

variable {groups : List (Reference × List Reference)} {member : Reference} {found : List Reference}

theorem mem_fresh {group : Reference} :
    group ∈ fresh groups member found ↔
      group ∉ found ∧ ∃ m, (m = member ∨ m ∈ found) ∧ Lists groups m group := by
  simp only [fresh, List.mem_map, List.mem_filter, Bool.and_eq_true, decide_eq_true_eq,
    List.any_eq_true, Bool.or_eq_true, Lists]
  constructor
  · rintro ⟨⟨g, members⟩, ⟨hg, hn, m, hm, ho⟩, rfl⟩
    exact ⟨hn, m, ho, members, hg, hm⟩
  · rintro ⟨hn, m, ho, members, hg, hm⟩
    exact ⟨(group, members), ⟨hg, hn, m, hm, ho⟩, rfl⟩

/-- Only groups that a chain leads to are found. -/
theorem closure_sound
    (h : ∀ g ∈ found, Relation.TransGen (Lists groups) member g) {group : Reference}
    (hg : group ∈ closure groups member found) : Relation.TransGen (Lists groups) member group := by
  fun_induction closure groups member found with
  | case1 found _ => exact h group hg
  | case2 found _ ih =>
    refine ih (fun g hg => ?_) hg
    rcases List.mem_append.1 hg with hg | hg
    · exact h g hg
    · obtain ⟨-, m, rfl | hm, hl⟩ := mem_fresh.1 hg
      · exact .single hl
      · exact (h m hm).tail hl

/-- What is found in the end contains what was found before and is closed under membership. -/
theorem closure_closed :
    (∀ g ∈ found, g ∈ closure groups member found) ∧
      ∀ m g, m = member ∨ m ∈ closure groups member found → Lists groups m g →
        g ∈ closure groups member found := by
  fun_induction closure groups member found with
  | case1 found hf =>
    refine ⟨fun g hg => hg, fun m g hm hl => Decidable.by_contra fun hn => ?_⟩
    have hg : g ∈ fresh groups member found := mem_fresh.2 ⟨hn, m, hm, hl⟩
    rw [hf] at hg
    cases hg
  | case2 found _ ih => exact ⟨fun g hg => ih.1 g (List.mem_append_left _ hg), ih.2⟩

/-- The groups that are found are those that a chain of memberships leads to. -/
theorem mem_closure {group : Reference} :
    group ∈ closure groups member [] ↔ Relation.TransGen (Lists groups) member group := by
  constructor
  · exact closure_sound (by simp)
  · intro h
    induction h with
    | single hl => exact closure_closed.2 _ _ (.inl rfl) hl
    | tail _ hl ih => exact closure_closed.2 _ _ (.inr ih) hl

end Membership

namespace Directory

variable {d d' : Directory} {user member group : Reference}

theorem mem_membersOf :
    member ∈ d.membersOf group ↔ ∃ page, d.pages.find? group = some page ∧ member ∈ page.members := by
  unfold membersOf
  cases d.pages.find? group <;> simp

/-- A page with a member has group objects. -/
theorem objectsOf_ne_nil {page : Page} (h : member ∈ page.members) :
    page.objectsOf Page.groupClass ≠ [] := by
  intro hn
  simp [Page.members, Page.memberEntries, hn] at h

theorem objectsOf_of_member (h : member ∈ d.membersOf group) :
    (d.page group).objectsOf Page.groupClass ≠ [] := by
  obtain ⟨page, hp, hm⟩ := mem_membersOf.1 h
  have he : d.page group = page := by rw [Directory.page, hp, Option.getD_some]
  rw [he]
  exact objectsOf_ne_nil hm

theorem lists_groupTable : Membership.Lists d.groupTable member group ↔ member ∈ d.membersOf group := by
  rw [mem_membersOf]
  simp only [Membership.Lists, groupTable, List.mem_map, List.mem_filter, decide_eq_true_eq]
  constructor
  · rintro ⟨members, ⟨⟨g, page⟩, ⟨hp, -⟩, he⟩, hm⟩
    cases he
    exact ⟨page, Table.find?_eq_some.2 hp, hm⟩
  · rintro ⟨page, hp, hm⟩
    exact ⟨_, ⟨_, ⟨Table.find?_eq_some.1 hp, objectsOf_ne_nil hm⟩, rfl⟩, hm⟩

/-- A user belongs to the groups that a chain of memberships leads to. -/
theorem mem_groupsOf :
    group ∈ d.groupsOf user ↔ Relation.TransGen (fun m g => m ∈ d.membersOf g) user group := by
  have h : Membership.Lists d.groupTable = fun m g => m ∈ d.membersOf g := by
    funext m g
    exact propext lists_groupTable
  rw [groupsOf, Membership.mem_closure, h]

theorem mem_groupsOf_of_membersOf (h : user ∈ d.membersOf group) : group ∈ d.groupsOf user :=
  mem_groupsOf.2 (.single h)

/-! ### Chains that avoid a user -/

/-- A chain of memberships leads from one group to another without coming back to the user. -/
def Leads (d : Directory) (user : Reference) : Reference → Reference → Prop :=
  Relation.ReflTransGen fun m g => m ≠ user ∧ m ∈ d.membersOf g

/-- A user belongs to a group just if a chain leads there from a group that lists the user. -/
theorem mem_groupsOf_iff_leads :
    group ∈ d.groupsOf user ↔ ∃ first, user ∈ d.membersOf first ∧ d.Leads user first group := by
  rw [mem_groupsOf]
  constructor
  · intro h
    induction h with
    | single hl => exact ⟨_, hl, .refl⟩
    | @tail m g _ hl ih =>
      -- A chain that comes back to the user starts anew there.
      by_cases hm : m = user
      · subst hm
        exact ⟨g, hl, .refl⟩
      · obtain ⟨first, hf, hc⟩ := ih
        exact ⟨first, hf, hc.tail ⟨hm, hl⟩⟩
  · rintro ⟨first, hf, hc⟩
    induction hc with
    | refl => exact .single hf
    | tail _ hl ih => exact ih.tail hl.2

/-- Directories agree on every membership except perhaps those of one user. -/
def AgreeBut (user : Reference) (d d' : Directory) : Prop :=
  ∀ m g, m ≠ user → (m ∈ d'.membersOf g ↔ m ∈ d.membersOf g)

theorem AgreeBut.refl (user : Reference) (d : Directory) : AgreeBut user d d := fun _ _ _ => Iff.rfl

theorem AgreeBut.trans {d₁ d₂ d₃ : Directory} (h : AgreeBut user d₁ d₂) (h' : AgreeBut user d₂ d₃) :
    AgreeBut user d₁ d₃ := by
  intro m g hm
  rw [h' m g hm, h m g hm]

theorem AgreeBut.leads (h : AgreeBut user d d') : d'.Leads user = d.Leads user := by
  have he : (fun m g => m ≠ user ∧ m ∈ d'.membersOf g) =
      fun m g => m ≠ user ∧ m ∈ d.membersOf g := by
    funext m g
    refine propext (and_congr_right fun hm => h m g hm)
  rw [Leads, Leads, he]

end Directory

end IdentityBridge
