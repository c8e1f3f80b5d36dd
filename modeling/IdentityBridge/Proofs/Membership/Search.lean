import Mathlib.Data.List.Basic
import IdentityBridge.Proofs.Membership.Flat

/-! The search for the groups of a member, as a worklist follows it: what lists a pending reference is found
and pending in turn. It finds the same groups as adding them until none is left, namely all that end a chain
of memberships, and it stops because each group is followed only once. -/

namespace IdentityBridge

namespace Membership

variable {groups : List (Reference × List Reference)} {member current : Reference}
  {pending found : List Reference}

/-- The groups that list a member, without those that are found. -/
def listing (groups : List (Reference × List Reference)) (member : Reference)
    (found : List Reference) : List Reference :=
  (groups.filter fun (group, members) => member ∈ members && group ∉ found).map (·.1)

theorem mem_listing {group : Reference} :
    group ∈ listing groups member found ↔ Lists groups member group ∧ group ∉ found := by
  simp only [listing, List.mem_map, List.mem_filter, Bool.and_eq_true, decide_eq_true_eq, Lists]
  constructor
  · rintro ⟨⟨g, members⟩, ⟨hg, hm, hn⟩, rfl⟩
    exact ⟨⟨members, hg, hm⟩, hn⟩
  · rintro ⟨⟨members, hg, hm⟩, hn⟩
    exact ⟨(group, members), ⟨hg, hm, hn⟩, rfl⟩

/-- What is found now is no longer to be found. -/
theorem missing_add_listing (groups : List (Reference × List Reference)) (member : Reference)
    (found : List Reference) :
    (groups.filter (·.1 ∉ found ++ listing groups member found)).length +
      (listing groups member found).length ≤ (groups.filter (·.1 ∉ found)).length := by
  have hnow : listing groups member found =
      ((groups.filter (·.1 ∉ found)).filter (member ∈ ·.2)).map (·.1) := by
    rw [listing, List.filter_filter]
  have hle : ((groups.filter (·.1 ∉ found)).filter (member ∈ ·.2)).length ≤
      ((groups.filter (·.1 ∉ found)).filter
        fun x => !decide (x.1 ∉ listing groups member found)).length := by
    rw [← List.countP_eq_length_filter, ← List.countP_eq_length_filter]
    refine List.countP_mono_left fun x hx hm => ?_
    have hl : x.1 ∈ listing groups member found := by
      rw [hnow]
      exact List.mem_map_of_mem (List.mem_filter.2 ⟨hx, hm⟩)
    simpa using hl
  calc (groups.filter (·.1 ∉ found ++ listing groups member found)).length +
        (listing groups member found).length
      = ((groups.filter (·.1 ∉ found)).filter (·.1 ∉ listing groups member found)).length +
          ((groups.filter (·.1 ∉ found)).filter (member ∈ ·.2)).length := by
        rw [filter_notMem_append]
        congr 1
        rw [hnow, List.length_map]
    _ ≤ _ := Nat.add_le_add_left hle _
    _ = (groups.filter (·.1 ∉ found)).length := (List.length_eq_length_filter_add _).symm

/-- Follow the pending references, the last one found first. -/
def follow (groups : List (Reference × List Reference)) :
    List Reference → List Reference → List Reference
  | [], found => found
  | current :: pending, found =>
    follow groups ((listing groups current found).reverse ++ pending)
      (found ++ listing groups current found)
termination_by pending found => (groups.filter (·.1 ∉ found)).length + pending.length
decreasing_by
  have h := missing_add_listing groups current found
  simp only [List.length_append, List.length_reverse, List.length_cons]
  omega

/-- How far the search has come: what is found ends a chain from the member, no group is found twice, and
what the member or a found group belongs to at once is found as well, unless that one is pending. -/
structure Searched (groups : List (Reference × List Reference)) (member : Reference)
    (pending found : List Reference) : Prop where
  sound : ∀ g ∈ found, Relation.TransGen (Lists groups) member g
  once : found.Nodup
  known : ∀ m ∈ pending, m = member ∨ m ∈ found
  followed : ∀ m, m = member ∨ m ∈ found → m ∈ pending ∨ ∀ g, Lists groups m g → g ∈ found

theorem searched_start (groups : List (Reference × List Reference)) (member : Reference) :
    Searched groups member [member] [] where
  sound := by simp
  once := List.nodup_nil
  known := by simp
  followed := by simp

theorem listing_nodup (hn : (groups.map Prod.fst).Nodup) : (listing groups member found).Nodup :=
  hn.sublist (List.filter_sublist.map _)

theorem Searched.step (h : Searched groups member (current :: pending) found)
    (hn : (groups.map Prod.fst).Nodup) :
    Searched groups member ((listing groups current found).reverse ++ pending)
      (found ++ listing groups current found) := by
  refine ⟨fun g hg => ?_, ?_, fun m hm => ?_, fun m hm => ?_⟩
  · rcases List.mem_append.1 hg with hg | hg
    · exact h.sound g hg
    · have hl := (mem_listing.1 hg).1
      rcases h.known current List.mem_cons_self with rfl | hc
      · exact .single hl
      · exact (h.sound current hc).tail hl
  · refine List.nodup_append.2 ⟨h.once, listing_nodup hn, ?_⟩
    rintro g hg _ hg' rfl
    exact (mem_listing.1 hg').2 hg
  · rcases List.mem_append.1 hm with hm | hm
    · exact .inr (List.mem_append_right _ (List.mem_reverse.1 hm))
    · exact (h.known m (List.mem_cons_of_mem _ hm)).imp_right (List.mem_append_left _)
  · by_cases hf : m = member ∨ m ∈ found
    · rcases h.followed m hf with hp | hp
      · rcases List.mem_cons.1 hp with rfl | hp
        · -- This is the one that has just been followed.
          refine .inr fun g hg => ?_
          by_cases hg' : g ∈ found
          · exact List.mem_append_left _ hg'
          · exact List.mem_append_right _ (mem_listing.2 ⟨hg, hg'⟩)
        · exact .inl (List.mem_append_right _ hp)
      · exact .inr fun g hg => List.mem_append_left _ (hp g hg)
    · rcases hm with hm | hm
      · exact absurd (.inl hm) hf
      · rcases List.mem_append.1 hm with hm | hm
        · exact absurd (.inr hm) hf
        · exact .inl (List.mem_append_left _ (List.mem_reverse.2 hm))

theorem Searched.run (h : Searched groups member pending found)
    (hn : (groups.map Prod.fst).Nodup) : Searched groups member [] (follow groups pending found) := by
  fun_induction follow groups pending found with
  | case1 found => exact h
  | case2 current pending found ih => exact ih (h.step hn)

/-- When nothing is pending, the groups at the ends of chains are found, and no others. -/
theorem Searched.mem_iff (h : Searched groups member [] found) {group : Reference} :
    group ∈ found ↔ Relation.TransGen (Lists groups) member group := by
  have hclosed (m : Reference) (hm : m = member ∨ m ∈ found) (g : Reference)
      (hl : Lists groups m g) : g ∈ found :=
    (h.followed m hm).resolve_left List.not_mem_nil g hl
  refine ⟨h.sound group, fun hc => ?_⟩
  induction hc with
  | single hl => exact hclosed member (.inl rfl) _ hl
  | tail _ hl ih => exact hclosed _ (.inr ih) _ hl

theorem searched_follow (hn : (groups.map Prod.fst).Nodup) (member : Reference) :
    Searched groups member [] (follow groups [member] []) :=
  (searched_start groups member).run hn

/-- Nor does adding groups find one twice. -/
theorem closure_nodup (hn : (groups.map Prod.fst).Nodup) (hf : found.Nodup) :
    (closure groups member found).Nodup := by
  fun_induction closure groups member found with
  | case1 found _ => exact hf
  | case2 found _ ih =>
    refine ih (List.nodup_append.2 ⟨hf, hn.sublist (List.filter_sublist.map _), ?_⟩)
    rintro g hg _ hg' rfl
    exact (mem_fresh.1 hg').1 hg

theorem closure_perm_follow (hn : (groups.map Prod.fst).Nodup) :
    (closure groups member []).Perm (follow groups [member] []) := by
  have hs := searched_follow hn member
  refine (List.perm_ext_iff_of_nodup (closure_nodup hn List.nodup_nil) hs.once).2 fun g => ?_
  rw [mem_closure, hs.mem_iff]

end Membership

/-! ### Chains -/

/-- The transitive closure, by the chains of its steps. -/
theorem transGen_iff_chain {α : Type} {r : α → α → Prop} {a b : α} :
    Relation.TransGen r a b ↔
      ∃ (k : Nat) (x : Nat → α), 1 ≤ k ∧ x 0 = a ∧ x k = b ∧ ∀ i < k, r (x i) (x (i + 1)) := by
  constructor
  · intro h
    induction h with
    | @single b h =>
      refine ⟨1, fun i => if i = 0 then a else b, Nat.le_refl 1, rfl, rfl, fun i hi => ?_⟩
      obtain rfl : i = 0 := by omega
      exact h
    | @tail b c _ h ih =>
      obtain ⟨k, x, hk, ha, hb, hx⟩ := ih
      refine ⟨k + 1, fun i => if i ≤ k then x i else c, by omega, by simp [ha], by simp, fun i hi => ?_⟩
      by_cases hi' : i < k
      · simpa [hi', Nat.le_of_lt hi'] using hx i hi'
      · obtain rfl : i = k := by omega
        simpa [hb] using h
  · rintro ⟨k, x, hk, rfl, rfl, hx⟩
    induction k, hk using Nat.le_induction with
    | base => exact .single (hx 0 Nat.one_pos)
    | succ k hk ih => exact (ih fun i hi => hx i (by omega)).tail (hx k (by omega))

namespace Directory

variable {d : Directory} {user group : Reference}

theorem groupTable_nodup (d : Directory) : (d.groupTable.map Prod.fst).Nodup := by
  rw [groupTable, List.map_map]
  exact d.pages.nodup_keys.sublist (List.filter_sublist.map _)

theorem contains_of_mem_groupsOf (h : group ∈ d.groupsOf user) : d.contains group = true := by
  obtain ⟨_, -, hm⟩ := Relation.TransGen.tail'_iff.1 (mem_groupsOf.1 h)
  exact contains_of_member hm

/-- Without outages the groups of a reference are listed, whatever the pages are: each is a page and is
listed once, and they are the ends of the chains of memberships that start from the reference. The list has
the groups that a worklist finds. -/
theorem groups_exact (ho : d.outages = {}) (m : Reference) :
    ∃ found, d.groups m = .ok found ∧ found.Nodup ∧
      found.Perm (Membership.follow d.groupTable [m] []) ∧ (∀ g ∈ found, d.contains g = true) ∧
      ∀ g, g ∈ found ↔ ∃ (k : Nat) (x : Nat → Reference), 1 ≤ k ∧ x 0 = m ∧ x k = g ∧
        ∀ i < k, ∃ members, d.members (x (i + 1)) = .ok members ∧ x i ∈ members := by
  have hn := d.groupTable_nodup
  have hm (a g : Reference) :
      (∃ members, d.members g = .ok members ∧ a ∈ members) ↔ a ∈ d.membersOf g := by
    rw [members_of_outages ho]
    simp
  refine ⟨_, groups_of_outages ho, Membership.closure_nodup hn List.nodup_nil,
    Membership.closure_perm_follow hn, fun g hg => contains_of_mem_groupsOf hg, fun g => ?_⟩
  simp only [hm]
  rw [mem_groupsOf, transGen_iff_chain]

/-! ### An example -/

def listed (page : Page) (member : String) : Page :=
  page.add Page.groupClass (.ofList [(Page.memberProperty, member)])

/-- Three groups in a circle, one of which lists itself as well and one a page that is not there. -/
def tangle : Directory :=
  ((empty.put (listed (groupPage interns "XWiki.carol") "Board") "").put
    (listed (groupPage staff "XWiki.Interns") "Staff") "").put
    (listed (groupPage board "Nobody") "Staff") ""

theorem tangle_groups : tangle.groups carol = .ok [interns, staff, board] := by cbv

theorem tangle_exact :
    tangle.outages = {} ∧ tangle.groups carol = .ok [interns, staff, board] ∧
    (∃ (k : Nat) (x : Nat → Reference), 1 ≤ k ∧ x 0 = carol ∧ x k = board ∧
      ∀ i < k, ∃ members, tangle.members (x (i + 1)) = .ok members ∧ x i ∈ members) ∧
    ¬ ∃ (k : Nat) (x : Nat → Reference), 1 ≤ k ∧ x 0 = carol ∧ x k = carol ∧
      ∀ i < k, ∃ members, tangle.members (x (i + 1)) = .ok members ∧ x i ∈ members := by
  obtain ⟨found, hf, -, -, -, hchain⟩ := groups_exact (d := tangle) rfl carol
  cases hf.symm.trans tangle_groups
  exact ⟨rfl, tangle_groups, (hchain board).1 (by decide), mt (hchain carol).2 (by decide)⟩

end Directory

end IdentityBridge
