import Mathlib
import IdentityBridge.Proofs.Membership.Repeated
import IdentityBridge.Proofs.Membership.Roster

/-! Pushing memberships by way of shards. A group with shards is joined by joining the shard of the user,
which is linked to the group before, and it is left together with that shard. After a push the user
belongs to each group with shards that was to be joined and created, and is listed neither by a group
that was to be left nor by its shard, unless this page was itself to be joined. Only a user whose own
page is a shard may be taken out of a group again. -/

namespace IdentityBridge

namespace Shards

variable {s : Shards} {user page : Reference} {joins creates leaves groups : List Reference}

/-- The pages in which a user is to be stored, in place of some groups. -/
def shardsOf (s : Shards) (user : Reference) (groups : List Reference) : List Reference :=
  distinct (groups.map fun g => s.shardOf g user)

/-- The pages that a user is to leave: groups and their shards, apart from those to be joined. -/
def departures (s : Shards) (user : Reference) (joins creates leaves : List Reference) :
    List Reference :=
  (distinct (leaves.flatMap fun g => [s.shardOf g user, g])).filter fun g =>
    g ∉ s.shardsOf user joins && g ∉ s.shardsOf user creates

theorem mem_shardsOf : page ∈ s.shardsOf user groups ↔ ∃ g ∈ groups, s.shardOf g user = page := by
  rw [shardsOf, mem_distinct, List.mem_map]

theorem mem_departures : page ∈ s.departures user joins creates leaves ↔
    (∃ g ∈ leaves, page = g ∨ page = s.shardOf g user) ∧
      page ∉ s.shardsOf user joins ∧ page ∉ s.shardsOf user creates := by
  simp [departures, or_comm]

/-- Where no group has shards, the groups themselves are joined. -/
theorem shardsOf_of_not_splits (h : ∀ g ∈ groups, s.splits g = false) :
    s.shardsOf user groups = distinct groups := by
  have hmap : (groups.map fun g => s.shardOf g user) = groups.map id :=
    List.map_congr_left fun g hg => s.shardOf_of_not_splits (h g hg) user
  rw [shardsOf, hmap, List.map_id]

/-- Where no group has shards, the groups themselves are left. -/
theorem departures_of_not_splits (hj : ∀ g ∈ joins, s.splits g = false)
    (hc : ∀ g ∈ creates, s.splits g = false) (hl : ∀ g ∈ leaves, s.splits g = false)
    (happart : ∀ g ∈ leaves, g ∉ joins ∧ g ∉ creates) :
    s.departures user joins creates leaves = distinct leaves := by
  have htwice : distinct (leaves.flatMap fun g => [s.shardOf g user, g]) = distinct leaves := by
    clear happart
    induction leaves using List.reverseRecOn with
    | nil => rfl
    | append_singleton rest g ih =>
      have hg : s.splits g = false := hl g (by simp)
      have hrest := ih fun g' hg' => hl g' (List.mem_append_left _ hg')
      have hone : rest.flatMap (fun g => [s.shardOf g user, g]) ++ [g, g] =
          rest.flatMap (fun g => [s.shardOf g user, g]) ++ [g] ++ [g] := by simp
      rw [List.flatMap_append, List.flatMap_singleton, s.shardOf_of_not_splits hg, hone,
        distinct_append_of_mem (by simp), distinct_append, distinct_append, hrest]
  rw [departures, htwice, shardsOf_of_not_splits hj, shardsOf_of_not_splits hc, List.filter_eq_self]
  intro g hg
  simpa using happart g (mem_distinct.1 hg)

end Shards

namespace Directory

variable {d d' d₁ d₂ : Directory} {s : Shards} {user group page : Reference}
  {joins creates leaves : List Reference} {comment : String}

/-- A push by way of shards links them and pushes what they stand for. -/
theorem synchronizeShards_eq (d : Directory) (s : Shards) (user : Reference)
    (joins creates leaves : List Reference) (comment : String) :
    d.synchronizeShards s user joins creates leaves comment =
      (d.linkShards s user creates).synchronizeMembership user (s.shardsOf user joins)
        (s.shardsOf user creates) (s.departures user joins creates leaves) comment := by
  simp only [synchronizeShards, Shards.departures, Shards.shardsOf, distinct, List.foldl_map,
    List.foldl_flatMap, List.foldl_cons, List.foldl_nil]

/-! ### Pushes -/

/-- A push keeps the user in a group that is not left, and makes the user a member of one that is to be
created unless it is reached. -/
theorem mem_push (hw : user.wiki ≠ "") (ho : d.outages = {}) (hl : group ∉ leaves)
    (h : user ∈ d.membersOf group ∨ group ∈ creates ∧ group ∉ d.groupsOf user) (comment : String) :
    user ∈ (d.synchronizeMembership user joins creates leaves comment).2.membersOf group := by
  rw [synchronizeMembership_eq (groups_of_outages ho)]
  dsimp only
  rw [(changes_leaves hw comment _ _).membersOf fun hg => hl (List.mem_filter.1 hg).1]
  rcases h with hm | ⟨hc, hn⟩
  · exact mono_joins hw true _ (mono_joins hw false _ hm)
  · have ho' := (changes_joins hw comment false (joins.filter (· ∉ d.groupsOf user)) d).outages.trans ho
    refine ((joins_onEach hw ho' comment true _).1 group).2 (.inr ⟨?_, .inr rfl⟩)
    exact List.mem_filter.2 ⟨hc, by simpa using hn⟩

theorem exists_member_of_mem_groupsOf (h : group ∈ d.groupsOf user) : ∃ m, m ∈ d.membersOf group := by
  rw [mem_groupsOf] at h
  cases h with
  | single hm => exact ⟨user, hm⟩
  | tail _ hm => exact ⟨_, hm⟩

theorem membersOf_of_not_group (h : (d.page group).objectsOf Page.groupClass = []) :
    d.membersOf group = [] :=
  List.eq_nil_iff_forall_not_mem.2 fun _ hm => objectsOf_of_member hm h

/-! ### Groups with shards -/

/-- No shard of the user has a group among its members. -/
def ShardsHoldUsers (d : Directory) (s : Shards) (user : Reference) : Prop :=
  ∀ g m, s.splits g = true → m ∈ d.membersOf (s.shardOf g user) →
    (d.page m).objectsOf Page.groupClass = []

/-- The links that are made for a user before a push. -/
def Link (s : Shards) (user : Reference) (creates : List Reference) (m g : Reference) : Prop :=
  g ∈ creates ∧ s.splits g = true ∧ m = s.shardOf g user

/-- What a push by way of shards holds on to: the shards that are to be joined, and the groups that
only linking has made groups. -/
def Held (d : Directory) (s : Shards) (user : Reference) (creates : List Reference)
    (page : Reference) : Prop :=
  ∃ g ∈ creates, s.splits g = true ∧ (page = s.shardOf g user ∨ page = g ∧ d.membersOf g = [])

/-- A group by which the user gets to a page that is held on to is held on to itself. -/
theorem Held.of_member (hlink : Linked (Link s user creates) d d₁) (hs : d.ShardsHoldUsers s user)
    (h : d.Held s user creates page) {m : Reference} (hm : m ∈ d₁.membersOf page)
    (hg : m ∈ d₁.groupsOf user) : d.Held s user creates m := by
  obtain ⟨g, hc, hsplit, hpage⟩ := h
  rcases (hlink.members m page).1 hm with hold | ⟨hcp, hsp, rfl⟩
  · rcases hpage with rfl | ⟨rfl, hempty⟩
    · -- the member was not a group before, so that it is one by its own shard
      have hnone := membersOf_of_not_group (hs g m hsplit hold)
      obtain ⟨n, hn⟩ := exists_member_of_mem_groupsOf hg
      rcases (hlink.members n m).1 hn with hn | ⟨hcm, hsm, -⟩
      · rw [hnone] at hn
        cases hn
      · exact ⟨m, hcm, hsm, .inr ⟨rfl, hnone⟩⟩
    · rw [hempty] at hold
      cases hold
  · exact ⟨page, hcp, hsp, .inl rfl⟩

/-- Where direct memberships in such pages last and all others are as they were, these pages stay groups
of the user. -/
theorem Held.stays (hlink : Linked (Link s user creates) d d₁) (hs : d.ShardsHoldUsers s user)
    (hagree : AgreeBut user d₁ d₂)
    (hdirect : ∀ page, d.Held s user creates page → user ∈ d₁.membersOf page →
      user ∈ d₂.membersOf page)
    (h : d.Held s user creates page) (hg : page ∈ d₁.groupsOf user) : page ∈ d₂.groupsOf user := by
  rw [mem_groupsOf] at hg
  induction hg with
  | single hm => exact mem_groupsOf_of_membersOf (hdirect _ h hm)
  | @tail m page hchain hm ih =>
    by_cases hu : m = user
    · subst hu
      exact mem_groupsOf_of_membersOf (hdirect _ h hm)
    · have hheld := h.of_member hlink hs hm (mem_groupsOf.2 hchain)
      exact mem_groupsOf.2 ((mem_groupsOf.1 (ih hheld)).tail ((hagree m page hu).2 hm))

/-- The user belongs to each group with shards that was to be joined and created. -/
theorem mem_groupsOf_push (hw : user.wiki ≠ "") (ho : d.outages = {}) (hs : d.ShardsHoldUsers s user)
    (hown : ∀ g ∈ creates, s.splits g = true → s.shardOf g user = user →
      g ∉ s.departures user joins creates leaves)
    (hg : group ∈ creates) (hsplit : s.splits group = true) (comment : String) :
    group ∈ (d.synchronizeShards s user joins creates leaves comment).2.groupsOf user := by
  rw [synchronizeShards_eq]
  have hlink : Linked (Link s user creates) d (d.linkShards s user creates) :=
    linkShards_linked ho s user creates
  generalize d.linkShards s user creates = d₁ at *
  have ho₁ := hlink.outages.trans ho
  have hagree := (changes_push hw ho₁ (s.shardsOf user joins) (s.shardsOf user creates)
    (s.departures user joins creates leaves) comment).agree
  have hjoin {page : Reference} (hp : page ∉ s.departures user joins creates leaves)
      (hm : user ∈ d₁.membersOf page ∨ page ∈ s.shardsOf user creates ∧ page ∉ d₁.groupsOf user) :
      user ∈ (d₁.synchronizeMembership user (s.shardsOf user joins) (s.shardsOf user creates)
        (s.departures user joins creates leaves) comment).2.membersOf page :=
    mem_push hw ho₁ hp hm comment
  generalize (d₁.synchronizeMembership user (s.shardsOf user joins) (s.shardsOf user creates)
    (s.departures user joins creates leaves) comment).2 = d₂ at *
  have hlists : s.shardOf group user ∈ d₁.membersOf group :=
    (hlink.members _ _).2 (.inr ⟨hg, hsplit, rfl⟩)
  by_cases hu : s.shardOf group user = user
  · -- the user is linked as the shard, so that it is the group itself that must not be left
    rw [hu] at hlists
    exact mem_groupsOf_of_membersOf (hjoin (hown group hg hsplit hu) (.inl hlists))
  have hnew {g : Reference} (hg : g ∈ creates) :
      s.shardOf g user ∉ s.departures user joins creates leaves :=
    fun hd => (Shards.mem_departures.1 hd).2.2 (Shards.mem_shardsOf.2 ⟨g, hg, rfl⟩)
  have hreach : s.shardOf group user ∈ d₂.groupsOf user := by
    by_cases hr : s.shardOf group user ∈ d₁.groupsOf user
    · refine Held.stays hlink hs hagree (fun page hheld hm => ?_) ⟨group, hg, hsplit, .inl rfl⟩ hr
      obtain ⟨g, hgc, hgs, rfl | ⟨rfl, hempty⟩⟩ := hheld
      · exact hjoin (hnew hgc) (.inl hm)
      · rcases (hlink.members user page).1 hm with hold | ⟨-, -, hself⟩
        · rw [hempty] at hold
          cases hold
        · exact hjoin (hown page hgc hgs hself.symm) (.inl hm)
    · have hshard : s.shardOf group user ∈ s.shardsOf user creates :=
        Shards.mem_shardsOf.2 ⟨group, hg, rfl⟩
      exact mem_groupsOf_of_membersOf (hjoin (hnew hg) (.inr ⟨hshard, hr⟩))
  exact mem_groupsOf.2 ((mem_groupsOf.1 hreach).tail ((hagree _ _ hu).2 hlists))

/-- Neither a group that was to be left nor its shard lists the user, unless it was to be joined. -/
theorem not_mem_push_shards (hw : user.wiki ≠ "") (ho : d.outages = {}) (hd : d.Usual)
    (hg : group ∈ leaves) (hpage : page = group ∨ page = s.shardOf group user)
    (hj : page ∉ s.shardsOf user joins) (hc : page ∉ s.shardsOf user creates) (comment : String) :
    user ∉ (d.synchronizeShards s user joins creates leaves comment).2.membersOf page := by
  have hlink := linkShards_linked ho s user creates
  rw [synchronizeShards_eq]
  exact not_mem_push hw (hlink.outages.trans ho) (hlink.usual hd)
    (fun _ => Shards.mem_departures.2 ⟨⟨group, hg, hpage⟩, hj, hc⟩) hj hc comment

/-- Where no group has shards, these make no difference. -/
theorem synchronizeShards_of_not_splits (hw : user.wiki ≠ "") (ho : d.outages = {}) (hd : d.Usual)
    (hj : ∀ g ∈ joins, s.splits g = false) (hc : ∀ g ∈ creates, s.splits g = false)
    (hl : ∀ g ∈ leaves, s.splits g = false) (happart : ∀ g ∈ leaves, g ∉ joins ∧ g ∉ creates)
    (comment : String) :
    d.synchronizeShards s user joins creates leaves comment =
      d.synchronizeMembership user joins creates leaves comment := by
  rw [synchronizeShards_eq, linkShards_of_not_splits d user hc, Shards.shardsOf_of_not_splits hj,
    Shards.shardsOf_of_not_splits hc, Shards.departures_of_not_splits hj hc hl happart,
    push_distinct hw ho hd]

/-- A push by way of shards hands down the shards to be joined and the pages to be left, and no page is
among both. Afterwards the user belongs to each group with shards that was to be joined and created, as
long as none of these has the user's own page for its shard and is left as the shard of another group. A
group that was to be left does not list the user, and neither does its shard, unless this page is handed
down to be joined. Without shards the push is the usual one. -/
theorem synchronizeShards_attains (hw : user.wiki ≠ "") (ho : d.outages = {}) (hd : d.Usual)
    (hs : d.ShardsHoldUsers s user) (hl : ∀ g ∈ leaves, g ∉ joins ∧ g ∉ creates) {success : Bool}
    (h : d.synchronizeShards s user joins creates leaves comment = (success, d')) :
    (d.linkShards s user creates).synchronizeMembership user (s.shardsOf user joins)
      (s.shardsOf user creates) (s.departures user joins creates leaves) comment = (success, d') ∧
    ((∀ g ∈ creates, s.splits g = true → s.shardOf g user = user →
        g ∉ s.departures user joins creates leaves) →
      ∀ g ∈ creates, s.splits g = true → g ∈ d'.groupsOf user) ∧
    (∀ g ∈ leaves, ∀ page, page = g ∨ page = s.shardOf g user →
      page ∉ s.shardsOf user joins → page ∉ s.shardsOf user creates → user ∉ d'.membersOf page) ∧
    (∀ page ∈ s.departures user joins creates leaves,
      page ∉ s.shardsOf user joins ∧ page ∉ s.shardsOf user creates) ∧
    ((∀ g, g ∈ joins ∨ g ∈ creates ∨ g ∈ leaves → s.splits g = false) →
      d.synchronizeMembership user joins creates leaves comment = (success, d')) := by
  have hd' : (d.synchronizeShards s user joins creates leaves comment).2 = d' := by rw [h]
  refine ⟨?_, fun hown g hg hsplit => ?_, fun g hg page hpage hj hc => ?_, fun page hp => ?_,
    fun hwhole => ?_⟩
  · rw [← synchronizeShards_eq, h]
  · have hin := mem_groupsOf_push hw ho hs hown hg hsplit comment
    rwa [hd'] at hin
  · have hout := not_mem_push_shards hw ho hd hg hpage hj hc comment
    rwa [hd'] at hout
  · exact (Shards.mem_departures.1 hp).2
  · rw [← h, synchronizeShards_of_not_splits hw ho hd (fun g hg => hwhole g (.inl hg))
      (fun g hg => hwhole g (.inr (.inl hg))) (fun g hg => hwhole g (.inr (.inr hg))) hl]

/-! ### A company with shards -/

/-- The staff has shards. -/
def sharded : Shards := { names := ["Staff"], mainWiki := "xwiki" }

/-- A shard of the staff has a name of twelve letters. -/
theorem shardOf_ne_of_length (h : sharded.splits group = true) (user : Reference)
    (hpage : page.name.length ≠ 12) : sharded.shardOf group user ≠ page := by
  have hname : group.name = "Staff" := by simpa [Shards.splits, sharded] using h
  rintro rfl
  rw [Shards.length_shardOf h, hname] at hpage
  exact hpage rfl

theorem company_shards : company.ShardsHoldUsers sharded carol := by
  intro g m hsplit hm
  change m ∈ ((empty.put (groupPage interns "XWiki.carol") "").put
    (groupPage staff "XWiki.Interns") "").membersOf (sharded.shardOf g carol) at hm
  rw [membersOf_put, if_neg (shardOf_ne_of_length hsplit carol (by decide)).symm,
    membersOf_put, if_neg (shardOf_ne_of_length hsplit carol (by decide)).symm] at hm
  cases hm

/-- An intern who joins the staff by a shard is still in it when no longer an intern. -/
theorem promotion_attains : carol.wiki ≠ "" ∧ company.outages = {} ∧ company.Usual ∧
    company.ShardsHoldUsers sharded carol ∧ (∀ g ∈ [interns], g ∉ [] ∧ g ∉ [staff]) ∧
    ∃ success d', company.synchronizeShards sharded carol [] [staff] [interns] "" = (success, d') ∧
      staff ∈ d'.groupsOf carol ∧ carol ∉ d'.membersOf interns := by
  have hw : carol.wiki ≠ "" := by decide
  have hl : ∀ g ∈ [interns], g ∉ [] ∧ g ∉ [staff] := by decide
  have hd : company.Usual := Membership.company_canonical.usual
  have hstaff : sharded.splits staff = true := by decide
  obtain ⟨-, hin, hout, -, -⟩ := synchronizeShards_attains hw rfl hd company_shards hl
    (Prod.eta (company.synchronizeShards sharded carol [] [staff] [interns] "")).symm
  refine ⟨hw, rfl, hd, company_shards, hl, _, _, (Prod.eta _).symm, hin ?_ staff (by simp) hstaff,
    hout interns (by simp) interns (.inl rfl) (by simp [Shards.shardsOf, distinct]) ?_⟩
  · intro g _ hsplit hself
    exact absurd hself (shardOf_ne_of_length hsplit carol (by decide))
  · intro hc
    obtain ⟨g, hg, hself⟩ := Shards.mem_shardsOf.1 hc
    obtain rfl := List.mem_singleton.1 hg
    exact absurd hself (shardOf_ne_of_length hstaff carol (by decide))

/-! ### A user with the name of a shard -/

/-- The staff has shards, and so has one of them. -/
def nested : Shards := { names := ["Staff", "Staff-ShardB"], mainWiki := "xwiki" }

def shardB : Reference := .inSpace "xwiki" "XWiki" "Staff-ShardB"

/-- A user whose own page is a shard of a shard. -/
def twin : Reference := .inSpace "xwiki" "XWiki" "Staff-ShardB-ShardB"

theorem digit_twin : nested.digit twin = 'B' := by decide +kernel

theorem shardOf_staff_twin : nested.shardOf staff twin = shardB := by
  rw [Shards.shardOf, digit_twin]
  rfl

theorem shardOf_shardB_twin : nested.shardOf shardB twin = twin := by
  rw [Shards.shardOf, digit_twin]
  rfl

/-- A user may be taken out of a group with shards that was to be joined: where the user's own page is the
shard, the user is linked to the group as such, and then the group is left as a shard itself. -/
theorem not_attained_by_shards :
    ¬ ∀ (d : Directory) (s : Shards) (user : Reference) (joins creates leaves : List Reference)
        (comment : String), user.wiki ≠ "" → d.outages = {} → d.Usual →
      (∀ user, d.ShardsHoldUsers s user) →
      (∀ g ∈ joins, g ∉ creates) → (∀ g ∈ joins, g ∉ leaves) → (∀ g ∈ creates, g ∉ leaves) →
      ∀ g ∈ creates, s.splits g = true →
        g ∈ (d.synchronizeShards s user joins creates leaves comment).2.groupsOf user := by
  intro h
  have hw : twin.wiki ≠ "" := by decide
  have hs (user : Reference) : empty.ShardsHoldUsers nested user := by
    intro g m _ hm
    cases hm
  have hin := h empty nested twin [] [shardB] [staff] "" hw rfl canonical_empty.usual hs (by decide)
    (by decide) (by decide) shardB (by simp) (by decide)
  have hjoined : nested.shardsOf twin [shardB] = [twin] := by
    rw [Shards.shardsOf, List.map_singleton, shardOf_shardB_twin]
    rfl
  have hout : twin ∉ (empty.synchronizeShards nested twin [] [shardB] [staff] "").2.membersOf shardB := by
    refine not_mem_push_shards hw rfl canonical_empty.usual (List.mem_singleton.2 rfl)
      (.inr shardOf_staff_twin.symm) List.not_mem_nil ?_ ""
    rw [hjoined]
    decide
  -- whoever else is in the group was linked to it, but this is the user alone
  obtain ⟨m, hm⟩ := exists_member_of_mem_groupsOf hin
  have hne : m ≠ twin := by
    rintro rfl
    exact hout hm
  have hlink : Linked (Link nested twin [shardB]) empty (empty.linkShards nested twin [shardB]) :=
    linkShards_linked rfl nested twin [shardB]
  rw [synchronizeShards_eq] at hm
  rw [(changes_push hw hlink.outages _ _ _ "").agree m shardB hne, hlink.members] at hm
  rcases hm with hm | ⟨-, -, rfl⟩
  · cases hm
  · exact hne shardOf_shardB_twin

end Directory

end IdentityBridge
