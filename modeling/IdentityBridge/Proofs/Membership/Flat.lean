import IdentityBridge.Proofs.Membership.Push

/-! Pushes in directories whose pages write each member once and in the usual form, and where no group
that a user is in is a member of another. Without outages the groups of the user after a push are then
exactly those before that are not left, with the groups to be joined that are there and those to be
created. -/

namespace IdentityBridge.Directory

variable {d : Directory} {user group : Reference} {comment : String} {create : Bool}
  {r : Bool × Directory}

/-- Every entry is what joining would write for some member, and no page has an entry twice. -/
structure Canonical (d : Directory) : Prop where
  named (g : Reference) (text : String) : text ∈ (d.page g).memberEntries →
    ∃ m : Reference, m.wiki ≠ "" ∧ text = Page.memberName g m
  nodup (g : Reference) : (d.page g).memberEntries.Nodup

/-- In such a directory a group lists a user just if the name of the user is written on its page. -/
theorem Canonical.mem_membersOf (h : d.Canonical) (hw : user.wiki ≠ "") :
    user ∈ d.membersOf group ↔ Page.memberName group user ∈ (d.page group).memberEntries := by
  rw [membersOf_eq_map, List.mem_map]
  constructor
  · rintro ⟨text, ht, hr⟩
    obtain ⟨m, hm, rfl⟩ := h.named group text ht
    rw [resolveOn_memberName hm] at hr
    rwa [← hr]
  · intro ht
    exact ⟨_, ht, resolveOn_memberName hw group⟩

theorem Canonical.of_entries {d' : Directory} (h : d.Canonical)
    (he : ∀ g, (d'.page g).memberEntries = (d.page g).memberEntries) : d'.Canonical := by
  refine ⟨fun g text ht => ?_, fun g => ?_⟩
  · rw [he] at ht
    exact h.named g text ht
  · rw [he]
    exact h.nodup g

theorem canonical_empty : empty.Canonical where
  named g text ht := by cases ht
  nodup g := List.nodup_nil

theorem Canonical.put (h : d.Canonical) {p : Page}
    (hn : ∀ text ∈ p.memberEntries, ∃ m : Reference, m.wiki ≠ "" ∧
      text = Page.memberName p.reference m) (hd : p.memberEntries.Nodup) (comment : String) :
    (d.put p comment).Canonical := by
  refine ⟨fun g text ht => ?_, fun g => ?_⟩
  · by_cases hg : p.reference = g
    · subst hg
      rw [memberEntries_put d rfl] at ht
      exact hn text ht
    · rw [page_put, if_neg hg] at ht
      exact h.named g text ht
  · by_cases hg : p.reference = g
    · rw [memberEntries_put d hg]
      exact hd
    · rw [page_put, if_neg hg]
      exact h.nodup g

theorem memberEntries_groupPage (group : Reference) {name : String} (hn : name ≠ "") :
    (groupPage group name).memberEntries = [name] := by
  rw [groupPage, Page.memberEntries_add _ hn]
  rfl

/-- Such a directory may get a page that lists one member in the usual form. -/
theorem Canonical.put_groupPage (h : d.Canonical) {m : Reference} (hm : m.wiki ≠ "") {name : String}
    (hn : name = Page.memberName group m) (comment : String) :
    (d.put (groupPage group name) comment).Canonical := by
  subst hn
  have he := memberEntries_groupPage group (memberName_ne_empty group m)
  refine h.put ?_ ?_ comment
  · rw [he]
    intro text ht
    exact ⟨m, hm, List.mem_singleton.1 ht⟩
  · rw [he]
    exact List.nodup_singleton _

/-- A page with an entry is there. -/
theorem contains_of_entry {text : String} (h : text ∈ (d.page group).memberEntries) :
    d.contains group = true := by
  unfold page at h
  unfold contains Table.contains
  cases hp : d.pages.find? group with
  | none =>
    rw [hp] at h
    cases h
  | some page => rfl

theorem contains_of_member (h : user ∈ d.membersOf group) : d.contains group = true := by
  rw [membersOf_eq_map, List.mem_map] at h
  obtain ⟨text, ht, -⟩ := h
  exact contains_of_entry ht

/-! ### Joining -/

theorem Joins.canonical (h : Joins d user group comment create r) (hw : user.wiki ≠ "")
    (hd : d.Canonical) : r.2.Canonical := by
  have hother (g : Reference) (hg : g ≠ group) : r.2.page g = d.page g :=
    (h.changes hw).page g (by simpa using hg)
  have hentries := h.memberEntries
  refine ⟨fun g text ht => ?_, fun g => ?_⟩
  · by_cases hg : g = group
    · subst hg
      rcases hentries with he | ⟨-, he⟩
      · rw [he] at ht
        exact hd.named g text ht
      · rw [he, List.mem_append, List.mem_singleton] at ht
        rcases ht with ht | rfl
        · exact hd.named g text ht
        · exact ⟨user, hw, rfl⟩
    · rw [hother g hg] at ht
      exact hd.named g text ht
  · by_cases hg : g = group
    · subst hg
      rcases hentries with he | ⟨hn, he⟩
      · rw [he]
        exact hd.nodup g
      · rw [he, List.nodup_append]
        refine ⟨hd.nodup g, by simp, fun t ht t' ht' hne => hn ?_⟩
        rw [← List.mem_singleton.1 ht', ← hne]
        exact ht
    · rw [hother g hg]
      exact hd.nodup g

/-- Without an outage, a group is there after being joined if it was there or could be created. -/
theorem Joins.contains (h : Joins d user group comment create r) (ho : d.outages = {})
    (g : Reference) : r.2.contains g = true ↔ d.contains g = true ∨ g = group ∧ create = true := by
  cases h with
  | refused h => simp [(h ho).2]
  | listed h =>
    have hc := contains_of_entry h
    by_cases hg : g = group <;> simp [hg, hc]
  | added _ hc =>
    rw [contains_put, reference_add, Bool.or_eq_true, decide_eq_true_eq]
    by_cases hg : g = group
    · subst hg
      simp [hc]
    · simp [hg, Ne.symm hg]

/-- Without an outage, a group that is there or could be created lists the user after being joined. -/
theorem Joins.mem_membersOf (h : Joins d user group comment create r) (hw : user.wiki ≠ "")
    (ho : d.outages = {}) (g : Reference) :
    user ∈ r.2.membersOf g ↔
      user ∈ d.membersOf g ∨ g = group ∧ (d.contains group = true ∨ create = true) := by
  by_cases hg : g = group
  · subst hg
    by_cases hc : d.contains g = true ∨ create = true
    · have hdone : r.1 = true := by
        cases h with
        | refused h =>
          obtain ⟨h₁, h₂⟩ := h ho
          rw [h₁, h₂] at hc
          rcases hc with hc | hc <;> cases hc
        | listed => rfl
        | added => rfl
      exact iff_of_true (h.mem_of_done hw hdone) (.inr ⟨rfl, hc⟩)
    · have hd : r.2 = d := by
        cases h with
        | refused => rfl
        | listed h => exact absurd (.inl (contains_of_entry h)) hc
        | added _ hc' => exact absurd hc' hc
      rw [hd]
      exact ⟨.inl, fun h => h.elim id fun h => absurd h.2 hc⟩
  · rw [(h.changes hw).membersOf (by simpa using hg)]
    exact ⟨.inl, fun h => h.elim id fun h => absurd h.1 hg⟩

/-- A group that is missing and may not be created is not joined. -/
theorem join_missing (user : Reference) (comment : String) (h : d.contains group = false) :
    (d.join user group comment false).2 = d := by
  have hj := join_joins d user group comment false
  generalize d.join user group comment false = r at hj
  cases hj with
  | refused => rfl
  | listed => rfl
  | added _ hc =>
    rw [h] at hc
    rcases hc with hc | hc <;> cases hc

/-! ### Leaving -/

theorem Leaves.canonical (h : Leaves d user group comment r) (hw : user.wiki ≠ "")
    (hd : d.Canonical) : r.2.Canonical := by
  have hother (g : Reference) (hg : g ≠ group) : r.2.page g = d.page g :=
    (h.changes hw).page g (by simpa using hg)
  have hentries : (r.2.page group).memberEntries.Sublist (d.page group).memberEntries := by
    rcases h.memberEntries with he | he
    · simp only [he, List.Sublist.refl]
    · simp only [he, List.erase_sublist]
  refine ⟨fun g text ht => ?_, fun g => ?_⟩
  · by_cases hg : g = group
    · subst hg
      exact hd.named g text (hentries.subset ht)
    · rw [hother g hg] at ht
      exact hd.named g text ht
  · by_cases hg : g = group
    · subst hg
      exact (hd.nodup g).sublist hentries
    · rw [hother g hg]
      exact hd.nodup g

theorem Leaves.contains (h : Leaves d user group comment r) (g : Reference) :
    r.2.contains g = d.contains g := by
  cases h with
  | refused => rfl
  | unlisted => rfl
  | removed o ho =>
    have he := Page.mem_memberEntries_of_find? (memberName_ne_empty group user) ho
    rw [contains_put, reference_remove]
    by_cases hg : group = g
    · subst hg
      simp [contains_of_entry he]
    · simp [hg]

/-- Without an outage, a group does not list the user after being left. -/
theorem Leaves.mem_membersOf (h : Leaves d user group comment r) (hw : user.wiki ≠ "")
    (ho : d.outages = {}) (hd : d.Canonical) (g : Reference) :
    user ∈ r.2.membersOf g ↔ user ∈ d.membersOf g ∧ g ≠ group := by
  by_cases hg : g = group
  · subst hg
    have hn : Page.memberName g user ∉ (r.2.page g).memberEntries := by
      cases h with
      | refused h =>
        intro he
        have hc := contains_of_entry he
        rw [h ho] at hc
        cases hc
      | unlisted h => exact h
      | removed o ho =>
        rw [memberEntries_put d (reference_remove d g _ _),
          Page.memberEntries_remove (memberName_ne_empty g user) ho]
        exact fun he => ((hd.nodup g).mem_erase_iff.1 he).1 rfl
    rw [(h.canonical hw hd).mem_membersOf hw]
    exact ⟨fun h => absurd h hn, fun h => absurd rfl h.2⟩
  · rw [(h.changes hw).membersOf (by simpa using hg)]
    exact ⟨fun h => ⟨h, hg⟩, And.left⟩

/-! ### Pushes -/

/-- What joining some groups makes of a directory without outages. -/
theorem joins_onEach (hw : user.wiki ≠ "") (ho : d.outages = {}) (comment : String) (create : Bool)
    (groups : List Reference) :
    (∀ g, user ∈ (onEach (fun d g => d.join user g comment create) d groups).2.membersOf g ↔
      user ∈ d.membersOf g ∨ g ∈ groups ∧ (d.contains g = true ∨ create = true)) ∧
    ∀ g, (onEach (fun d g => d.join user g comment create) d groups).2.contains g = true ↔
      d.contains g = true ∨ g ∈ groups ∧ create = true := by
  induction groups generalizing d with
  | nil => simp [onEach]
  | cons first rest ih =>
    have hj := join_joins d user first comment create
    have hm := hj.mem_membersOf hw ho
    have hc := hj.contains ho
    obtain ⟨ihm, ihc⟩ := ih (d := (d.join user first comment create).2)
      ((hj.changes hw).outages.trans ho)
    rw [onEach_cons]
    refine ⟨fun g => ?_, fun g => ?_⟩
    · rw [ihm, hm, hc, List.mem_cons]
      grind
    · rw [ihc, hc, List.mem_cons]
      grind

theorem leaves_onEach (hw : user.wiki ≠ "") (ho : d.outages = {}) (hd : d.Canonical)
    (comment : String) (groups : List Reference) :
    (∀ g, user ∈ (onEach (fun d g => d.leave user g comment) d groups).2.membersOf g ↔
      user ∈ d.membersOf g ∧ g ∉ groups) ∧
    ∀ g, (onEach (fun d g => d.leave user g comment) d groups).2.contains g = d.contains g := by
  induction groups generalizing d with
  | nil => simp [onEach]
  | cons first rest ih =>
    have hl := leave_leaves d user first comment
    have hm := hl.mem_membersOf hw ho hd
    obtain ⟨ihm, ihc⟩ := ih (d := (d.leave user first comment).2)
      ((hl.changes hw).outages.trans ho) (hl.canonical hw hd)
    rw [onEach_cons]
    refine ⟨fun g => ?_, fun g => ?_⟩
    · rw [ihm, hm, List.mem_cons, not_or, and_assoc]
    · rw [ihc, hl.contains]

theorem canonical_joins (hw : user.wiki ≠ "") (hd : d.Canonical) (comment : String) (create : Bool)
    (groups : List Reference) :
    (onEach (fun d g => d.join user g comment create) d groups).2.Canonical :=
  onEach_rel (R := fun d d' => d.Canonical → d'.Canonical) (fun _ hd => hd)
    (fun h h' hd => h' (h hd)) (fun d g hd => (join_joins d user g comment create).canonical hw hd)
    d groups hd

/-- A user belongs to no group by way of another one. -/
def Flat (d : Directory) (user : Reference) : Prop :=
  ∀ g, g ∈ d.groupsOf user ↔ user ∈ d.membersOf g

/-- Where no group that lists a user is a member itself, the user belongs to no group by another. -/
theorem flat_of_not_member (h : ∀ first g, user ∈ d.membersOf first → first ∉ d.membersOf g) :
    d.Flat user := by
  intro g
  rw [mem_groupsOf]
  constructor
  · intro hc
    induction hc with
    | single hm => exact hm
    | tail _ hm ih => exact absurd hm (h _ _ ih)
  · exact fun hm => .single hm

theorem changes_push (hw : user.wiki ≠ "") (ho : d.outages = {})
    (joins creates leaves : List Reference) (comment : String) :
    Changes user (joins.filter (· ∉ d.groupsOf user) ++ creates.filter (· ∉ d.groupsOf user) ++
      leaves.filter (· ∈ d.groupsOf user)) d
      (d.synchronizeMembership user joins creates leaves comment).2 := by
  rw [synchronizeMembership_eq (groups_of_outages ho)]
  exact ((changes_joins hw _ _ _ d).trans (changes_joins hw _ _ _ _)).trans (changes_leaves hw _ _ _)

/-- A push makes of the direct memberships what it is asked to, as far as there are groups to join. -/
theorem push_exact (hw : user.wiki ≠ "") (ho : d.outages = {}) (hd : d.Canonical)
    (hf : d.Flat user) {joins creates leaves : List Reference}
    (hl : ∀ g ∈ leaves, g ∉ joins ∧ g ∉ creates) (comment : String) :
    (∀ g, user ∈ (d.synchronizeMembership user joins creates leaves comment).2.membersOf g ↔
      user ∈ d.membersOf g ∧ g ∉ leaves ∨ g ∈ joins ∧ d.contains g = true ∨ g ∈ creates) ∧
    ∀ g, (d.synchronizeMembership user joins creates leaves comment).2.contains g = true ↔
      d.contains g = true ∨ g ∈ creates := by
  rw [synchronizeMembership_eq (groups_of_outages ho)]
  have c₁ := changes_joins hw comment false (joins.filter (· ∉ d.groupsOf user)) d
  have k₁ := canonical_joins hw hd comment false (joins.filter (· ∉ d.groupsOf user))
  obtain ⟨m₁, e₁⟩ := joins_onEach hw ho comment false
    (joins.filter (· ∉ d.groupsOf user))
  dsimp only
  generalize (onEach (fun d g => d.join user g comment false) d
    (joins.filter (· ∉ d.groupsOf user))).2 = d₁ at *
  have ho₁ := c₁.outages.trans ho
  have c₂ := changes_joins hw comment true (creates.filter (· ∉ d.groupsOf user)) d₁
  have k₂ := canonical_joins hw k₁ comment true (creates.filter (· ∉ d.groupsOf user))
  obtain ⟨m₂, e₂⟩ := joins_onEach hw ho₁ comment true
    (creates.filter (· ∉ d.groupsOf user))
  generalize (onEach (fun d g => d.join user g comment true) d₁
    (creates.filter (· ∉ d.groupsOf user))).2 = d₂ at *
  obtain ⟨m₃, e₃⟩ := leaves_onEach hw (c₂.outages.trans ho₁) k₂ comment
    (leaves.filter (· ∈ d.groupsOf user))
  have hmem : ∀ g, user ∈ d.membersOf g → d.contains g = true := fun g => contains_of_member
  refine ⟨fun g => ?_, fun g => ?_⟩
  · rw [m₃, m₂, m₁]
    simp only [List.mem_filter, decide_eq_true_eq, hf g]
    grind
  · rw [e₃, e₂, e₁]
    simp only [List.mem_filter, decide_eq_true_eq, hf g]
    grind

/-- A push that finds nothing to create or to leave, and nothing to join but missing groups, changes
nothing. -/
theorem push_settled (ho : d.outages = {}) {joins creates leaves : List Reference}
    (hj : ∀ g ∈ joins, g ∉ d.groupsOf user → d.contains g = false)
    (hc : ∀ g ∈ creates, g ∈ d.groupsOf user) (hl : ∀ g ∈ leaves, g ∉ d.groupsOf user) :
    (d.synchronizeMembership user joins creates leaves comment).2 = d := by
  have hcreates : creates.filter (· ∉ d.groupsOf user) = [] := by
    rw [List.filter_eq_nil_iff]
    intro g hg
    simpa using hc g hg
  have hleaves : leaves.filter (· ∈ d.groupsOf user) = [] := by
    rw [List.filter_eq_nil_iff]
    intro g hg
    simpa using hl g hg
  have hjoins : ∀ groups : List Reference, (∀ g ∈ groups, d.contains g = false) →
      (onEach (fun d g => d.join user g comment false) d groups).2 = d := by
    intro groups hg
    induction groups with
    | nil => rfl
    | cons first rest ih =>
      have hf := join_missing user comment (hg first List.mem_cons_self)
      rw [onEach_cons, hf]
      exact ih fun g hr => hg g (List.mem_cons_of_mem _ hr)
  rw [synchronizeMembership_eq (groups_of_outages ho), hcreates, hleaves]
  apply hjoins
  intro g hg
  obtain ⟨hg, hn⟩ := List.mem_filter.1 hg
  exact hj g hg (by simpa using hn)

end IdentityBridge.Directory
