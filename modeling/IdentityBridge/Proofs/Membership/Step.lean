import IdentityBridge.Proofs.Membership.Closure
import IdentityBridge.Proofs.Membership.Entries

/-! What joining and leaving a group come to. Either the operation is refused and changes nothing, or
there is nothing to change, or the page of the group is saved with one entry more or less. So only the
memberships of the user in that group change, and this carries over to a sequence of operations. -/

namespace IdentityBridge.Directory

variable {d d' : Directory} {user group : Reference} {comment : String} {create : Bool}

/-! ### Access -/

theorem reach_of_outages (h : d.outages = {}) (access : Access) (page : Reference) :
    d.reach access page = .ok () := by
  rw [reach, h]
  cases access <;> rfl

theorem load_of_outages (h : d.outages = {}) (page : Reference) : d.load page = .ok (d.page page) := by
  rw [load, reach_of_outages h]
  rfl

theorem save_of_outages (h : d.outages = {}) (p : Page) (comment : String) :
    d.save p comment = .ok (d.put p comment) := by
  rw [save, reach_of_outages h]
  rfl

theorem members_of_outages (h : d.outages = {}) : d.members group = .ok (d.membersOf group) := by
  rw [members, reach_of_outages h]
  rfl

/-- A page is loaded as it is unless there is an outage. -/
theorem load_cases (d : Directory) (group : Reference) :
    d.load group = .ok (d.page group) ∨ (∃ e, d.load group = .error e) ∧ d.outages ≠ {} := by
  unfold load
  cases h : d.reach .reading group with
  | ok u => exact .inl rfl
  | error e =>
    refine .inr ⟨⟨e, rfl⟩, fun ho => ?_⟩
    rw [reach_of_outages ho] at h
    cases h

/-- A page is saved unless there is an outage. -/
theorem save_cases (d : Directory) (p : Page) (comment : String) :
    d.save p comment = .ok (d.put p comment) ∨
      (∃ e, d.save p comment = .error e) ∧ d.outages ≠ {} := by
  unfold save
  cases h : d.reach .saving p.reference with
  | ok u => exact .inl rfl
  | error e =>
    refine .inr ⟨⟨e, rfl⟩, fun ho => ?_⟩
    rw [reach_of_outages ho] at h
    cases h

/-- The groups of a user are known unless there is an outage. -/
theorem groups_cases (d : Directory) (user : Reference) :
    d.groups user = .ok (d.groupsOf user) ∨ (∃ e, d.groups user = .error e) ∧ d.outages ≠ {} := by
  unfold groups
  by_cases hq : d.outages.groupQuery = true
  · refine .inr ⟨⟨.groupQueryFailed, by rw [if_pos hq]; rfl⟩, fun ho => ?_⟩
    rw [ho] at hq
    cases hq
  · rw [if_neg hq]
    cases h : d.reach .groups user with
    | ok u => exact .inl rfl
    | error e =>
      refine .inr ⟨⟨_, rfl⟩, fun ho => ?_⟩
      rw [reach_of_outages ho] at h
      cases h

theorem groups_of_outages (h : d.outages = {}) : d.groups user = .ok (d.groupsOf user) := by
  rcases groups_cases d user with hg | ⟨-, ho⟩
  · exact hg
  · exact absurd h ho

/-- Whether the groups can be told depends on the outages alone. -/
theorem groups_fails (ho : d'.outages = d.outages) (h : Outcome.Fails (d.groups user)) :
    Outcome.Fails (d'.groups user) := by
  have hreach : d'.reach .groups user = d.reach .groups user := by rw [reach, reach, ho]
  unfold groups at h ⊢
  rw [ho, hreach]
  by_cases hq : d.outages.groupQuery = true
  · simp [hq, Outcome.throw_eq]
  · cases hr : d.reach .groups user with
    | error e => simp [hq, Outcome.throw_eq]
    | ok u => simp [hq, hr] at h

/-! ### Single steps -/

/-- What joining a group comes to. -/
inductive Joins (d : Directory) (user group : Reference) (comment : String) (create : Bool) :
    Bool × Directory → Prop where
  /-- Without an outage only a group that is missing and may not be created is refused. -/
  | refused (h : d.outages = {} → d.contains group = false ∧ create = false) :
      Joins d user group comment create (false, d)
  | listed (h : Page.memberName group user ∈ (d.page group).memberEntries) :
      Joins d user group comment create (true, d)
  | added (hn : Page.memberName group user ∉ (d.page group).memberEntries)
      (hc : d.contains group = true ∨ create = true) :
      Joins d user group comment create (true, d.put ((d.page group).add Page.groupClass
        (.ofList [(Page.memberProperty, Page.memberName group user)])) comment)

/-- What leaving a group comes to. -/
inductive Leaves (d : Directory) (user group : Reference) (comment : String) :
    Bool × Directory → Prop where
  /-- Without an outage only a group that is missing is refused. -/
  | refused (h : d.outages = {} → d.contains group = false) : Leaves d user group comment (false, d)
  | unlisted (h : Page.memberName group user ∉ (d.page group).memberEntries)
      (hc : d.contains group = true) : Leaves d user group comment (true, d)
  | removed (o : PageObject) (h : (d.page group).find? Page.groupClass Page.memberProperty
        (Page.memberName group user) = some o) :
      Leaves d user group comment
        (true, d.put ((d.page group).remove o.className o.number) comment)

theorem join_joins (d : Directory) (user group : Reference) (comment : String) (create : Bool) :
    Joins d user group comment create (d.join user group comment create) := by
  have hne := memberName_ne_empty group user
  unfold join attempt
  rcases load_cases d group with hl | ⟨⟨e, hl⟩, ho⟩
  · rw [hl, Outcome.ok_bind]
    by_cases hm : (d.page group).isNew && !create
    · rw [if_pos hm]
      rw [isNew_page, Bool.and_eq_true, Bool.not_eq_true', Bool.not_eq_true'] at hm
      exact .refused fun _ => hm
    rw [if_neg hm]
    have hc : d.contains group = true ∨ create = true := by
      rw [isNew_page] at hm
      cases hg : d.contains group with
      | true => exact .inl rfl
      | false => cases create <;> simp_all
    dsimp only
    cases hf : (d.page group).find? Page.groupClass Page.memberProperty
        (Page.memberName group user) with
    | some o => exact .listed (Page.mem_memberEntries_of_find? hne hf)
    | none =>
      have hn := (Page.find?_member_eq_none hne).1 hf
      rcases save_cases d ((d.page group).add Page.groupClass
        (.ofList [(Page.memberProperty, Page.memberName group user)])) comment with hs | ⟨⟨e, hs⟩, ho⟩
      · simp only [hs, Outcome.ok_bind]
        exact .added hn hc
      · simp only [hs, Outcome.error_bind]
        exact .refused fun h => absurd h ho
  · rw [hl, Outcome.error_bind]
    exact .refused fun h => absurd h ho

theorem leave_leaves (d : Directory) (user group : Reference) (comment : String) :
    Leaves d user group comment (d.leave user group comment) := by
  have hne := memberName_ne_empty group user
  unfold leave attempt
  rcases load_cases d group with hl | ⟨⟨e, hl⟩, ho⟩
  · rw [hl, Outcome.ok_bind]
    by_cases hm : (d.page group).isNew
    · rw [if_pos hm]
      rw [isNew_page, Bool.not_eq_true'] at hm
      exact .refused fun _ => hm
    rw [if_neg hm]
    have hc : d.contains group = true := by simpa [isNew_page] using hm
    cases hf : (d.page group).find? Page.groupClass Page.memberProperty
        (Page.memberName group user) with
    | none => exact .unlisted ((Page.find?_member_eq_none hne).1 hf) hc
    | some o =>
      rcases save_cases d ((d.page group).remove o.className o.number) comment with
        hs | ⟨⟨e, hs⟩, ho⟩
      · simp only [hs, Outcome.ok_bind]
        exact .removed o hf
      · simp only [hs, Outcome.error_bind]
        exact .refused fun h => absurd h ho
  · rw [hl, Outcome.error_bind]
    exact .refused fun h => absurd h ho

/-! ### What a step leaves alone -/

/-- Only memberships of one user, in some groups, are changed. -/
structure Changes (user : Reference) (groups : List Reference) (d d' : Directory) : Prop where
  agree : AgreeBut user d d'
  page : ∀ g, g ∉ groups → d'.page g = d.page g
  contains : ∀ g, g ∉ groups → d'.contains g = d.contains g
  outages : d'.outages = d.outages

theorem Changes.refl (user : Reference) (groups : List Reference) (d : Directory) :
    Changes user groups d d := ⟨.refl user d, fun _ _ => rfl, fun _ _ => rfl, rfl⟩

theorem Changes.trans {d₁ d₂ d₃ : Directory} {groups groups' : List Reference}
    (h : Changes user groups d₁ d₂) (h' : Changes user groups' d₂ d₃) :
    Changes user (groups ++ groups') d₁ d₃ := by
  refine ⟨h.agree.trans h'.agree, fun g hg => ?_, fun g hg => ?_, h'.outages.trans h.outages⟩
  · rw [List.mem_append, not_or] at hg
    rw [h'.page g hg.2, h.page g hg.1]
  · rw [List.mem_append, not_or] at hg
    rw [h'.contains g hg.2, h.contains g hg.1]

theorem Changes.membersOf {groups : List Reference} (h : Changes user groups d d') {g : Reference}
    (hg : g ∉ groups) : d'.membersOf g = d.membersOf g := by
  rw [membersOf_eq_map, membersOf_eq_map, h.page g hg]

/-- Saving the page of a group changes memberships in this group alone. -/
theorem changes_put {p : Page} (hp : p.reference = group)
    (h : ∀ m, m ≠ user → (m ∈ (d.put p comment).membersOf group ↔ m ∈ d.membersOf group)) :
    Changes user [group] d (d.put p comment) := by
  have hpage : ∀ g, g ∉ [group] → (d.put p comment).page g = d.page g := by
    intro g hg
    rw [List.mem_singleton] at hg
    rw [page_put, hp, if_neg (Ne.symm hg)]
  refine ⟨fun m g hm => ?_, hpage, fun g hg => ?_, rfl⟩
  · by_cases hg : g = group
    · subst hg
      exact h m hm
    · rw [membersOf_eq_map, hpage g (by simpa using hg), ← membersOf_eq_map]
  · rw [List.mem_singleton] at hg
    rw [contains_put, hp, decide_eq_false (Ne.symm hg), Bool.false_or]

theorem memberEntries_put (d : Directory) {p : Page} (hp : p.reference = group) (comment : String) :
    ((d.put p comment).page group).memberEntries = p.memberEntries := by
  rw [page_put, if_pos hp]
  rfl

theorem membersOf_put (d : Directory) (p : Page) (comment : String) (g : Reference) :
    (d.put p comment).membersOf g =
      if p.reference = g then p.memberEntries.map (Reference.resolveOn g) else d.membersOf g := by
  rw [membersOf_eq_map]
  by_cases hg : p.reference = g
  · rw [if_pos hg, memberEntries_put d hg]
  · rw [if_neg hg, page_put, if_neg hg, membersOf_eq_map]

theorem reference_add (d : Directory) (group : Reference) (className : String) (fields : Fields) :
    ((d.page group).add className fields).reference = group := reference_page d group

theorem reference_remove (d : Directory) (group : Reference) (className : String) (number : Nat) :
    ((d.page group).remove className number).reference = group := reference_page d group

/-! ### Joining -/

variable {r : Bool × Directory}

/-- A group that is joined lists one more entry, unless it has listed the user before. -/
theorem Joins.memberEntries (h : Joins d user group comment create r) :
    (r.2.page group).memberEntries = (d.page group).memberEntries ∨
      Page.memberName group user ∉ (d.page group).memberEntries ∧
      (r.2.page group).memberEntries =
        (d.page group).memberEntries ++ [Page.memberName group user] := by
  cases h with
  | refused => exact .inl rfl
  | listed => exact .inl rfl
  | added hn _ =>
    rw [memberEntries_put d (reference_add d group _ _),
      Page.memberEntries_add _ (memberName_ne_empty group user)]
    exact .inr ⟨hn, rfl⟩

theorem Joins.changes (hw : user.wiki ≠ "") (h : Joins d user group comment create r) :
    Changes user [group] d r.2 := by
  have he := h.memberEntries
  cases h with
  | refused => exact .refl user [group] d
  | listed => exact .refl user [group] d
  | added hn _ =>
    apply changes_put (reference_add d group _ _)
    intro m hm
    rw [membersOf_eq_map, membersOf_eq_map]
    rcases he with he | ⟨-, he⟩
    · rw [he]
    · rw [he, List.map_append, List.map_singleton, resolveOn_memberName hw, List.mem_append,
        List.mem_singleton, or_iff_left hm]

theorem Joins.mono (hw : user.wiki ≠ "") (h : Joins d user group comment create r)
    {m g : Reference} (hm : m ∈ d.membersOf g) : m ∈ r.2.membersOf g := by
  by_cases hg : g ∈ [group]
  · rw [List.mem_singleton] at hg
    subst hg
    rw [membersOf_eq_map] at hm ⊢
    rcases h.memberEntries with he | ⟨-, he⟩
    · rwa [he]
    · rw [he, List.map_append]
      exact List.mem_append_left _ hm
  · rwa [(h.changes hw).membersOf hg]

/-- Joining succeeds only where the name of the user is then written on the page. -/
theorem Joins.writes (h : Joins d user group comment create r) (hd : r.1 = true) :
    Page.memberName group user ∈ (r.2.page group).memberEntries := by
  cases h with
  | refused => cases hd
  | listed h => exact h
  | added =>
    rw [memberEntries_put d (reference_add d group _ _),
      Page.memberEntries_add _ (memberName_ne_empty group user)]
    exact List.mem_append_right _ (List.mem_singleton.2 rfl)

theorem Joins.mem_of_done (hw : user.wiki ≠ "")
    (h : Joins d user group comment create r) (hd : r.1 = true) : user ∈ r.2.membersOf group := by
  rw [membersOf_eq_map, List.mem_map]
  exact ⟨Page.memberName group user, h.writes hd, resolveOn_memberName hw group⟩

/-! ### Leaving -/

/-- A group that is left loses the first entry of the user. -/
theorem Leaves.memberEntries (h : Leaves d user group comment r) :
    (r.2.page group).memberEntries = (d.page group).memberEntries ∨
      (r.2.page group).memberEntries =
        (d.page group).memberEntries.erase (Page.memberName group user) := by
  cases h with
  | refused => exact .inl rfl
  | unlisted => exact .inl rfl
  | removed o ho =>
    rw [memberEntries_put d (reference_remove d group _ _),
      Page.memberEntries_remove (memberName_ne_empty group user) ho]
    exact .inr rfl

theorem Leaves.changes (hw : user.wiki ≠ "") (h : Leaves d user group comment r) :
    Changes user [group] d r.2 := by
  have he := h.memberEntries
  cases h with
  | refused => exact .refl user [group] d
  | unlisted => exact .refl user [group] d
  | removed o ho =>
    apply changes_put (reference_remove d group _ _)
    intro m hm
    rw [membersOf_eq_map, membersOf_eq_map]
    rcases he with he | he
    · rw [he]
    · rw [he, List.mem_map, List.mem_map]
      constructor
      · rintro ⟨text, ht, hr⟩
        exact ⟨text, List.mem_of_mem_erase ht, hr⟩
      · rintro ⟨text, ht, rfl⟩
        refine ⟨text, (List.mem_erase_of_ne ?_).2 ht, rfl⟩
        rintro rfl
        exact hm (resolveOn_memberName hw group)

theorem Leaves.anti (hw : user.wiki ≠ "") (h : Leaves d user group comment r)
    {m g : Reference} (hm : m ∈ r.2.membersOf g) : m ∈ d.membersOf g := by
  by_cases hg : g ∈ [group]
  · rw [List.mem_singleton] at hg
    subst hg
    rw [membersOf_eq_map] at hm ⊢
    rcases h.memberEntries with he | he
    · rwa [he] at hm
    · rw [he] at hm
      exact List.map_subset _ List.erase_subset hm
  · rwa [(h.changes hw).membersOf hg] at hm

/-! ### Sequences of steps -/

theorem onEach_from (operation : Directory → Reference → Bool × Directory) (success : Bool)
    (d : Directory) (groups : List Reference) :
    groups.foldl (fun (success, d) group =>
      let (done, d) := operation d group
      (success && done, d)) (success, d) =
      (success && (onEach operation d groups).1, (onEach operation d groups).2) := by
  induction groups generalizing success d with
  | nil => simp [onEach]
  | cons group rest ih =>
    rw [onEach, List.foldl_cons, List.foldl_cons]
    simp only [ih, Bool.true_and, Bool.and_assoc]

theorem onEach_cons (operation : Directory → Reference → Bool × Directory) (d : Directory)
    (group : Reference) (rest : List Reference) :
    onEach operation d (group :: rest) =
      ((operation d group).1 && (onEach operation (operation d group).2 rest).1,
        (onEach operation (operation d group).2 rest).2) := by
  rw [onEach, List.foldl_cons]
  simp only [onEach_from, Bool.true_and]

/-- Operations that change one group each change the given groups together. -/
theorem onEach_changes {operation : Directory → Reference → Bool × Directory}
    (h : ∀ d g, Changes user [g] d (operation d g).2) (groups : List Reference) (d : Directory) :
    Changes user groups d (onEach operation d groups).2 := by
  induction groups generalizing d with
  | nil => exact .refl user [] d
  | cons group rest ih =>
    rw [onEach_cons]
    exact (h d group).trans (ih _)

/-- What each operation keeps in a relation, all of them together do. -/
theorem onEach_rel {R : Directory → Directory → Prop} (refl : ∀ d, R d d)
    (trans : ∀ {d₁ d₂ d₃}, R d₁ d₂ → R d₂ d₃ → R d₁ d₃)
    {operation : Directory → Reference → Bool × Directory} (h : ∀ d g, R d (operation d g).2)
    (d : Directory) (groups : List Reference) : R d (onEach operation d groups).2 := by
  induction groups generalizing d with
  | nil => exact refl d
  | cons group rest ih =>
    rw [onEach_cons]
    exact trans (h d group) (ih _)

end IdentityBridge.Directory
