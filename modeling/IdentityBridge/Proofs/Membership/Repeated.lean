import Mathlib
import IdentityBridge.Proofs.Membership.Links

/-! Groups given more than once. Without an outage a group that has been joined stays as it is when it is
joined again, and so does one that has been left and whose page wrote the user as usual. So it does not
matter how often a group occurs among those to be joined or left. -/

namespace IdentityBridge

section

variable {α : Type} [DecidableEq α] {a : α} {l : List α}

/-- The members of a list, each where it first occurs. -/
def distinct (l : List α) : List α := l.foldl (fun set a => insertNew a set) []

theorem distinct_append (l : List α) (a : α) : distinct (l ++ [a]) = insertNew a (distinct l) := by
  rw [distinct, List.foldl_append]
  rfl

@[simp] theorem mem_distinct : a ∈ distinct l ↔ a ∈ l := by
  induction l using List.reverseRecOn with
  | nil => rfl
  | append_singleton l b ih =>
    rw [distinct_append, mem_insertNew, ih, List.mem_append, List.mem_singleton, or_comm]

theorem distinct_append_of_mem (h : a ∈ l) : distinct (l ++ [a]) = distinct l := by
  rw [distinct_append, insertNew, if_pos (mem_distinct.2 h)]

theorem distinct_append_of_not_mem (h : a ∉ l) : distinct (l ++ [a]) = distinct l ++ [a] := by
  rw [distinct_append, insertNew, if_neg (mt mem_distinct.1 h)]

theorem filter_distinct (p : α → Bool) (l : List α) :
    (distinct l).filter p = distinct (l.filter p) := by
  induction l using List.reverseRecOn with
  | nil => rfl
  | append_singleton l b ih =>
    rw [List.filter_append, List.filter_singleton]
    by_cases hb : b ∈ l
    · rw [distinct_append_of_mem hb, ih]
      cases hp : p b with
      | true => rw [cond_true, distinct_append_of_mem (List.mem_filter.2 ⟨hb, hp⟩)]
      | false => rw [cond_false, List.append_nil]
    · have hn : b ∉ l.filter p := fun h => hb (List.mem_filter.1 h).1
      rw [distinct_append_of_not_mem hb, List.filter_append, List.filter_singleton, ih]
      cases p b with
      | true => rw [cond_true, distinct_append_of_not_mem hn]
      | false => rw [cond_false, List.append_nil, List.append_nil]

end

namespace Directory

variable {d : Directory} {user group : Reference} {groups : List Reference} {comment : String}
  {create : Bool} {r : Bool × Directory}

theorem onEach_append (operation : Directory → Reference → Bool × Directory) (d : Directory)
    (groups : List Reference) (group : Reference) :
    onEach operation d (groups ++ [group]) =
      ((onEach operation d groups).1 && (operation (onEach operation d groups).2 group).1,
        (operation (onEach operation d groups).2 group).2) := by
  rw [onEach, List.foldl_append]
  rfl

/-- An operation that has nothing left to do where it was done need not be repeated. -/
theorem onEach_distinct {operation : Directory → Reference → Bool × Directory}
    (h : ∀ groups, ∀ group ∈ groups,
      onEach operation d (groups ++ [group]) = onEach operation d groups)
    (groups : List Reference) : onEach operation d (distinct groups) = onEach operation d groups := by
  induction groups using List.reverseRecOn with
  | nil => rfl
  | append_singleton groups group ih =>
    by_cases hg : group ∈ groups
    · rw [distinct_append_of_mem hg, ih, h groups group hg]
    · rw [distinct_append_of_not_mem hg, onEach_append, onEach_append, ih]

/-! ### Joining again -/

theorem Joins.kept (h : Joins d user group comment create r) {g : Reference} {text : String}
    (ht : text ∈ (d.page g).memberEntries) : text ∈ (r.2.page g).memberEntries := by
  have he := h.memberEntries
  cases h with
  | refused => exact ht
  | listed => exact ht
  | added =>
    by_cases hg : g = group
    · subst hg
      rcases he with he | ⟨-, he⟩
      · rwa [he]
      · rw [he]
        exact List.mem_append_left _ ht
    · rwa [page_put, reference_add, if_neg (Ne.symm hg)]

/-- A group that is joined writes the user, unless it is missing and may not be created. -/
theorem Joins.written (h : Joins d user group comment create r) (ho : d.outages = {}) :
    Page.memberName group user ∈ (r.2.page group).memberEntries ∨
      r.1 = false ∧ create = false ∧ r.2.contains group = false := by
  cases hd : r.1 with
  | true => exact .inl (h.writes hd)
  | false =>
    cases h with
    | refused hm => exact .inr ⟨rfl, (hm ho).2, (hm ho).1⟩
    | listed => cases hd
    | added => cases hd

/-- So do groups that are joined one after another. -/
theorem written_joins (hw : user.wiki ≠ "") (ho : d.outages = {}) (comment : String) (create : Bool)
    (hg : group ∈ groups) :
    Page.memberName group user ∈
        ((onEach (fun d g => d.join user g comment create) d groups).2.page group).memberEntries ∨
      (onEach (fun d g => d.join user g comment create) d groups).1 = false ∧ create = false ∧
        (onEach (fun d g => d.join user g comment create) d groups).2.contains group = false := by
  induction groups using List.reverseRecOn with
  | nil => cases hg
  | append_singleton groups last ih =>
    have ho' := (changes_joins hw comment create groups d).outages.trans ho
    rw [onEach_append]
    generalize onEach (fun d g => d.join user g comment create) d groups = r at *
    have hj := join_joins r.2 user last comment create
    rw [List.mem_append, List.mem_singleton] at hg
    by_cases hl : group = last
    · subst hl
      rcases hj.written ho' with ht | ⟨hf, hc, hm⟩
      · exact .inl ht
      · exact .inr ⟨by rw [hf, Bool.and_false], hc, hm⟩
    · rcases ih (hg.resolve_right hl) with ht | ⟨hf, hc, hm⟩
      · exact .inl (hj.kept ht)
      · refine .inr ⟨by rw [hf, Bool.false_and], hc, ?_⟩
        rw [← Bool.not_eq_true, hj.contains ho', hm, hc]
        simp

theorem join_of_written (ho : d.outages = {})
    (h : Page.memberName group user ∈ (d.page group).memberEntries) :
    d.join user group comment create = (true, d) := by
  have hj := join_joins d user group comment create
  generalize d.join user group comment create = r at hj
  cases hj with
  | refused hm =>
    have hc := contains_of_entry h
    rw [(hm ho).1] at hc
    cases hc
  | listed => rfl
  | added hn => exact absurd h hn

theorem join_repeated (hw : user.wiki ≠ "") (ho : d.outages = {}) (hg : group ∈ groups) :
    onEach (fun d g => d.join user g comment create) d (groups ++ [group]) =
      onEach (fun d g => d.join user g comment create) d groups := by
  have ho' := (changes_joins hw comment create groups d).outages.trans ho
  rw [onEach_append]
  rcases written_joins hw ho comment create hg with ht | ⟨hf, rfl, hm⟩
  · rw [join_of_written ho' ht, Bool.and_true]
  · rw [join_missing user comment hm, hf, Bool.false_and]
    exact Prod.ext hf.symm rfl

/-! ### Leaving again -/

theorem Leaves.contains_of_done (h : Leaves d user group comment r) (hd : r.1 = true) :
    r.2.contains group = true := by
  rw [h.contains]
  cases h with
  | refused => cases hd
  | unlisted _ hc => exact hc
  | removed o ho =>
    exact contains_of_entry (Page.mem_memberEntries_of_find? (memberName_ne_empty group user) ho)

theorem contains_leaves (groups : List Reference) (g : Reference) :
    (onEach (fun d g => d.leave user g comment) d groups).2.contains g = d.contains g :=
  onEach_rel (R := fun d d' => d'.contains g = d.contains g) (fun _ => rfl) (fun h h' => h'.trans h)
    (fun d g' => (leave_leaves d user g' comment).contains g) d groups

/-- Groups that are left with success are there. -/
theorem contains_of_leaves_done (hg : group ∈ groups)
    (h : (onEach (fun d g => d.leave user g comment) d groups).1 = true) :
    (onEach (fun d g => d.leave user g comment) d groups).2.contains group = true := by
  induction groups generalizing d with
  | nil => cases hg
  | cons first rest ih =>
    rw [onEach_cons] at h ⊢
    rw [Bool.and_eq_true] at h
    rcases List.mem_cons.1 hg with rfl | hg
    · dsimp only
      rw [contains_leaves]
      exact (leave_leaves d user group comment).contains_of_done h.1
    · exact ih hg h.2

theorem leave_of_not_written (ho : d.outages = {})
    (h : Page.memberName group user ∉ (d.page group).memberEntries) :
    d.leave user group comment = (d.contains group, d) := by
  have hl := leave_leaves d user group comment
  generalize d.leave user group comment = r at hl
  cases hl with
  | refused hm => rw [hm ho]
  | unlisted _ hc => rw [hc]
  | removed o hf =>
    exact absurd (Page.mem_memberEntries_of_find? (memberName_ne_empty group user) hf) h

theorem leave_repeated (hw : user.wiki ≠ "") (ho : d.outages = {}) (hd : d.Usual)
    (hg : group ∈ groups) :
    onEach (fun d g => d.leave user g comment) d (groups ++ [group]) =
      onEach (fun d g => d.leave user g comment) d groups := by
  have ho' := (changes_leaves hw comment groups d).outages.trans ho
  have hout : user ∉ (onEach (fun d g => d.leave user g comment) d groups).2.membersOf group :=
    not_mem_leaves hw ho hg (hd.entriesFor user group)
  have hn : Page.memberName group user ∉
      ((onEach (fun d g => d.leave user g comment) d groups).2.page group).memberEntries := by
    intro ht
    refine hout ?_
    rw [membersOf_eq_map, List.mem_map]
    exact ⟨_, ht, resolveOn_memberName hw group⟩
  rw [onEach_append, leave_of_not_written ho' hn]
  cases h : (onEach (fun d g => d.leave user g comment) d groups).1 with
  | true =>
    rw [contains_of_leaves_done hg h, Bool.and_true]
    exact Prod.ext h.symm rfl
  | false =>
    rw [Bool.false_and]
    exact Prod.ext h.symm rfl

/-! ### Pushes -/

theorem Joins.usual (h : Joins d user group comment create r) (hw : user.wiki ≠ "")
    (hd : d.Usual) : r.2.Usual := by
  have hother (g : Reference) (hg : g ≠ group) : r.2.page g = d.page g :=
    (h.changes hw).page g (by simpa using hg)
  rcases h.memberEntries with he | ⟨hn, he⟩
  · refine hd.of_entries fun g => ?_
    by_cases hg : g = group
    · rw [hg, he]
    · rw [hother g hg]
  · refine hd.append (fun g hg => by rw [hother g hg]) he ?_ hn
    rw [resolveOn_memberName hw]

theorem usual_joins (hw : user.wiki ≠ "") (hd : d.Usual) (comment : String) (create : Bool)
    (groups : List Reference) :
    (onEach (fun d g => d.join user g comment create) d groups).2.Usual :=
  onEach_rel (R := fun d d' => d.Usual → d'.Usual) (fun _ hd => hd) (fun h h' hd => h' (h hd))
    (fun d g hd => (join_joins d user g comment create).usual hw hd) d groups hd

/-- A push does with each group what it does with the first mention of it. -/
theorem push_distinct (hw : user.wiki ≠ "") (ho : d.outages = {}) (hd : d.Usual)
    (joins creates leaves : List Reference) (comment : String) :
    d.synchronizeMembership user (distinct joins) (distinct creates) (distinct leaves) comment =
      d.synchronizeMembership user joins creates leaves comment := by
  have hjoin {d : Directory} (ho : d.outages = {}) (create : Bool) (groups : List Reference) :
      onEach (fun d g => d.join user g comment create) d (distinct groups) =
        onEach (fun d g => d.join user g comment create) d groups :=
    onEach_distinct (fun _ _ hg => join_repeated hw ho hg) groups
  have hleave {d : Directory} (ho : d.outages = {}) (hd : d.Usual) (groups : List Reference) :
      onEach (fun d g => d.leave user g comment) d (distinct groups) =
        onEach (fun d g => d.leave user g comment) d groups :=
    onEach_distinct (fun _ _ hg => leave_repeated hw ho hd hg) groups
  have ho₁ (groups : List Reference) := (changes_joins hw comment false groups d).outages.trans ho
  have hd₁ (groups : List Reference) := usual_joins hw hd comment false groups
  rw [synchronizeMembership_eq (groups_of_outages ho), synchronizeMembership_eq (groups_of_outages ho)]
  simp only [filter_distinct]
  rw [hjoin ho, hjoin (ho₁ _), hleave ((changes_joins hw comment true _ _).outages.trans (ho₁ _))
    (usual_joins hw (hd₁ _) comment true _)]

end Directory

end IdentityBridge
