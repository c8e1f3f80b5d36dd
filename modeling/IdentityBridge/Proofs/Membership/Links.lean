import Mathlib
import IdentityBridge.Directory.Shards
import IdentityBridge.Proofs.Membership.Departure

/-! Linking shards. A shard lies beside its group under a longer name, and linking makes it a member of
the group. Without an outage the memberships of a directory grow by just these links, and a directory
whose pages write each member once and as usual stays one. -/

namespace IdentityBridge

namespace Shards

variable {s : Shards} {group user : Reference}

theorem shardOf_of_not_splits (h : s.splits group = false) (user : Reference) :
    s.shardOf group user = group := by
  rw [shardOf, if_neg (by simp [h])]

theorem wiki_shardOf (s : Shards) (group user : Reference) :
    (s.shardOf group user).wiki = group.wiki := by
  unfold shardOf
  split <;> rfl

theorem length_shardOf (h : s.splits group = true) (user : Reference) :
    (s.shardOf group user).name.length = group.name.length + 7 := by
  have hsuffix : "-Shard".length = 6 := rfl
  simp [shardOf, h, Reference.sibling, hsuffix]

theorem shardOf_ne (h : s.splits group = true) (user : Reference) : s.shardOf group user ≠ group := by
  intro he
  have hlength := length_shardOf h user
  rw [he] at hlength
  omega

theorem shardOf_eq_self : s.shardOf group user = group ↔ s.splits group = false := by
  constructor
  · intro h
    rw [← Bool.not_eq_true]
    exact fun hs => shardOf_ne hs user h
  · exact fun h => shardOf_of_not_splits h user

end Shards

namespace Directory

variable {d d' : Directory} {group shard user : Reference} {s : Shards}

theorem memberName_of_wiki (h : shard.wiki = group.wiki) :
    Page.memberName group shard = shard.localForm := if_pos h

/-- A page with one more entry in the usual form, which it did not have. -/
theorem Usual.append (h : d.Usual) {text : String}
    (hother : ∀ g, g ≠ group → (d'.page g).memberEntries = (d.page g).memberEntries)
    (he : (d'.page group).memberEntries = (d.page group).memberEntries ++ [text])
    (ht : text = Page.memberName group (Reference.resolveOn group text))
    (hn : text ∉ (d.page group).memberEntries) : d'.Usual := by
  refine ⟨fun g t hm => ?_, fun g => ?_⟩
  · by_cases hg : g = group
    · subst hg
      rw [he, List.mem_append, List.mem_singleton] at hm
      rcases hm with hm | rfl
      · exact h.written g t hm
      · exact ht
    · rw [hother g hg] at hm
      exact h.written g t hm
  · by_cases hg : g = group
    · subst hg
      rw [he, ← List.concat_eq_append]
      exact (h.nodup g).concat hn
    · rw [hother g hg]
      exact h.nodup g

/-! ### One link -/

/-- A directory has got new memberships, and none else. -/
structure Linked (new : Reference → Reference → Prop) (d d' : Directory) : Prop where
  outages : d'.outages = d.outages
  usual : d.Usual → d'.Usual
  members (m g : Reference) : m ∈ d'.membersOf g ↔ m ∈ d.membersOf g ∨ new m g

theorem Linked.refl (d : Directory) : Linked (fun _ _ => False) d d :=
  ⟨rfl, id, fun _ _ => (or_iff_left not_false).symm⟩

theorem Linked.trans {d₁ d₂ d₃ : Directory} {new new' : Reference → Reference → Prop}
    (h : Linked new d₁ d₂) (h' : Linked new' d₂ d₃) :
    Linked (fun m g => new m g ∨ new' m g) d₁ d₃ := by
  refine ⟨h'.outages.trans h.outages, fun hd => h'.usual (h.usual hd), fun m g => ?_⟩
  rw [h'.members, h.members, or_assoc]

theorem linkShard_eq (ho : d.outages = {}) (group shard : Reference) :
    d.linkShard group shard =
      if shard ∈ d.membersOf group then d
      else d.put ((d.page group).add Page.groupClass
        (.ofList [(Page.memberProperty, Page.memberName group shard)]))
        ("Add shard [" ++ shard.name ++ "]") := by
  unfold linkShard attempt
  rw [members_of_outages ho, Outcome.ok_bind, load_of_outages ho]
  by_cases h : shard ∈ d.membersOf group
  · rw [if_pos (List.contains_iff_mem.2 h), if_pos h]
    rfl
  · rw [if_neg (mt List.contains_iff_mem.1 h), if_neg h, Outcome.ok_bind]
    simp only [save_of_outages ho, Outcome.ok_bind]
    rfl

/-- Linking a shard on its wiki makes it a member of its group, if it is not one. -/
theorem linkShard_linked (ho : d.outages = {}) (hw : shard.wiki = group.wiki) :
    Linked (fun m g => g = group ∧ m = shard) d (d.linkShard group shard) := by
  rw [linkShard_eq ho]
  by_cases h : shard ∈ d.membersOf group
  · rw [if_pos h]
    refine ⟨rfl, id, fun m g => ⟨.inl, fun hm => hm.elim id ?_⟩⟩
    rintro ⟨rfl, rfl⟩
    exact h
  rw [if_neg h]
  have hread : Reference.resolveOn group (Page.memberName group shard) = shard := by
    rw [memberName_of_wiki hw, Reference.resolveOn_localForm hw]
  have hreference := reference_add d group Page.groupClass
    (.ofList [(Page.memberProperty, Page.memberName group shard)])
  have hentries : ((d.page group).add Page.groupClass (.ofList
      [(Page.memberProperty, Page.memberName group shard)])).memberEntries =
        (d.page group).memberEntries ++ [Page.memberName group shard] :=
    Page.memberEntries_add _ (memberName_ne_empty group shard)
  refine ⟨rfl, fun hd => ?_, fun m g => ?_⟩
  · refine hd.append (fun g hg => ?_) ((memberEntries_put d hreference _).trans hentries)
      (congrArg _ hread.symm) fun hn => h ?_
    · rw [page_put, hreference, if_neg (Ne.symm hg)]
    · rw [membersOf_eq_map, ← hread]
      exact List.mem_map_of_mem hn
  · rw [membersOf_put, hreference, hentries]
    by_cases hg : group = g
    · subst hg
      rw [if_pos rfl, List.map_append, ← membersOf_eq_map, List.map_singleton, hread, List.mem_append,
        List.mem_singleton, and_iff_right rfl]
    · rw [if_neg hg]
      exact ⟨.inl, fun hm => hm.elim id fun hm => absurd hm.1.symm hg⟩

/-! ### The links of a user -/

/-- Linking the shards of a user makes each a member of its group. -/
theorem linkShards_linked (ho : d.outages = {}) (s : Shards) (user : Reference)
    (groups : List Reference) :
    Linked (fun m g => g ∈ groups ∧ s.splits g = true ∧ m = s.shardOf g user) d
      (d.linkShards s user groups) := by
  induction groups generalizing d with
  | nil => simpa [linkShards] using Linked.refl d
  | cons first rest ih =>
    have hfirst : Linked (fun m g => g = first ∧ s.splits g = true ∧ m = s.shardOf g user) d
        (if s.shardOf first user = first then d else d.linkShard first (s.shardOf first user)) := by
      by_cases h : s.shardOf first user = first
      · rw [if_pos h]
        refine ⟨rfl, id, fun m g => ⟨.inl, fun hm => hm.elim id ?_⟩⟩
        rintro ⟨rfl, hs, -⟩
        exact absurd h (Shards.shardOf_ne hs user)
      · rw [if_neg h]
        have hlink := linkShard_linked ho (s.wiki_shardOf first user)
        refine ⟨hlink.outages, hlink.usual, fun m g => ?_⟩
        rw [hlink.members]
        refine or_congr_right (and_congr_right ?_)
        rintro rfl
        rw [and_iff_right]
        rw [← Bool.not_eq_false]
        exact mt Shards.shardOf_eq_self.2 h
    have hrest := hfirst.trans (ih (hfirst.outages.trans ho))
    refine ⟨hrest.outages, hrest.usual, fun m g => ?_⟩
    rw [List.mem_cons, or_and_right]
    exact hrest.members m g

/-- Groups without shards are not linked. -/
theorem linkShards_of_not_splits (d : Directory) (user : Reference) {groups : List Reference}
    (h : ∀ g ∈ groups, s.splits g = false) : d.linkShards s user groups = d := by
  induction groups with
  | nil => rfl
  | cons first rest ih =>
    rw [linkShards, List.foldl_cons]
    simp only [s.shardOf_of_not_splits (h first List.mem_cons_self) user, if_true]
    exact ih fun g hg => h g (List.mem_cons_of_mem _ hg)

end Directory

end IdentityBridge
