import Mathlib
import IdentityBridge.Proofs.Membership.Flat

/-! What leaving a group comes to for the one who leaves. A page may write a member several times and in
several forms, and every entry counts when the members are read; leaving takes away one entry in the
form that joining writes. So whoever leaves is out of the group just if the page listed the user at most
once, and in that form. Where every page does so, a push takes the user out of all groups to be left. -/

namespace IdentityBridge.Directory

variable {d d' : Directory} {user group : Reference} {comment : String} {r : Bool × Directory}

/-! ### The entries of a member -/

/-- The entries of a group that name a member, as they are written. -/
def entriesFor (d : Directory) (member group : Reference) : List String :=
  (d.page group).memberEntries.filter fun text => Reference.resolveOn group text = member

theorem mem_entriesFor {text : String} : text ∈ d.entriesFor user group ↔
    text ∈ (d.page group).memberEntries ∧ Reference.resolveOn group text = user := by
  simp [entriesFor]

/-- A group lists a user just if some entry names the user. -/
theorem mem_membersOf_iff_entriesFor :
    user ∈ d.membersOf group ↔ d.entriesFor user group ≠ [] := by
  rw [membersOf_eq_map, List.mem_map]
  constructor
  · rintro ⟨text, ht, hr⟩
    exact List.ne_nil_of_mem (mem_entriesFor.2 ⟨ht, hr⟩)
  · intro hn
    obtain ⟨text, ht⟩ := List.exists_mem_of_ne_nil _ hn
    exact ⟨text, mem_entriesFor.1 ht⟩

theorem entriesFor_congr (h : d'.page group = d.page group) :
    d'.entriesFor user group = d.entriesFor user group := by
  rw [entriesFor, h, entriesFor]

/-! ### Leaving -/

/-- Leaving with success takes away the first entry in the usual form, if there is one. -/
theorem Leaves.entriesFor (h : Leaves d user group comment r) (hd : r.1 = true) :
    r.2.entriesFor user group =
      (d.entriesFor user group).erase (Page.memberName group user) := by
  cases h with
  | refused => cases hd
  | unlisted hn => exact (List.erase_of_not_mem fun hm => hn (mem_entriesFor.1 hm).1).symm
  | removed o ho =>
    unfold Directory.entriesFor
    rw [memberEntries_put d (reference_remove d group _ _),
      Page.memberEntries_remove (memberName_ne_empty group user) ho, List.erase_filter]

/-- After leaving with success a user is out of the group just if the group listed the user at most once
before, in the usual form. Other entries that name the user stay. -/
theorem left_iff_listed_once (h : d.leave user group comment = (true, d')) :
    d'.entriesFor user group =
        (d.entriesFor user group).erase (Page.memberName group user) ∧
      (user ∉ d'.membersOf group ↔ d.entriesFor user group = [] ∨
        d.entriesFor user group = [Page.memberName group user]) := by
  have hl := leave_leaves d user group comment
  rw [h] at hl
  have he := hl.entriesFor rfl
  refine ⟨he, ?_⟩
  rw [mem_membersOf_iff_entriesFor, not_ne_iff, he, List.erase_eq_nil_iff]

theorem resignation_done : (company.leave carol interns "").1 = true := by cbv

theorem carol_entries : company.entriesFor carol interns = [Page.memberName interns carol] := by cbv

/-- An intern who is written once and as usual leaves the interns. -/
theorem resignation_leaves : ∃ d', company.leave carol interns "" = (true, d') ∧
    carol ∉ d'.membersOf interns := by
  have h := Prod.ext (y := (true, _)) resignation_done rfl
  exact ⟨_, h, (left_iff_listed_once h).2.2 (.inr carol_entries)⟩

/-- The page of the staff writes a member by the bare name. -/
def barely : Directory := empty.put (groupPage staff "carol") ""

theorem barely_done : (barely.leave carol staff "").1 = true := by cbv

theorem barely_members : (barely.leave carol staff "").2.membersOf staff = [carol] := by cbv

/-- Leaving may succeed and leave the user in the group. -/
theorem still_listed :
    ¬ ∀ (d d' : Directory) (user group : Reference) (comment : String), user.wiki ≠ "" →
      d.leave user group comment = (true, d') → user ∉ d'.membersOf group := by
  intro h
  have hs := h barely (barely.leave carol staff "").2 carol staff "" (by decide)
    (Prod.ext barely_done rfl)
  rw [barely_members] at hs
  exact hs (List.mem_singleton.2 rfl)

/-! ### Entries in the usual form -/

/-- Every entry is what joining writes for the member that it names, and no page has an entry twice. -/
structure Usual (d : Directory) : Prop where
  written (g : Reference) (text : String) : text ∈ (d.page g).memberEntries →
    text = Page.memberName g (Reference.resolveOn g text)
  nodup (g : Reference) : (d.page g).memberEntries.Nodup

theorem Usual.of_entries (h : d.Usual)
    (he : ∀ g, (d'.page g).memberEntries = (d.page g).memberEntries) : d'.Usual := by
  refine ⟨fun g text ht => ?_, fun g => ?_⟩
  · rw [he] at ht
    exact h.written g text ht
  · rw [he]
    exact h.nodup g

theorem Canonical.usual (h : d.Canonical) : d.Usual := by
  refine ⟨fun g text ht => ?_, h.nodup⟩
  obtain ⟨m, hm, rfl⟩ := h.named g text ht
  rw [resolveOn_memberName hm]

/-- In such a directory a member has one entry, in the form that leaving looks for. -/
theorem Usual.entriesFor (h : d.Usual) (user group : Reference) :
    d.entriesFor user group = [] ∨ d.entriesFor user group = [Page.memberName group user] := by
  have hname : ∀ text ∈ d.entriesFor user group, text = Page.memberName group user := by
    intro text ht
    obtain ⟨hm, rfl⟩ := mem_entriesFor.1 ht
    exact h.written group text hm
  have hn : (d.entriesFor user group).Nodup := (h.nodup group).filter _
  rw [List.eq_replicate_of_mem hname, List.nodup_replicate] at hn
  rw [List.eq_replicate_of_mem hname]
  interval_cases (d.entriesFor user group).length
  · exact .inl rfl
  · exact .inr rfl

/-! ### Leaving groups -/

/-- Without an outage no entry of a user with a usual one is left. -/
theorem Leaves.entriesFor_eq_nil (h : Leaves d user group comment r) (ho : d.outages = {})
    (he : d.entriesFor user group = [] ∨ d.entriesFor user group = [Page.memberName group user]) :
    r.2.entriesFor user group = [] := by
  cases hd : r.1 with
  | true =>
    rw [h.entriesFor hd, List.erase_eq_nil_iff]
    exact he
  | false =>
    cases h with
    | unlisted => cases hd
    | removed => cases hd
    | refused hm =>
      refine List.eq_nil_iff_forall_not_mem.2 fun text ht => ?_
      rw [contains_of_entry (mem_entriesFor.1 ht).1] at hm
      cases hm ho

theorem not_mem_leaves (hw : user.wiki ≠ "") (ho : d.outages = {}) {groups : List Reference}
    (hg : group ∈ groups)
    (he : d.entriesFor user group = [] ∨ d.entriesFor user group = [Page.memberName group user]) :
    user ∉ (onEach (fun d g => d.leave user g comment) d groups).2.membersOf group := by
  induction groups generalizing d with
  | nil => cases hg
  | cons first rest ih =>
    have hl := leave_leaves d user first comment
    have hch := hl.changes hw
    rw [onEach_cons]
    by_cases hf : group = first
    · subst hf
      have hout : user ∉ (d.leave user group comment).2.membersOf group := by
        rw [mem_membersOf_iff_entriesFor, hl.entriesFor_eq_nil ho he]
        exact fun h => h rfl
      exact fun hm => hout (anti_leaves hw rest hm)
    · refine ih (hch.outages.trans ho) ((List.mem_cons.1 hg).resolve_left hf) ?_
      rwa [entriesFor_congr (hch.page group (by simpa using hf))]

/-- After a push the user is not in a group that was to be left and not to be joined. -/
theorem not_mem_push (hw : user.wiki ≠ "") (ho : d.outages = {}) (hd : d.Usual)
    {joins creates leaves : List Reference} (hl : group ∈ d.groupsOf user → group ∈ leaves)
    (hj : group ∉ joins) (hc : group ∉ creates) (comment : String) :
    user ∉ (d.synchronizeMembership user joins creates leaves comment).2.membersOf group := by
  rw [synchronizeMembership_eq (groups_of_outages ho)]
  have hch := (changes_joins hw comment false (joins.filter (· ∉ d.groupsOf user)) d).trans
    (changes_joins hw comment true (creates.filter (· ∉ d.groupsOf user)) _)
  have hother : group ∉ joins.filter (· ∉ d.groupsOf user) ++
      creates.filter (· ∉ d.groupsOf user) := by
    rw [List.mem_append, List.mem_filter, List.mem_filter]
    exact fun h => h.elim (fun h => hj h.1) fun h => hc h.1
  by_cases hm : group ∈ d.groupsOf user
  · refine not_mem_leaves hw (hch.outages.trans ho)
      (List.mem_filter.2 ⟨hl hm, decide_eq_true hm⟩) ?_
    rw [entriesFor_congr (hch.page group hother)]
    exact hd.entriesFor user group
  · intro hu
    have hu := anti_leaves hw _ hu
    rw [hch.membersOf hother] at hu
    exact hm (mem_groupsOf_of_membersOf hu)

end IdentityBridge.Directory
