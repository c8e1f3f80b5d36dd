import IdentityBridge.Proofs.Entitlement.Told

/-! Deltas of rules that record nothing. Such a delta leaves the directory alone and depends on it only
by the groups of the user: what is joined and what the static mappings withhold stay the same, whatever
the directory, and of the rest the user leaves those groups now belonged to that are lost. -/

namespace IdentityBridge.Entitlement

variable {c : Configuration} {a : Assertion} {rules : List Rule} {d : Directory} {user : Reference}

/-- Decisions, of whatever kind, are recorded. -/
theorem static_decided {δ : Delta} (h : static c a = .ok δ) :
    ∃ decided, δ.Records decided fun _ _ => False := by
  refine Outcome.foldlM_keeps (P := fun δ => ∃ decided, δ.Records decided fun _ _ => False)
    (fun δ entry _ δ' hδ hs => ?_) ⟨_, Delta.records_empty⟩ h
  obtain ⟨decided, hδ⟩ := hδ
  obtain ⟨member, -, hs⟩ := Outcome.bind_eq_ok.1 hs
  cases hs
  exact ⟨_, hδ.addStatic entry.1 member⟩

/-- A role adds at most one derived group; where its rule has no field nothing is recorded. -/
theorem addRole_of_no_field (hf : ∀ rule ∈ rules, rule.field = none) {δ : Delta}
    {batch : Provenance.Batch} {role : String} {s : Delta × Provenance.Batch}
    (h : addRole c rules d (δ, batch) role = .ok s) :
    s = (δ, batch) ∨ ∃ group create, s = ((δ.addDynamic? group create).getD δ, batch) := by
  cases addRole_adds h with
  | unruled => exact .inl rfl
  | withheld => exact .inl rfl
  | joined rule group δ' _ _ hδ =>
    refine .inr ⟨group, rule.autoCreate, ?_⟩
    rw [hδ, Option.getD_some]
  | recorded rule _ _ field hr _ _ hfield =>
    cases hfield.symm.trans (hf rule (List.mem_of_find?_eq_some hr))

theorem addRole_congr (hf : ∀ rule ∈ rules, rule.field = none) (d d' : Directory) :
    addRole c rules d = addRole c rules d' := by
  funext s role
  cases hr : ruleFor? rules role with
  | none => simp only [addRole, hr]
  | some rule =>
    have hn : rule.field = none := hf rule (List.mem_of_find?_eq_some hr)
    simp only [addRole, hr, hn]

theorem addRoles_of_no_field (hf : ∀ rule ∈ rules, rule.field = none) {roles : List String}
    {δ δ' : Delta} {decided : Reference → Option Bool} (hδ : δ.Records decided fun _ _ => False)
    {batch : Provenance.Batch} (h : addRoles c rules d roles δ = .ok (δ', batch)) :
    batch.changed = [] ∧ ∃ derived, δ'.Records decided derived := by
  refine Outcome.foldlM_keeps
    (P := fun s : Delta × Provenance.Batch =>
      s.2.changed = [] ∧ ∃ derived, s.1.Records decided derived)
    (fun s role _ s' hs h => ?_) ⟨rfl, _, hδ⟩ h
  obtain ⟨hb, derived, hs⟩ := hs
  rcases addRole_of_no_field hf h with rfl | ⟨group, create, rfl⟩
  · exact ⟨hb, derived, hs⟩
  · exact ⟨hb, _, hs.addDynamic group create⟩

/-- How the delta depends on the groups that the user is now in: `core` is what it is without them, and
a test tells which of them look derived. -/
structure Follows (delta : List Reference → Delta) (core : Delta) (test : Reference → Bool) :
    Prop where
  separate : core.Separate
  joins (current : List Reference) : (delta current).joins = core.joins
  creates (current : List Reference) : (delta current).creates = core.creates
  leaves (current : List Reference) (g : Reference) :
    g ∈ (delta current).leaves ↔ g ∈ core.leaves ∨ g ∈ current ∧ core.Lost test g

theorem Follows.leaves_apart {f : List Reference → Delta} {core : Delta} {test : Reference → Bool}
    (h : Follows f core test) (current : List Reference) :
    ∀ g ∈ (f current).leaves, g ∉ (f current).joins ∧ g ∉ (f current).creates := by
  intro g hg
  rw [h.joins, h.creates]
  rcases (h.leaves current g).1 hg with hg | ⟨-, hlost⟩
  · obtain ⟨-, hj, hc⟩ := h.separate g
    exact ⟨fun hg' => hj ⟨hg', hg⟩, fun hg' => hc ⟨hg', hg⟩⟩
  · have hn := hlost.2.2
    rwa [Delta.mem_added, not_or] at hn

/-- Where the groups of the user are what a first delta has made of them, a second one asks to leave
none of them, to create none besides, and to join none besides but those that were missing. -/
theorem Follows.settled {f : List Reference → Delta} {core : Delta} {test : Reference → Bool}
    (h : Follows f core test) (before after : List Reference) (present : Reference → Prop)
    (hm : ∀ g, g ∈ after ↔ g ∈ before ∧ g ∉ (f before).leaves ∨
      g ∈ (f before).joins ∧ present g ∨ g ∈ (f before).creates) :
    (∀ g ∈ (f after).leaves, g ∉ after) ∧ (∀ g ∈ (f after).creates, g ∈ after) ∧
      ∀ g ∈ (f after).joins, g ∉ after → ¬ present g := by
  simp only [h.joins, h.creates] at hm ⊢
  refine ⟨fun g hg ha => ?_, fun g hg => (hm g).2 (.inr (.inr hg)), fun g hg hn hp => ?_⟩
  · have hapart : g ∉ core.added := by
      rw [Delta.mem_added, not_or, ← h.joins after, ← h.creates after]
      exact h.leaves_apart after g hg
    rw [Delta.mem_added, not_or] at hapart
    rcases (hm g).1 ha with ⟨hb, hn⟩ | ⟨hj, -⟩ | hc
    · refine hn ((h.leaves before g).2 ?_)
      exact ((h.leaves after g).1 hg).imp id fun hlost => ⟨hb, hlost.2⟩
    · exact hapart.1 hj
    · exact hapart.2 hc
  · exact hn ((hm g).2 (.inr (.inl ⟨hg, hp⟩)))

theorem follows_dropLost {core : Delta} (h : core.Separate) (rules : List Rule) :
    Follows (dropLost c rules · core) core (looksDerived c rules) := by
  refine ⟨h, fun current => ?_, fun current => ?_, fun current g => ?_⟩ <;>
    obtain ⟨leaves, he, hl⟩ := dropLost_eq c rules current core
  · rw [he]
  · rw [he]
  · rw [he]
    exact hl g

theorem follows_static {core : Delta} (h : core.Separate) :
    Follows (fun _ => core) core fun _ => false := by
  refine ⟨h, fun _ => rfl, fun _ => rfl, fun current g => ?_⟩
  simp [Delta.Lost]

/-! ### Telling a delta -/

/-- Where rules record nothing, telling a delta changes nothing. -/
theorem save_of_no_field (hf : ∀ rule ∈ rules, rule.field = none) {roles : List String}
    {core δ : Delta} (hs : static c a = .ok core) {batch : Provenance.Batch}
    (ha : addRoles c rules d roles core = .ok (δ, batch)) (d' : Directory) : batch.save d' = d' := by
  obtain ⟨_, hcore⟩ := static_decided hs
  rw [Provenance.Batch.save, (addRoles_of_no_field hf hcore ha).1]
  rfl

theorem directory_of_delta (hf : ∀ rules, c.rules? = some rules → ∀ rule ∈ rules, rule.field = none)
    {told : Option Delta} {d' : Directory} (h : delta c a user d = .ok (told, d')) : d' = d := by
  cases delta_tells h with
  | fixed => rfl
  | roleless => rfl
  | groupless _ _ rules _ _ hs hr _ ha => exact save_of_no_field (hf rules hr) hs ha d
  | derived _ _ _ _ _ _ _ hs hr _ ha => exact save_of_no_field (hf _ hr) hs ha d

/-- Where rules record nothing and a delta is told once, it is told for every directory, and each
depends on the directory only by the groups of the user. -/
theorem delta_follows (hf : ∀ rules, c.rules? = some rules → ∀ rule ∈ rules, rule.field = none)
    {δ : Delta} {d' : Directory} (h : delta c a user d = .ok (some δ, d')) :
    ∃ f core test, Follows f core test ∧ ∀ d₂ : Directory, d₂.outages = {} →
      delta c a user d₂ = .ok (some (f (d₂.groupsOf user)), d₂) := by
  cases delta_tells h with
  | fixed _ hs hr =>
    obtain ⟨_, hcore⟩ := static_decided hs
    refine ⟨_, δ, _, follows_static hcore.separate, fun d₂ _ => ?_⟩
    rw [delta, hs, Outcome.ok_bind]
    rcases hr.imp_right Configuration.rules_of_loaded with hr | hr <;> rw [hr] <;> rfl
  | derived core δ' first rest roles batch current hs hr hroles ha hc =>
    obtain ⟨_, hcore⟩ := static_decided hs
    obtain ⟨-, _, hδ'⟩ := addRoles_of_no_field (hf _ hr) hcore ha
    refine ⟨_, δ', _, follows_dropLost (c := c) hδ'.separate (first :: rest), fun d₂ ho => ?_⟩
    have ha₂ : addRoles c (first :: rest) d₂ roles core = .ok (δ', batch) := by
      rw [← ha, addRoles, addRoles, addRole_congr (hf _ hr) d₂ d]
    rw [delta, hs, Outcome.ok_bind, Configuration.rules_of_loaded hr]
    simp only [hroles, Outcome.ok_bind, ha₂, save_of_no_field (hf _ hr) hs ha,
      Directory.groups_of_outages ho, Outcome.pure_eq]

end IdentityBridge.Entitlement
