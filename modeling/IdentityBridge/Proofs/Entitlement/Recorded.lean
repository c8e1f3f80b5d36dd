import IdentityBridge.Proofs.Entitlement.Told
import IdentityBridge.Proofs.Provenance.Batch

/-! What telling a delta writes. The pages that it records derived groups on are those that the rules of
the roles configure, as far as they exist. They are written before the groups of the user are asked for, so
they stay written when these cannot be told. -/

namespace IdentityBridge.Entitlement

variable {c : Configuration} {a : Assertion} {rules : List Rule} {roles : List String}
  {d : Directory} {user : Reference}

/-- The batch that nothing has been added to. -/
def blankBatch (c : Configuration) : Provenance.Batch where
  mainWiki := c.mainWiki
  defaultSpace := c.userSpace

/-- The page of a provenance field. -/
def pageOf (c : Configuration) (field : Provenance.Field) : Reference :=
  (blankBatch c).reference ((blankBatch c).pageName field.values.page)

/-- The rule that is responsible for one of the roles may create its group, and has a field on the page
to record this in. -/
def RecordsOn (c : Configuration) (rules : List Rule) (roles : List String) (page : Reference) :
    Prop :=
  ∃ role ∈ roles, ∃ rule field, ruleFor? rules role = some rule ∧ rule.autoCreate = true ∧
    rule.field = some field ∧ field.values.page ≠ "" ∧ page = pageOf c field

/-- A batch has copies of pages of the directory, and has changed only such as the rules of the roles
record on. -/
structure Gathered (c : Configuration) (rules : List Rule) (roles : List String) (d : Directory)
    (b : Provenance.Batch) : Prop extends b.Copies d where
  agrees : (blankBatch c).Agrees b
  origin : ∀ name ∈ b.changed, RecordsOn c rules roles ((blankBatch c).reference name)

theorem gathered_blank (c : Configuration) (rules : List Rule) (roles : List String) (d : Directory) :
    Gathered c rules roles d (blankBatch c) :=
  ⟨Provenance.Batch.copies_empty _ _ d, ⟨rfl, rfl⟩, by simp [blankBatch]⟩

theorem Gathered.add {b : Provenance.Batch} (h : Gathered c rules roles d b)
    {field : Provenance.Field} {role : String}
    (hr : field.values.page ≠ "" → RecordsOn c rules roles (pageOf c field)) (group : Reference) :
    Gathered c rules roles d (b.add d field group role) := by
  have hadds := b.add_adds d field group role
  refine ⟨hadds.copies h.toCopies, h.agrees.trans hadds.agrees, fun name hn => ?_⟩
  rcases hadds.mem_changed hn with hn | ⟨hp, rfl⟩
  · exact h.origin name hn
  · rw [h.agrees.pageName]
    exact hr hp

theorem Gathered.addRole {s s' : Delta × Provenance.Batch} (h : Gathered c rules roles d s.2)
    {role : String} (hrole : role ∈ roles) (ha : addRole c rules d s role = .ok s') :
    Gathered c rules roles d s'.2 := by
  cases addRole_adds ha with
  | unruled => exact h
  | withheld => exact h
  | joined => exact h
  | recorded rule group _ field hr _ _ hf hc =>
    exact h.add (fun hp => ⟨role, hrole, rule, field, hr, hc, hf, hp, rfl⟩) group

theorem addRoles_gathered {δ δ' : Delta} {batch : Provenance.Batch}
    (ha : addRoles c rules d roles δ = .ok (δ', batch)) : Gathered c rules roles d batch :=
  Outcome.foldlM_keeps (P := fun s : Delta × Provenance.Batch => Gathered c rules roles d s.2)
    (fun _ _ hrole _ h hs => h.addRole (Text.mem_sortSet.1 hrole) hs) (gathered_blank c rules roles d) ha

/-! ### Groups that cannot be told -/

/-- The directories differ at most in values on pages that rules of the told roles record on. -/
def OnlyRecords (c : Configuration) (a : Assertion) (rules : List Rule) (d d' : Directory) : Prop :=
  ∀ g, d'.pages.find? g = d.pages.find? g ∨
    (∃ roles, a.roles = .ok (some roles) ∧ RecordsOn c rules roles g) ∧
      d.contains g = true ∧ (d.page g).Revises (d'.page g)

theorem OnlyRecords.refl (c : Configuration) (a : Assertion) (rules : List Rule) (d : Directory) :
    OnlyRecords c a rules d d := fun _ => .inl rfl

theorem onlyRecords_save {core δ : Delta} {batch : Provenance.Batch}
    (hroles : a.roles = .ok (some roles)) (ha : addRoles c rules d roles core = .ok (δ, batch)) :
    OnlyRecords c a rules d (batch.save d) := by
  have hg := addRoles_gathered ha
  intro g
  rcases Provenance.Batch.save_recorded hg.toCopies g with h | ⟨⟨name, hn, rfl⟩, hc, hr⟩
  · exact .inl h
  · refine .inr ⟨⟨roles, hroles, ?_⟩, hc, hr⟩
    rw [hg.agrees.reference]
    exact hg.origin name hn

/-- Where there are rules and the groups of the user cannot be told, there is no delta, but the derived
groups have been recorded. -/
theorem delta_of_unknown_groups (hr : c.rules? = some rules) (hne : rules ≠ [])
    (hq : ∀ d' : Directory, d'.outages = d.outages → Outcome.Fails (d'.groups user))
    {r : Option Delta × Directory} (h : delta c a user d = .ok r) :
    r.1 = none ∧ OnlyRecords c a rules d r.2 := by
  cases delta_tells h with
  | fixed core hs hr' =>
    rcases hr' with hr' | hr'
    · cases hr'.symm.trans (Configuration.rules_of_loaded hr)
    · exact absurd (Option.some.inj (hr.symm.trans hr')) hne
  | roleless => exact ⟨rfl, .refl c a rules d⟩
  | groupless core δ _ roles batch hs hr' hroles ha =>
    cases hr.symm.trans hr'
    exact ⟨rfl, onlyRecords_save hroles ha⟩
  | derived core δ first rest roles batch current hs hr' hroles ha hc =>
    obtain ⟨e, he⟩ := hq (batch.save d) (outages_save batch d)
    cases hc.symm.trans he

end IdentityBridge.Entitlement
