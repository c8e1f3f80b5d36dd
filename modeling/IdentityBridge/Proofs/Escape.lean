import Mathlib
import IdentityBridge.Assembly
import IdentityBridge.Proofs.Rule.Disabled
import IdentityBridge.Proofs.Session.Turn

/-! The faults that an authentication can end with. An identity that cannot be mapped is one of them;
every other one goes back to a defect, a pattern, a charset or a replacement of the configuration or a
number of the request that is only looked at when the request needs it. Where there are no such defects
all other faults are kept in, and a logout pattern that is refused lets one out at every request. -/

namespace IdentityBridge

open Outcome

/-- A defect of what assertions are read with, or of the request that they are read from, by the fault
that comes of it. -/
inductive Assertion.Source.Defect (s : Source) (p : Properties) (r : Request) : Fault → Prop where
  /-- The configured charset is none of texts. -/
  | foreignCharset (name : String) (hn : p.get? s.charsetProperty = some name)
      (hf : Text.Charset.ofName? (Text.trim name) = some .foreign) : Defect s p r .foreignCharset
  /-- The name of the configured charset has a null character in it. -/
  | nullInCharset (name : String) (hn : p.get? s.charsetProperty = some name)
      (hz : Text.Charset.isNulled (Text.trim name) = true) : Defect s p r .nullInCharset
  /-- In the configured charset, which is one of the platform, some bytes mean surrogates. -/
  | surrogates (name : String) (hn : p.get? s.charsetProperty = some name)
      (meaning : List UInt8 → Text.Charset.Decoding)
      (hm : p.platform.charsets (Text.Charset.folded (Text.trim name)) = some meaning)
      (bytes : List UInt8) (hb : meaning bytes = .surrogates) : Defect s p r .surrogates
  /-- An attribute of the request has a number in it that is not written. -/
  | longNumber (hs : s = .attributes) (name : String) (d : Datum) (hd : r.attributes.find? name = some d)
      (hw : d.isWritable = false) : Defect s p r .longNumber
  /-- There are fields of roles, and the pattern between the roles in one is refused. -/
  | separator (hg : (p.list? "group_field" ",").getD [] ≠ []) (cause : Pattern.Refusal)
      (h : Pattern.read (p.getD "group_value_separator" "\\|") p.platform.characters = .error cause) :
      Defect s p r (.pattern cause)

/-- A defect of a configuration or of a request, by the fault that comes of it. -/
inductive Configuration.Defect (c : Configuration) (r : Request) : Fault → Prop where
  /-- The pattern of the paths that log out is refused. -/
  | logout (cause : Pattern.Refusal) (h : Pattern.read c.logoutPattern c.characters = .error cause) :
      Defect c r (.pattern cause)
  /-- A pattern of the rules is refused without being malformed. -/
  | rules (cause : Pattern.Refusal) (hn : cause ≠ .malformed) (h : c.Refuses cause) :
      Defect c r (.pattern cause)
  /-- The replacement of a rule does not fit its pattern. -/
  | replacement (rules : List Rule) (hr : c.rules? = some rules) (rule : Rule) (hm : rule ∈ rules)
      (pattern : Pattern) (hp : rule.pattern = some pattern) (cause : Pattern.TemplateError)
      (hc : Pattern.Template.read pattern.groupCount pattern.names rule.replacement = .error cause) :
      Defect c r (.template cause)
  /-- It is in the way of what is asserted. -/
  | assertion (source : Assertion.Source) (hs : Assembly.source c = .ok source) (fault : Fault)
      (h : source.Defect c.properties r fault) : Defect c r fault

/-- An identity that cannot be mapped. -/
def Fault.Unmappable (f : Fault) : Prop := ∃ r, f.report? = some r ∧ r.kind = .unsupportedMapping

/-! ### Assertions -/

/-- Whatever is asked of an assertion, only faults of one kind are met. -/
structure Assertion.FailsOnly (P : Fault → Prop) (a : Assertion) : Prop where
  uid : Outcome.FailsOnly P a.uid
  name : Outcome.FailsOnly P a.name
  property (field : String) : Outcome.FailsOnly P (a.property field)
  roles : Outcome.FailsOnly P a.roles

variable {P Q : Fault → Prop} {a : Assertion}

theorem Assertion.FailsOnly.mono (h : a.FailsOnly P) (hq : ∀ fault, P fault → Q fault) :
    a.FailsOnly Q where
  uid fault hf := hq fault (h.uid fault hf)
  name fault hf := hq fault (h.name fault hf)
  property field fault hf := hq fault (h.property field fault hf)
  roles fault hf := hq fault (h.roles fault hf)

theorem Assertion.FailsOnly.holdsAny (h : a.FailsOnly P) (mapped : List String) :
    Outcome.FailsOnly P (a.holdsAny mapped) := by
  have holds (role : String) : Outcome.FailsOnly P (a.holds role) := by
    refine h.roles.bind fun told => ?_
    cases told with
    | none => exact failsOnly_ok _
    | some roles => exact failsOnly_ok _
  induction mapped with
  | nil => exact failsOnly_ok _
  | cons role rest ih =>
    refine (holds role).bind fun held => ?_
    cases held with
    | true => exact failsOnly_ok _
    | false => exact ih

namespace Assertion.Source

variable {s : Source} {p : Properties} {r : Request}

theorem raw_fails (name : String) : Outcome.FailsOnly (s.Defect p r) (s.raw r name) := by
  cases s with
  | headers => exact failsOnly_ok _
  | attributes =>
    change Outcome.FailsOnly _ (r.attributeText name)
    unfold Request.attributeText
    split
    · exact failsOnly_ok _
    · exact failsOnly_ok _
    · next d _ hd =>
      split
      · exact failsOnly_ok _
      · next hw => exact failsOnly_error (.longNumber rfl name d hd (Bool.eq_false_iff.2 hw))

/-- Reading a value in the configured charset fails for defects of the charset. -/
theorem decode_fails {charset : String} (hc : p.get? s.charsetProperty = some charset) (value : String) :
    Outcome.FailsOnly (s.Defect p r) (decode p.platform.charsets (Text.trim charset) value) := by
  unfold decode
  split
  · next hz => exact failsOnly_error (.nullInCharset charset hc hz)
  · split
    · exact failsOnly_ok _
    · next hf =>
      split
      · exact failsOnly_error (.foreignCharset charset hc hf)
      · exact failsOnly_ok _
    · split
      · next meaning bytes hm _ =>
        unfold decoded
        split
        · exact failsOnly_ok _
        · exact failsOnly_ok _
        · next hb => exact failsOnly_error (.surrogates charset hc meaning hm bytes hb)
      · exact failsOnly_ok _

theorem field_fails (name : String) : Outcome.FailsOnly (s.Defect p r) (s.field p r name) := by
  have hraw := raw_fails (s := s) (p := p) (r := r) name
  unfold field
  split
  · exact failsOnly_ok _
  cases hv : s.raw r name with
  | error fault => exact failsOnly_error (hraw fault hv)
  | ok value =>
    cases value with
    | none => exact failsOnly_ok _
    | some value =>
      simp only
      split
      · exact failsOnly_ok _
      cases hc : p.get? s.charsetProperty with
      | none => exact failsOnly_ok _
      | some charset =>
        simp only
        split
        · exact failsOnly_ok _
        · exact (decode_fails hc value).map some

theorem uid_fails : Outcome.FailsOnly (s.Defect p r) (s.uid p r) := by
  have trusted : Outcome.FailsOnly (s.Defect p r) (s.isTrusted p r) := by
    unfold isTrusted
    cases s with
    | attributes => exact failsOnly_ok _
    | headers =>
      simp only
      cases p.get? "secret_field" with
      | none => exact failsOnly_ok _
      | some secretField =>
        have hsecret := field_fails (s := .headers) (p := p) (r := r) secretField
        simp only
        split
        · exact failsOnly_ok _
        · split
          · exact failsOnly_ok _
          · exact failsOnly_ok _
          · exact failsOnly_ok _
          · next fault _ hf => exact failsOnly_error (hsecret fault hf)
  refine trusted.bind fun isTrusted => ?_
  split
  · exact field_fails _
  · exact failsOnly_ok _

theorem roles_fails : Outcome.FailsOnly (s.Defect p r) (s.roles p r) := by
  have hp := Defect.separator (s := s) (p := p) (r := r)
  rw [roles]
  generalize (p.list? "group_field" ",").getD [] = names at hp ⊢
  induction names with
  | nil => exact failsOnly_ok _
  | cons name rest ih =>
    have hp := hp (List.cons_ne_nil _ _)
    have apart (text : String) : Outcome.FailsOnly (s.Defect p r)
        (rolesIn p.platform.characters (p.getD "group_value_separator" "\\|") text) := by
      unfold rolesIn
      cases hr : Pattern.read (p.getD "group_value_separator" "\\|") p.platform.characters with
      | error cause => exact failsOnly_error (hp cause hr)
      | ok pattern => exact failsOnly_ok _
    have joined (found : List String) : Outcome.FailsOnly (s.Defect p r) (do
        return found ++ (← rolesOf s p r rest)) :=
      (ih fun _ => hp).bind fun more => failsOnly_ok _
    refine (field_fails (Text.trim name)).bind fun value => ?_
    cases value with
    | none => exact joined []
    | some value =>
      simp only
      split
      · exact joined []
      · exact (apart value).bind joined

/-- What is asserted by a request fails only for defects. -/
theorem assertion_fails : (s.assertion p r).FailsOnly (s.Defect p r) where
  uid := uid_fails
  name := field_fails _
  property := field_fails
  roles := roles_fails.map some

end Assertion.Source

/-! ### Groups -/

namespace Entitlement

variable {c : Configuration} {d : Directory}

/-- A replacement fails before anything is searched. -/
theorem read_of_replaceFirst {pattern : Pattern} {template text : String}
    {cause : Pattern.TemplateError} (h : pattern.replaceFirst template text = .error cause) :
    Pattern.Template.read pattern.groupCount pattern.names template = .error cause := by
  unfold Pattern.replaceFirst at h
  cases ht : Pattern.Template.read pattern.groupCount pattern.names template with
  | error cause' =>
    rw [ht, error_bind] at h
    cases h
    rfl
  | ok pieces =>
    rw [ht, ok_bind] at h
    simp only at h
    split at h <;> cases h

theorem static_fails (ha : a.FailsOnly P) : FailsOnly P (static c a) := by
  apply FailsOnly.foldlM
  intro δ mapping
  exact (ha.holdsAny mapping.2).bind fun member => failsOnly_ok _

theorem groupName_fails {rule : Rule} {role : String} {cause : Pattern.TemplateError}
    (h : rule.groupName role = .error cause) : ∃ pattern, rule.pattern = some pattern ∧
      Pattern.Template.read pattern.groupCount pattern.names rule.replacement = .error cause := by
  unfold Rule.groupName at h
  cases hp : rule.pattern with
  | none => simp [hp] at h
  | some pattern =>
    rw [hp] at h
    simp only at h
    split at h
    · cases h
    · exact ⟨pattern, rfl, read_of_replaceFirst h⟩

theorem addRole_fails {rules : List Rule} (hr : ∀ rule ∈ rules, ∀ role cause,
    rule.groupName role = .error cause → P (.template cause))
    (state : Delta × Provenance.Batch) (role : String) :
    FailsOnly P (addRole c rules d state role) := by
  unfold addRole
  cases hf : ruleFor? rules role with
  | none => exact failsOnly_ok _
  | some rule =>
    have derived : FailsOnly P (derivedGroup c rule role) := by
      unfold derivedGroup
      cases hn : rule.groupName role with
      | ok name => exact failsOnly_ok _
      | error cause =>
        exact failsOnly_error (hr rule (List.mem_of_find?_eq_some hf) role cause hn)
    refine derived.bind fun group => ?_
    cases state.1.addDynamic? group rule.autoCreate with
    | none => exact failsOnly_ok _
    | some δ =>
      cases rule.field with
      | none => exact failsOnly_ok _
      | some field => exact failsOnly_ok _

/-- The rules of a configuration and the names that they derive give rise to faults of the kind only. -/
structure RulesFailOnly (P : Fault → Prop) (c : Configuration) : Prop where
  rules : FailsOnly P c.rules
  groupName : ∀ rules, c.rules? = some rules → ∀ rule ∈ rules, ∀ role cause,
    rule.groupName role = .error cause → P (.template cause)

/-- A delta fails for what is asserted or for the rules. -/
theorem delta_fails (ha : a.FailsOnly P) (hr : RulesFailOnly P c) (user : Reference) :
    FailsOnly P (delta c a user d) := by
  refine (static_fails ha).bind fun δ => ?_
  cases hrules : c.rules with
  | error fault => exact failsOnly_error (hr.rules fault hrules)
  | ok loaded =>
    match loaded with
    | none | some [] => exact failsOnly_ok _
    | some (first :: rest) =>
      refine ha.roles.bind fun told => ?_
      cases told with
      | none => exact failsOnly_ok _
      | some roles =>
        refine FailsOnly.bind ?_ fun (δ, batch) => ?_
        · have hnames := hr.groupName _ (Configuration.loaded_of_rules hrules)
          exact FailsOnly.foldlM (addRole_fails hnames) _ _
        simp only
        cases (batch.save d).groups user with
        | error e => exact failsOnly_ok _
        | ok current => exact failsOnly_ok _

end Entitlement

/-! ### Authentication -/

namespace Authenticator

variable {x : Authenticator} {w : World}

theorem assertedUser_fails (ha : a.FailsOnly P) (hu : ∀ fault : Fault, fault.Unmappable → P fault) :
    FailsOnly P (x.assertedUser a) := by
  refine ha.uid.bind fun uid => ?_
  cases filled uid with
  | none => exact failsOnly_ok _
  | some uid =>
    refine ha.name.bind fun name => ?_
    cases filled name with
    | none => exact failsOnly_error (hu _ ⟨_, rfl, rfl⟩)
    | some name =>
      simp only
      split
      · exact failsOnly_ok _
      · exact failsOnly_error (hu _ ⟨_, rfl, rfl⟩)

theorem assertedFacts_fails (ha : a.FailsOnly P) : FailsOnly P (x.assertedFacts a) := by
  refine FailsOnly.bind (FailsOnly.filterMapM (fun mapping => ?_) _) fun facts => failsOnly_ok _
  exact (ha.property mapping.2).bind fun value => failsOnly_ok _

theorem synchronizeUser_fails (ha : a.FailsOnly P) (hr : Entitlement.RulesFailOnly P x.configuration) (user : Reference)
    (d : Directory) : FailsOnly P (x.synchronizeUser a user d).1 := by
  have groups (d : Directory) : FailsOnly P (x.synchronizeGroups a user d).1 := by
    have hδ := Entitlement.delta_fails (d := d) ha hr user
    unfold synchronizeGroups
    cases he : Entitlement.delta x.configuration a user d with
    | error fault => exact failsOnly_error (hδ fault he)
    | ok outcome =>
      obtain ⟨_ | δ, d⟩ := outcome
      · exact failsOnly_ok _
      · simp only
        split <;> exact failsOnly_ok _
  have hf := assertedFacts_fails (x := x) ha
  unfold synchronizeUser
  cases he : x.assertedFacts a with
  | error fault => exact failsOnly_error (hf fault he)
  | ok facts =>
    simp only
    rcases x.ensureProfile user facts d with ⟨_ | _, d⟩
    · exact failsOnly_ok _
    · exact groups d

theorem enrol_fails (ha : a.FailsOnly P) (hr : Entitlement.RulesFailOnly P x.configuration) (user : Reference) (w : World) :
    FailsOnly P (x.enrol a user w).1 := by
  have hs := synchronizeUser_fails ha hr user w.directory
  unfold enrol
  cases he : x.synchronizeUser a user w.directory with
  | mk result d =>
    cases result with
    | error fault => exact failsOnly_error (hs fault (congrArg Prod.fst he))
    | ok done =>
      cases done with
      | false => exact failsOnly_ok _
      | true => exact failsOnly_ok _

/-- Before it is asked whether the path logs out, an authentication fails for the identity, for what is
asserted or for a replacement. -/
theorem settle_fails (ha : a.FailsOnly P) (hu : ∀ fault : Fault, fault.Unmappable → P fault)
    (hr : Entitlement.RulesFailOnly P x.configuration) (w : World) : FailsOnly P (x.settle a w).1 := by
  have hm := callsFor_move x a (x.vault.retrieve w.exchange)
  rw [settle_eq]
  generalize x.vault.retrieve w.exchange = remembered at hm ⊢
  generalize x.move a remembered = move at hm ⊢
  cases hm with
  | keep => exact failsOnly_ok _
  | confirm => exact failsOnly_ok _
  | fail _ fault h => exact failsOnly_error (assertedUser_fails ha hu fault h)
  | pass => exact failsOnly_ok _
  | forget => exact failsOnly_ok _
  | enrol user => exact enrol_fails ha hr user w
  | replace _ user => exact enrol_fails ha hr user (x.forget w)

end Authenticator

namespace Assembly

open Authenticator

variable {c : Configuration} {now : Crypto.Moment} {listeners : Nat} {x : Authenticator}

/-- An assembled authenticator reads its assertions from the configured source. -/
theorem authenticator_eq_ok (h : authenticator c now listeners = .ok x) :
    ∃ s, source c = .ok s ∧ x.configuration = c ∧ x.assertion = s.assertion c.properties := by
  obtain ⟨s, hs, h⟩ := bind_eq_ok.1 h
  obtain ⟨v, -, h⟩ := bind_eq_ok.1 h
  cases h
  exact ⟨s, hs, rfl, rfl⟩

/-- An authentication ends with a user, with none, with an identity that cannot be mapped, or with the
fault of a defect. A logout pattern that is refused outranks all of them. -/
theorem authenticate_fault (hx : authenticator c now listeners = .ok x) (w : World) :
    (∀ fault, (x.authenticate w).1 = .error fault →
      fault.Unmappable ∨ c.Defect w.exchange.request fault) ∧
    (∀ cause, Pattern.read c.logoutPattern c.characters = .error cause →
      (x.authenticate w).1 = .error (.pattern cause)) := by
  obtain ⟨s, hs, hc, ha⟩ := authenticator_eq_ok hx
  have asserted : (x.assertion w.exchange.request).FailsOnly
      fun fault => fault.Unmappable ∨ c.Defect w.exchange.request fault := by
    rw [ha]
    exact Assertion.Source.assertion_fails.mono fun fault h => .inr (.assertion s hs fault h)
  have ruled : Entitlement.RulesFailOnly
      (fun fault => fault.Unmappable ∨ c.Defect w.exchange.request fault) x.configuration := by
    rw [hc]
    refine ⟨fun fault h => ?_, fun rules hrules rule hm role cause hcause => ?_⟩
    · obtain ⟨cause, hne, rfl, hr⟩ := Configuration.refuses_of_rules h
      exact .inr (.rules cause hne hr)
    · obtain ⟨pattern, hp, ht⟩ := Entitlement.groupName_fails hcause
      exact .inr (.replacement rules hrules rule hm pattern hp cause ht)
  rw [authenticate_fst, isLogout, hc, matchesPath]
  cases hl : Pattern.read c.logoutPattern c.characters with
  | error cause =>
    refine ⟨failsOnly_error (.inr (.logout cause hl)), ?_⟩
    rintro _ ⟨⟩
    rfl
  | ok pattern => exact ⟨settle_fails asserted (fun fault h => .inl h) ruled w, nofun⟩

/-! ### An example -/

/-- An encoding that turns texts into bytes is configured as the charset of the headers. -/
def hexed : Configuration := .ofSettings {
  properties := .ofList [("authentication.trusted.header_encoding", "hex")] }

def hexReader : Authenticator where
  configuration := hexed
  assertion := Assertion.Source.headers.assertion hexed.properties
  vault := .session

def midnight : Crypto.Moment := ⟨0, []⟩

theorem hexReader_assembled : authenticator hexed midnight 0 = .ok hexReader := by
  have hs : source hexed = .ok .headers := by cbv
  have hv : vault hexed midnight = .ok .session := by cbv
  rw [authenticator, hs, hv]
  rfl

/-- A request whose header names a user. -/
def introduced : World where
  directory := .empty
  exchange := { request := { headers := .ofList [("remote_user", "alice")] }, session := some {} }

theorem hexReader_uid :
    (hexReader.assertion introduced.exchange.request).uid = .error .foreignCharset := by
  have ht : Assertion.Source.headers.isTrusted hexed.properties introduced.exchange.request =
      .ok true := by cbv
  have hn : hexed.properties.getD Assertion.Source.uidProperty Assertion.Source.defaultField =
      "remote_user" := by cbv
  have hc : hexed.properties.get? Assertion.Source.headers.charsetProperty = some "hex" := by cbv
  have hv : Assertion.Source.headers.raw introduced.exchange.request "remote_user" =
      .ok (some "alice") := by cbv
  have hd : Assertion.Source.decode hexed.properties.platform.charsets (Text.trim "hex") "alice" =
      .error .foreignCharset := by cbv
  have hb : Text.blank "remote_user" = false ∧ Text.blank "alice" = false ∧
      Text.blank "hex" = false := by decide
  change Assertion.Source.headers.uid hexed.properties introduced.exchange.request = _
  simp [Assertion.Source.uid, ht, hn, Assertion.Source.field, hc, hv, hd, hb, Except.map]

theorem hexReader_fault : (hexReader.authenticate introduced).1 = .error .foreignCharset := by
  have hl : hexReader.isLogout introduced.exchange.request.path = .ok false := by cbv
  have hu : hexReader.assertedUser (hexReader.assertion introduced.exchange.request) =
      .error .foreignCharset := by rw [assertedUser, hexReader_uid, error_bind]
  have hr : hexReader.vault.retrieve introduced.exchange = none := rfl
  rw [authenticate_fst, hl, ok_bind, settle_eq, hr]
  simp only [move, hu, Move.perform]

theorem foreignCharset_not_unmappable : ¬ Fault.foreignCharset.Unmappable := by
  rintro ⟨r, hr, -⟩
  cases hr

/-- An authenticator that can be assembled, and a request that names its user, let a fault out that is
none of the identity. -/
theorem hexReader_escapes : authenticator hexed midnight 0 = .ok hexReader ∧
    (hexReader.authenticate introduced).1 = .error .foreignCharset ∧
    ¬ Fault.foreignCharset.Unmappable :=
  ⟨hexReader_assembled, hexReader_fault, foreignCharset_not_unmappable⟩

/-- The fault goes back to the charset. -/
theorem hexReader_defect : authenticator hexed midnight 0 = .ok hexReader ∧
    hexed.Defect introduced.exchange.request .foreignCharset :=
  ⟨hexReader_assembled, ((authenticate_fault hexReader_assembled introduced).1 _
    hexReader_fault).resolve_left foreignCharset_not_unmappable⟩

end Assembly

end IdentityBridge
