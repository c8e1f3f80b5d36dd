import IdentityBridge.Assembly
import IdentityBridge.Http.Gateway
import IdentityBridge.LogPlan
import IdentityBridge.Page.Draft
import IdentityBridge.Datum.Access
import IdentityBridge.Datum.Writer
import IdentityBridge.Proofs.Outcome
import IdentityBridge.Proofs.Reference.RoundTrip
import IdentityBridge.Proofs.Session.Move
import IdentityBridge.Proofs.Session.Turn
import IdentityBridge.Proofs.Session.Run
import IdentityBridge.Proofs.Delta
import IdentityBridge.Proofs.Entitlement.Exact
import IdentityBridge.Proofs.Membership.Closure
import IdentityBridge.Proofs.Membership.Entries
import IdentityBridge.Proofs.Membership.Step
import IdentityBridge.Proofs.Membership.Push
import IdentityBridge.Proofs.Entitlement.Stable
import IdentityBridge.Proofs.Membership.Flat
import IdentityBridge.Proofs.Page.Objects
import IdentityBridge.Proofs.Profile
import IdentityBridge.Proofs.Enrolment
import IdentityBridge.Proofs.Escape
import IdentityBridge.Proofs.Rule.Loading
import IdentityBridge.Proofs.Rule.Wildcard
import IdentityBridge.Proofs.Secret
import IdentityBridge.Proofs.Interchange
import IdentityBridge.Proofs.Membership.Departure
import IdentityBridge.Proofs.Membership.Roster
import IdentityBridge.Proofs.Confinement
import IdentityBridge.Proofs.Rule.Recognition
import IdentityBridge.Proofs.Rule.Affixes
import IdentityBridge.Proofs.Rule.Overlap
import IdentityBridge.Proofs.Rule.Wiki
import IdentityBridge.Proofs.Revocation
import IdentityBridge.Proofs.Properties.Group
import IdentityBridge.Proofs.Entitlement.Mapping
import IdentityBridge.Proofs.Session.Logout
import IdentityBridge.Proofs.Http.Logout
import IdentityBridge.Proofs.Properties.Without
import IdentityBridge.Proofs.Rule.Disabled
import IdentityBridge.Proofs.Disabling
import IdentityBridge.Proofs.Provenance.Grammar
import IdentityBridge.Proofs.Session.Steady
import IdentityBridge.Proofs.Membership.Links
import IdentityBridge.Proofs.Membership.Repeated
import IdentityBridge.Proofs.Membership.Sharding
import IdentityBridge.Proofs.Properties.Written
import IdentityBridge.Proofs.Delta.History
import IdentityBridge.Proofs.Membership.Search
import IdentityBridge.Proofs.Pattern.Loop
import IdentityBridge.Proofs.Provenance.Field
import IdentityBridge.Proofs.Provenance.Batch
import IdentityBridge.Proofs.Provenance.Addition
import IdentityBridge.Proofs.Provenance.Run
import IdentityBridge.Proofs.Provenance.Default
import IdentityBridge.Proofs.Provenance.Told
import IdentityBridge.Proofs.Provenance.Recording
import IdentityBridge.Proofs.Provenance.Spelling
import IdentityBridge.Proofs.Provenance.Repetition
import IdentityBridge.Proofs.Provenance.Coverage
import IdentityBridge.Proofs.Provenance.Overlay
import IdentityBridge.Proofs.Provenance.Inheritance
import IdentityBridge.Proofs.Entitlement.Recorded
import IdentityBridge.Proofs.Session.Aborted
import IdentityBridge.Proofs.UserName
import IdentityBridge.Proofs.Transport
import IdentityBridge.Proofs.Profile.Exact
import IdentityBridge.Proofs.Properties.Converse
import IdentityBridge.Proofs.Properties.File
import IdentityBridge.Proofs.Page.History
import IdentityBridge.Proofs.Page.Slots
import IdentityBridge.Proofs.Text.Replacement
import IdentityBridge.Proofs.Http.Redirection
import IdentityBridge.Proofs.Pattern.Language
import IdentityBridge.Proofs.Session.LogoutPath
import IdentityBridge.Proofs.Vault.Scope
