import Mathlib
import IdentityBridge.Proofs.Pattern.Language
import IdentityBridge.Proofs.Session.Logout
import IdentityBridge.Proofs.Session.Run

/-! The paths that log out unless a pattern is configured for them. The pattern stands for a language of
fronts, each followed by the word of a logout, and a path logs out where it begins with a text of this
language. On every other path an authentication does no more than it is asked for anywhere. -/

namespace IdentityBridge

open Pattern

/-- A segment of a path: it is not empty, and has no slash in it. -/
def IsSegment (s : String) : Prop := s ≠ "" ∧ '/' ∉ s.toList

/-- The paths of logouts: the word stands at the start, or behind one segment, or behind one segment of
`wiki`. Whatever follows does not matter. -/
inductive LogoutPath : String → Prop where
  | direct (rest : String) : LogoutPath ("/logout" ++ rest)
  | segment (s rest : String) (h : IsSegment s) : LogoutPath ("/" ++ s ++ "/logout" ++ rest)
  | wiki (s rest : String) (h : IsSegment s) : LogoutPath ("/wiki/" ++ s ++ "/logout" ++ rest)

namespace LogoutPath

/-! ### The pattern -/

def slash : Node := .char (.only '/')

/-- A segment and the slash behind it. -/
def segmentNode : Node := .seq (.loop .greedy 1 none (.char (.but '/'))) slash

/-- What stands before the word. -/
def frontNode : Node :=
  .alt slash (.alt (spelled "/".toList segmentNode) (spelled "/wiki/".toList segmentNode))

def pattern : Pattern where
  node := .seq (.group 1 frontNode) (spelled "logout".toList (.loop .greedy 0 none slash))
  groupCount := 1
  names := []

theorem read_pattern (characters : Pattern.CharacterNames) :
    Pattern.read Configuration.defaultLogoutPattern characters = .ok pattern := by cbv

/-! ### Its language -/

def slashes : Language Char := single (.only '/')

/-- The texts of segments, each with the slash behind it. -/
def segments : Language Char := repeated (single (.but '/')) 1 none * slashes

def fronts : Language Char := slashes + ({"/".toList} * segments + {"/wiki/".toList} * segments)

theorem standsFor_segmentNode : StandsFor segmentNode segments :=
  .seq (.loop (by decide) (by simp) (.char _)) (.char _)

theorem standsFor_pattern :
    StandsFor pattern.node (fronts * ({"logout".toList} * repeated slashes 0 none)) :=
  .seq
    (.group (.alt (.char _)
      (.alt (standsFor_spelled standsFor_segmentNode _) (standsFor_spelled standsFor_segmentNode _))))
    (standsFor_spelled (.loop (by decide) (by simp) (.char _)) _)

theorem mem_slashes {front : List Char} : front ∈ slashes ↔ front = "/".toList := by
  rw [slashes, single_only]
  rfl

theorem mem_segments {cs : List Char} :
    cs ∈ segments ↔ ∃ s, IsSegment s ∧ s.toList ++ "/".toList = cs := by
  rw [segments, Language.mem_mul]
  constructor
  · rintro ⟨s, hs, _, hslash, rfl⟩
    obtain ⟨hn, -, hc⟩ := mem_repeated_single.1 hs
    obtain rfl := mem_slashes.1 hslash
    refine ⟨String.ofList s, ⟨?_, ?_⟩, by rw [String.toList_ofList]⟩
    · simpa using List.ne_nil_of_length_pos hn
    · rw [String.toList_ofList]
      exact fun h => (CharSet.holds_but '/' '/').1 (hc _ h) rfl
  · rintro ⟨s, ⟨hne, hslash⟩, rfl⟩
    refine ⟨s.toList, mem_repeated_single.2 ⟨?_, by simp, fun c hc => ?_⟩, _, mem_slashes.2 rfl, rfl⟩
    · exact List.length_pos_iff.2 (by simpa using hne)
    · exact (CharSet.holds_but '/' c).2 fun h => hslash (h ▸ hc)

theorem mem_fronts {cs : List Char} : cs ∈ fronts ↔ cs = "/".toList ∨ ∃ s, IsSegment s ∧
    ("/".toList ++ s.toList ++ "/".toList = cs ∨ "/wiki/".toList ++ s.toList ++ "/".toList = cs) := by
  simp only [fronts, Language.mem_add, mem_slashes, mem_singleton_mul, mem_segments, List.append_assoc]
  constructor
  · rintro (h | ⟨_, ⟨s, hs, rfl⟩, h⟩ | ⟨_, ⟨s, hs, rfl⟩, h⟩)
    · exact .inl h
    · exact .inr ⟨s, hs, .inl h⟩
    · exact .inr ⟨s, hs, .inr h⟩
  · rintro (h | ⟨s, hs, h | h⟩)
    · exact .inl h
    · exact .inr (.inl ⟨_, ⟨s, hs, rfl⟩, h⟩)
    · exact .inr (.inr ⟨_, ⟨s, hs, rfl⟩, h⟩)

/-- The slashes behind the word need not be there. -/
theorem begins_iff {cs : List Char} :
    (∃ s ∈ fronts * ({"logout".toList} * repeated slashes 0 none), s <+: cs) ↔
      ∃ front ∈ fronts, ∃ rest, front ++ "logout".toList ++ rest = cs := by
  constructor
  · rintro ⟨_, hs, rest, rfl⟩
    obtain ⟨front, hf, _, ht, rfl⟩ := Language.mem_mul.1 hs
    obtain ⟨t, -, rfl⟩ := mem_singleton_mul.1 ht
    exact ⟨front, hf, t ++ rest, by simp only [List.append_assoc]⟩
  · rintro ⟨front, hf, rest, rfl⟩
    have hnone : [] ∈ repeated slashes 0 none := ⟨0, Nat.le_refl 0, by simp, rfl⟩
    refine ⟨_, Language.append_mem_mul hf (mem_singleton_mul.2 ⟨[], hnone, List.append_nil _⟩), rest, rfl⟩

theorem iff_begins {path : String} : LogoutPath path ↔
    ∃ front ∈ fronts, ∃ rest, front ++ "logout".toList ++ rest = path.toList := by
  constructor
  · rintro (rest | ⟨s, rest, h⟩ | ⟨s, rest, h⟩)
    · exact ⟨_, mem_fronts.2 (.inl rfl), rest.toList, by simp⟩
    · exact ⟨_, mem_fronts.2 (.inr ⟨s, h, .inl rfl⟩), rest.toList, by simp⟩
    · exact ⟨_, mem_fronts.2 (.inr ⟨s, h, .inr rfl⟩), rest.toList, by simp⟩
  · rintro ⟨front, hf, rest, he⟩
    have hpath (text : String) (h : text.toList = front ++ "logout".toList) :
        path = text ++ String.ofList rest := by
      rw [← String.toList_inj, String.toList_append, String.toList_ofList, h, he]
    obtain rfl | ⟨s, hs, rfl | rfl⟩ := mem_fronts.1 hf
    · exact hpath "/logout" rfl ▸ direct _
    · exact hpath ("/" ++ s ++ "/logout") (by simp) ▸ segment s _ hs
    · exact hpath ("/wiki/" ++ s ++ "/logout") (by simp) ▸ wiki s _ hs

/-- A path is matched where it is one of a logout. -/
theorem matchStart?_pattern (path : String) : (pattern.matchStart? path).isSome ↔ LogoutPath path := by
  rw [matchStart?_isSome standsFor_pattern, begins_iff, iff_begins]

end LogoutPath

namespace Authenticator

variable {x : Authenticator} {w : World}

/-- Where no logout is asked for, an authentication performs its move and is done. -/
theorem authenticate_elsewhere (hl : x.isLogout w.exchange.request.path = .ok false) :
    x.authenticate w = (x.move (x.assertion w.exchange.request) (x.vault.retrieve w.exchange)).perform x
      (x.assertion w.exchange.request) w := by
  simp only [authenticate, request_settle, hl, ← settle_eq]

theorem matchesPath_default (path : String) (characters : Pattern.CharacterNames) :
    matchesPath Configuration.defaultLogoutPattern path characters =
      .ok (LogoutPath.pattern.matchStart? path).isSome := by
  simp only [matchesPath, LogoutPath.read_pattern]

/-- The default pattern matches the paths of logouts and no others. Under it, who authenticates on such a
path is forgotten; on any other path nothing is done but the move that the remembered user and the
assertion call for. -/
theorem default_logout_paths (path : String) :
    (∀ characters : Pattern.CharacterNames,
      (matchesPath Configuration.defaultLogoutPattern path characters = .ok true ↔ LogoutPath path) ∧
      (matchesPath Configuration.defaultLogoutPattern path characters = .ok false ↔ ¬ LogoutPath path)) ∧
    ∀ (x : Authenticator) (w : World),
      x.configuration.logoutPattern = Configuration.defaultLogoutPattern →
      w.exchange.request.path = path →
      (LogoutPath path → (x.authenticate w).2.exchange = (x.vault.clear w.exchange).redirecting
        ((x.assertion w.exchange.request).logoutUrl none).isSome) ∧
      (¬ LogoutPath path → x.authenticate w =
        (x.move (x.assertion w.exchange.request) (x.vault.retrieve w.exchange)).perform x
          (x.assertion w.exchange.request) w) := by
  have hm (characters : Pattern.CharacterNames) (b : Bool) :
      matchesPath Configuration.defaultLogoutPattern path characters = .ok b ↔
        (LogoutPath.pattern.matchStart? path).isSome = b := by
    rw [matchesPath_default, Except.ok.injEq]
  have htrue (characters : Pattern.CharacterNames) :
      matchesPath Configuration.defaultLogoutPattern path characters = .ok true ↔ LogoutPath path :=
    (hm characters true).trans (LogoutPath.matchStart?_pattern path)
  have hfalse (characters : Pattern.CharacterNames) :
      matchesPath Configuration.defaultLogoutPattern path characters = .ok false ↔ ¬ LogoutPath path := by
    rw [hm characters false, ← LogoutPath.matchStart?_pattern, Bool.not_eq_true]
  refine ⟨fun characters => ⟨htrue characters, hfalse characters⟩, fun x w hx hw =>
    ⟨fun h => ?_, fun h => ?_⟩⟩
  · refine exchange_authenticate ?_
    rw [isLogout, hx, hw, (htrue _).2 h]
  · refine authenticate_elsewhere ?_
    rw [isLogout, hx, hw, (hfalse _).2 h]

/-! ### An example -/

/-- A bridge without a pattern of its own, which takes a remembered user on trust. -/
def warden : Authenticator := { greeter with
  configuration := .ofSettings {
    properties := .ofList [("authentication.trusted.isPersistenceStoreTrusted", "true")] } }

/-- A remembered user asks for a page. -/
def stroll (path : String) : World where
  directory := .empty
  exchange := { request := { path }, session := some { principal := some alice.serialize } }

theorem warden_pattern : warden.configuration.logoutPattern = Configuration.defaultLogoutPattern := rfl

theorem warden_trusts : warden.configuration.trustsVault = true := by cbv

theorem warden_move (a : Assertion) :
    warden.move a (some alice.serialize) = .answer (.ok (some alice)) := by
  have hr : warden.configuration.resolve alice.serialize = alice :=
    Reference.resolve_serialize (.inl (by decide)) _
  simp only [move, warden_trusts, if_true, hr]

/-- In a wiki the word is behind the name of the wiki. Without a name in between the path is none of a
logout, and the user stays. -/
theorem warden_sorts : LogoutPath "/wiki/sub/logout/" ∧
    (warden.authenticate (stroll "/wiki/sub/logout/")).2.exchange.session = some {} ∧
    ¬ LogoutPath "/wiki//logout" ∧
    warden.authenticate (stroll "/wiki//logout") = (.ok (some alice), stroll "/wiki//logout") := by
  have hin : LogoutPath "/wiki/sub/logout/" := .wiki "sub" "/" ⟨by decide, by decide⟩
  have hout : ¬ LogoutPath "/wiki//logout" := ((default_logout_paths _).1 Pattern.nameless).2.1 (by cbv)
  have hr : warden.vault.retrieve (stroll "/wiki//logout").exchange = some alice.serialize := rfl
  refine ⟨hin, ?_, hout, ?_⟩
  · rw [((default_logout_paths _).2 warden (stroll _) warden_pattern rfl).1 hin]
    rfl
  · rw [((default_logout_paths _).2 warden (stroll _) warden_pattern rfl).2 hout, hr, warden_move]
    rfl

end Authenticator

end IdentityBridge
