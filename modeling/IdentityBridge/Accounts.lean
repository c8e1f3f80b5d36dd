import IdentityBridge.Directory.Profile
import IdentityBridge.Directory.Shards

/-! The accounts of users in a directory: their profiles and the groups they belong to, with large
groups sharded where that is configured. -/

namespace IdentityBridge

structure Accounts where
  /-- The facts that profiles hold. -/
  known : List String := Profile.knownFacts
  shards : Option Shards := none

namespace Accounts

/-- Create a profile. -/
def create (a : Accounts) (user : Reference) (facts : Fields) (d : Directory) : Bool × Directory :=
  d.createProfile a.known user facts

/-- Write the facts that differ to a profile. -/
def update (a : Accounts) (user : Reference) (facts : Fields) (comment : String) (d : Directory) :
    Except DirectoryError (Bool × Directory) :=
  if d.outages.profileUpdate then .error .profileUpdateFailed
  else .ok (d.updateProfile a.known user facts comment)

/-- Join and leave groups. -/
def synchronizeMembership (a : Accounts) (user : Reference) (joins creates leaves : List Reference)
    (comment : String) (d : Directory) : Bool × Directory :=
  match a.shards with
  | some shards => d.synchronizeShards shards user joins creates leaves comment
  | none => d.synchronizeMembership user joins creates leaves comment

end Accounts

end IdentityBridge
