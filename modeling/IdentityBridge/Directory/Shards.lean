import IdentityBridge.Crypto.Sha256
import IdentityBridge.Directory.Membership

/-! Sharded groups. The members of a large group are spread over up to sixteen shards, which are groups
beside it and members of it. The shard of a user is told by the digest of the user's written form. -/

namespace IdentityBridge

/-- The groups that are sharded, by page name. -/
structure Shards where
  names : List String
  mainWiki : String

namespace Shards

def splits (s : Shards) (group : Reference) : Bool := s.names.contains group.name

/-- The digit of the shard of a user: the first hexadecimal digit of the digest. -/
def digit (s : Shards) (user : Reference) : Char :=
  match Crypto.Sha256.digest (user.compact s.mainWiki).toUTF8.toList with
  | first :: _ => Char.toUpper (Nat.digitChar (first.toNat / 16))
  | [] => '0'

/-- The group in which a user is to be stored: a shard of it, or the group itself if it has none. -/
def shardOf (s : Shards) (group user : Reference) : Reference :=
  if s.splits group then group.sibling (group.name ++ "-Shard" ++ (s.digit user).toString) else group

end Shards

namespace Directory

/-- Make a shard a member of its group. -/
def linkShard (d : Directory) (group shard : Reference) : Directory :=
  Prod.snd <| d.attempt do
    if (← d.members group).contains shard then return (true, d)
    let page ← d.load group
    let entry := [(Page.memberProperty, Page.memberName group shard)]
    let page := page.add Page.groupClass (.ofList entry)
    return (true, ← d.save page ("Add shard [" ++ shard.name ++ "]"))

/-- Make the shards of a user members of their groups, where these have shards. -/
def linkShards (d : Directory) (shards : Shards) (user : Reference) (groups : List Reference) :
    Directory :=
  groups.foldl (fun d group =>
    let shard := shards.shardOf group user
    if shard = group then d else d.linkShard group shard) d

/-- Join and leave groups by way of their shards. A group that is left is left itself too, in case it
was joined before it had shards; a shard that is to be joined is not left. -/
def synchronizeShards (d : Directory) (shards : Shards) (user : Reference)
    (joins creates leaves : List Reference) (comment : String) : Bool × Directory :=
  let shardsOf (groups : List Reference) : List Reference :=
    groups.foldl (fun set group => insertNew (shards.shardOf group user) set) []
  let joins := shardsOf joins
  let d := d.linkShards shards user creates
  let creates := shardsOf creates
  let leaves := leaves.foldl (fun set group =>
    insertNew group (insertNew (shards.shardOf group user) set)) []
  d.synchronizeMembership user joins creates
    (leaves.filter fun g => g ∉ joins && g ∉ creates) comment

end Directory

end IdentityBridge
