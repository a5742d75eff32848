import ShardRouting.Hash.XxHash64
import ShardRouting.Text.Lowercase
import ShardRouting.Text.Quoted
import ShardRouting.Topology.Basic
import ShardRouting.Trap

/-!
From keys to buckets. Of a key only its anchor counts: the lower-cased text after the last separator
past the first character. Keys with one anchor share a bucket.
-/

namespace ShardRouting

inductive RoutingError
  | emptyKey (key : String)
  | bucketOutOfSpace (bucket : Bucket) (space : UInt32)
  | bucketMigrating (bucket : Bucket) (source destination : ShardNumber)
deriving DecidableEq

def RoutingError.message : RoutingError → String
  | .emptyKey key => s!"key {quoted key} has an empty routing anchor"
  | .bucketOutOfSpace bucket space => s!"bucket {bucket} outside bucket space {space}"
  | .bucketMigrating bucket source destination =>
    s!"bucket {bucket} is migrating from shard {source} to shard {destination}"

def afterLast (c : Char) (cs : List Char) : List Char := (cs.reverse.takeWhile (· ≠ c)).reverse

def lastSegment (separator : Char) (cs : List Char) : List Char :=
  if separator ∈ cs.tail then afterLast separator cs.tail else cs

def anchor (key : String) (separator : Char) : String :=
  String.ofList (lastSegment separator (lowercase key).toList)

def bucketFor (key : String) (separator : Char) (space : UInt32) : Attempt RoutingError Bucket :=
  let a := anchor key separator
  if a.isEmpty then .error (.refused (.emptyKey key))
  else if space = 0 then .error (.trapped .zeroDivisor)
  else .ok (xxHash64 a.toUTF8.data.toList % space.toUInt64).toUInt32

end ShardRouting
