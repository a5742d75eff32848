import ShardRouting.Tally
import ShardRouting.Topology.Basic

namespace ShardRouting

/-- The least index below `lo + len` at which `p` fails, or `lo + len`, found by halving an interval
on whose first part `p` holds and on whose second it fails. -/
def bisect (p : Nat → Bool) (fuel lo len : Nat) : Nat :=
  match fuel with
  | 0 => lo
  | fuel + 1 =>
    if len = 0 then lo
    else if p (lo + len / 2) then bisect p fuel (lo + len / 2 + 1) (len - len / 2 - 1)
    else bisect p fuel lo (len / 2)

abbrev RangeTable := List BucketRange

namespace RangeTable

def countUpTo (t : RangeTable) (b : Bucket) : Nat :=
  bisect (fun i => t[i]?.any (·.start ≤ b)) t.length 0 t.length

def position? (t : RangeTable) (b : Bucket) : Option Nat :=
  match t.countUpTo b with
  | 0 => none
  | i + 1 => some i

/-- A bucket that precedes every start is taken into the last range and counts as a corruption. -/
def locate (t : RangeTable) (b : Bucket) : Metered Nat :=
  match t.position? b with
  | some i => pure i
  | none => .count { routeCorruption := 1 } (t.length - 1)

def index (t : RangeTable) (b : Bucket) : Nat := (t.locate b).value

def ownerAt (t : RangeTable) (i : Nat) : ShardNumber := (t[i]?.map (·.shard)).getD 0

def owner (t : RangeTable) (b : Bucket) : ShardNumber := t.ownerAt (t.index b)

def nextStart (space : UInt32) : RangeTable → UInt32
  | [] => space
  | r :: _ => r.start

def stop (space : UInt32) (t : RangeTable) (i : Nat) : UInt32 := nextStart space (t.drop (i + 1))

def intervals (space : UInt32) : RangeTable → List (Bucket × UInt32 × ShardNumber)
  | [] => []
  | r :: rest => (r.start, nextStart space rest, r.shard) :: intervals space rest

def ownedBy (space : UInt32) (t : RangeTable) (s : ShardNumber) : List (Bucket × UInt32) :=
  ((t.intervals space).filter (·.2.2 = s)).map fun i => (i.1, i.2.1)

def mergeAfter (s : ShardNumber) : RangeTable → RangeTable
  | [] => []
  | r :: rest => if r.shard = s then mergeAfter s rest else r :: mergeAfter r.shard rest

def merge : RangeTable → RangeTable
  | [] => []
  | r :: rest => r :: mergeAfter r.shard rest

def split (t : RangeTable) (b : Bucket) (s : ShardNumber) : RangeTable :=
  t.takeWhile (·.start < b) ++ ⟨b, s⟩ :: t.dropWhile (·.start < b)

def cutOut (space : UInt32) (t : RangeTable) (b : Bucket) (s : ShardNumber) : RangeTable :=
  let i := t.index b
  let held := t[i]?.toList
  let before := held.filter (·.start < b)
  let after := (held.filter fun _ => b + 1 < t.stop space i).map fun r => ⟨b + 1, r.shard⟩
  t.take i ++ (before ++ ⟨b, s⟩ :: after) ++ t.drop (i + 1)

def reassign (space : UInt32) (t : RangeTable) (b : Bucket) (s : ShardNumber) : RangeTable :=
  (t.cutOut space b s).merge

end RangeTable

end ShardRouting
