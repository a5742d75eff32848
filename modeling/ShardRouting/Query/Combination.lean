import ShardRouting.Query.Fingerprint
import ShardRouting.Query.Result
import ShardRouting.Tally
import ShardRouting.Trap

/-!
Combination of shard answers. Answers are taken in ascending shard order, whatever order they
arrived in. Where shards disagree on what should be the same everywhere, the lowest shard's value
stays and a warning is counted.
-/

namespace ShardRouting

structure Includes where
  found : OrderedMap String IncludePayload
  missing : OrderedSet String

namespace Includes

def empty : Includes := ⟨.empty, .empty⟩

def add (i : Includes) (kind : IncludeKind) (id : String) : Option Json → Includes
  | some data => ⟨i.found.insertNew id (.wrap kind id data), i.missing.erase id⟩
  | none => if i.found.contains id then i else ⟨i.found, i.missing.insert id⟩

def addAll (i : Includes) (kind : IncludeKind) (m : OrderedMap String (Option Json)) : Includes :=
  m.entries.foldl (fun i e => i.add kind e.1 e.2) i

end Includes

structure Combination where
  indexName : String
  includedPaths : Option (List String)
  totalResults : UInt64 := 0
  skippedResults : UInt64 := 0
  isStale : Bool := false
  indexTimestamp : Timestamp
  lastQueryTime : Timestamp
  raftCommandIndex : Option UInt64 := none
  etags : List (ShardNumber × UInt64) := []
  results : List Json := []
  includes : Includes := .empty

namespace Combination

def opening (first : Option QueryResult) : Combination where
  indexName := first.elim "" (·.indexName)
  includedPaths := first.bind (·.includedPaths)
  indexTimestamp := first.elim .epoch (·.indexTimestamp)
  lastQueryTime := first.elim .epoch (·.lastQueryTime)

def laterCommand : Option UInt64 → Option UInt64 → Option UInt64
  | some a, some b => some (max a b)
  | a, none => a
  | none, b => b

def disagreements (c : Combination) (r : QueryResult) : Nat :=
  (if r.indexName = c.indexName then 0 else 1) +
    (if r.includedPaths = c.includedPaths then 0 else 1)

def add (kind : IncludeKind) (c : Combination) (s : ShardNumber) (r : QueryResult) :
    Metered (Except Trap Combination) :=
  match addWords c.totalResults r.totalResults, addWords c.skippedResults r.skippedResults with
  | .ok total, .ok skipped =>
    .count { combineWarnings := c.disagreements r } <| .ok { c with
      totalResults := total
      skippedResults := skipped
      isStale := c.isStale || r.isStale
      indexTimestamp := c.indexTimestamp.latest r.indexTimestamp
      lastQueryTime := c.lastQueryTime.latest r.lastQueryTime
      raftCommandIndex := laterCommand c.raftCommandIndex r.raftCommandIndex
      etags := c.etags ++ [(s, r.resultEtag)]
      results := c.results ++ r.results
      includes := c.includes.addAll kind r.includes }
  | .error t, _ => pure (.error t)
  | _, .error t => pure (.error t)

def addAll (kind : IncludeKind) (c : Combination) :
    List (ShardNumber × QueryResult) → Metered (Except Trap Combination)
  | [] => pure (.ok c)
  | (s, r) :: rest => do
    match ← c.add kind s r with
    | .error t => pure (.error t)
    | .ok c => c.addAll kind rest

def finish (c : Combination) : CombinedResult where
  indexName := c.indexName
  includedPaths := c.includedPaths
  totalResults := c.totalResults
  skippedResults := c.skippedResults
  isStale := c.isStale
  indexTimestamp := c.indexTimestamp
  lastQueryTime := c.lastQueryTime
  raftCommandIndex := c.raftCommandIndex
  resultEtag := combineEtags c.etags
  results := c.results
  includes := c.includes.found
  missingIncludes := c.includes.missing
  shards := c.etags.map Prod.fst

end Combination

structure Arrivals where
  kind : IncludeKind
  kept : OrderedMap ShardNumber QueryResult

namespace Arrivals

def empty (kind : IncludeKind) : Arrivals := ⟨kind, .empty⟩

/-- Keeps the first answer of a shard and counts a warning for any other; tells whether this one
was kept. -/
def add (a : Arrivals) (s : ShardNumber) (r : QueryResult) : Metered (Bool × Arrivals) :=
  if a.kept.contains s then .count { combineWarnings := 1 } (false, a)
  else pure (true, { a with kept := a.kept.insert s r })

def addAll (a : Arrivals) : List (ShardNumber × QueryResult) → Metered (List Bool × Arrivals)
  | [] => pure ([], a)
  | (s, r) :: rest => do
    let (kept, a) ← a.add s r
    let (others, a) ← a.addAll rest
    pure (kept :: others, a)

def finish (a : Arrivals) : Metered (Except Trap CombinedResult) := do
  let opening := Combination.opening a.kept.values.head?
  return (← opening.addAll a.kind a.kept.entries).map (·.finish)

end Arrivals

def combine (kind : IncludeKind) (m : OrderedMap ShardNumber QueryResult) :
    Metered (Except Trap CombinedResult) := do
  let (_, a) ← (Arrivals.empty kind).addAll m.entries
  a.finish

end ShardRouting
