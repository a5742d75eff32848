import ShardRouting.Decode.Json
import ShardRouting.Decode.Record
import ShardRouting.Loading
import ShardRouting.Topology.Layout

namespace ShardRouting

variable {ν : Type} [Readable ν]

namespace BucketRange

def decode (v : ν) : Except Fault BucketRange := do
  let (start, shard, ()) ← Fields.read "BucketRange"
    (.cons (.required "range_start" Decode.halfWord) <|
      .cons (.required "shard_number" Decode.halfWord) .nil) v
  .ok ⟨start, shard⟩

def toJson (r : BucketRange) : Json :=
  .object [("range_start", .halfWord r.start), ("shard_number", .halfWord r.shard)]

end BucketRange

namespace MoveStatus

def decode (v : ν) : Except Fault MoveStatus :=
  Decode.choice [(moving.name, moving), (done.name, done)] v

def toJson (s : MoveStatus) : Json := .text s.name

end MoveStatus

namespace Migration

def decode (v : ν) : Except Fault Migration := do
  let (bucket, source, destination, status, ()) ← Fields.read "BucketMigration"
    (.cons (.required "bucket" Decode.halfWord) <|
      .cons (.required "source_shard" Decode.halfWord) <|
      .cons (.required "destination_shard" Decode.halfWord) <|
      .cons (.required "status" MoveStatus.decode) .nil) v
  .ok ⟨⟨source, destination, status⟩, bucket⟩

def toJson (m : Migration) : Json :=
  .object [
    ("bucket", .halfWord m.bucket),
    ("source_shard", .halfWord m.source),
    ("destination_shard", .halfWord m.destination),
    ("status", m.status.toJson)]

end Migration

structure TopologyDocument where
  version : UInt64
  space : UInt32
  shards : List ShardNumber
  ranges : List BucketRange
  migrations : List Migration

namespace TopologyDocument

def decode (v : ν) : Except Fault TopologyDocument := do
  let (version, space, shards, ranges, migrations, ()) ← Fields.read "TopologyDocument"
    (.cons (.required "version" Decode.word) <|
      .cons (.defaulted "bucket_space" Decode.halfWord defaultBucketSpace) <|
      .cons (.defaulted "shards" (Decode.list Decode.halfWord) []) <|
      .cons (.required "ranges" (Decode.list BucketRange.decode)) <|
      .cons (.defaulted "migrations" (Decode.list Migration.decode) []) .nil) v
  .ok ⟨version, space, shards, ranges, migrations⟩

def toJson (d : TopologyDocument) : Json :=
  .object [
    ("version", .word d.version),
    ("bucket_space", .halfWord d.space),
    ("shards", .list (d.shards.map .halfWord)),
    ("ranges", .list (d.ranges.map BucketRange.toJson)),
    ("migrations", .list (d.migrations.map Migration.toJson))]

end TopologyDocument

namespace Topology

def ofDocument (d : TopologyDocument) : Except TopologyError Topology :=
  create d.version d.space d.shards d.ranges d.migrations

def document (t : Topology) : TopologyDocument :=
  ⟨t.version, t.space, t.shards.toList, t.ranges, t.migrations⟩

def decode (v : ν) : Except DocumentError Topology := do
  let d ← (TopologyDocument.decode v).mapError .ofFault
  (ofDocument d).mapError .invalid

def toJson (t : Topology) : Json := t.document.toJson

end Topology

end ShardRouting
