import ShardRouting.Decode.Json
import ShardRouting.Decode.Record
import ShardRouting.Ordered.Map
import ShardRouting.Topology.Basic

namespace ShardRouting

namespace Decode

def anyJson (j : Json) : Except Fault Json := .ok j

def map {α : Type} (decode : Json → Except Fault α) (j : Json) :
    Except Fault (OrderedMap String α) := do
  let members ← j.asMembers
  let entries ← members.mapM fun m => (decode m.2).map (m.1, ·)
  .ok (.ofList entries)

end Decode

def Timestamp.toJson (t : Timestamp) : Json := .text t.render

def textsToJson (texts : List String) : Json := .list (texts.map .text)

def mapToJson {α : Type} (f : α → Json) (m : OrderedMap String α) : Json :=
  .object (m.entries.map fun e => (e.1, f e.2))

inductive IncludeKind
  | document
  | raw
deriving DecidableEq

namespace IncludeKind

def name : IncludeKind → String
  | .document => "document"
  | .raw => "raw"

def decode {ν : Type} [Readable ν] (v : ν) : Except Fault IncludeKind :=
  Decode.choice [(document.name, document), (raw.name, raw)] v

def toJson (k : IncludeKind) : Json := .text k.name

end IncludeKind

inductive IncludePayload
  | document (id : String) (data : Json)
  | raw (data : Json)

namespace IncludePayload

def wrap (kind : IncludeKind) (id : String) (data : Json) : IncludePayload :=
  match kind with
  | .document => .document id data
  | .raw => .raw data

def data : IncludePayload → Json
  | .document _ data => data
  | .raw data => data

def decodeDocument : Option Json → Except Fault IncludePayload
  | none => .error (Json.wrong (.invalidType .unitVariant "struct variant"))
  | some (.object members) => do
    let (id, data, ()) ← Fields.read "variant IncludePayload::Document"
      (.cons (.required "id" Decode.text) <| .cons (.required "data" Decode.anyJson) .nil)
      (.object members)
    .ok (.document id data)
  | some j => j.invalidType "struct variant"

def decodeRaw : Option Json → Except Fault IncludePayload
  | none => .error (Json.wrong (.invalidType .unitVariant "newtype variant"))
  | some j => .ok (.raw j)

def decode (j : Json) : Except Fault IncludePayload := do
  let (name, payload) ← j.asVariant
  match name with
  | "Document" => decodeDocument payload
  | "Raw" => decodeRaw payload
  | name => .error (Json.wrong (.unknownVariant name ["Document", "Raw"]))

def toJson : IncludePayload → Json
  | .document id data => .object [("Document", .object [("id", .text id), ("data", data)])]
  | .raw data => .object [("Raw", data)]

end IncludePayload

structure QueryResult where
  indexName : String
  includedPaths : Option (List String)
  totalResults : UInt64
  skippedResults : UInt64
  isStale : Bool
  indexTimestamp : Timestamp
  lastQueryTime : Timestamp
  raftCommandIndex : Option UInt64
  resultEtag : UInt64
  results : List Json
  includes : OrderedMap String (Option Json)

namespace QueryResult

def decode (j : Json) : Except Fault QueryResult := do
  let (indexName, includedPaths, totalResults, skippedResults, isStale, indexTimestamp,
      lastQueryTime, raftCommandIndex, resultEtag, results, includes, ()) ←
    Fields.read "QueryResult"
      (.cons (.required "index_name" Decode.text) <|
        .cons (.optional "included_paths" (Decode.list Decode.text)) <|
        .cons (.required "total_results" Decode.word) <|
        .cons (.required "skipped_results" Decode.word) <|
        .cons (.required "is_stale" Readable.boolean) <|
        .cons (.required "index_timestamp" Decode.timestamp) <|
        .cons (.required "last_query_time" Decode.timestamp) <|
        .cons (.optional "raft_command_index" Decode.word) <|
        .cons (.required "result_etag" Decode.word) <|
        .cons (.required "results" (Decode.list Decode.anyJson)) <|
        .cons (.required "includes" (Decode.map (Decode.optional Decode.anyJson))) .nil) j
  .ok { indexName, includedPaths, totalResults, skippedResults, isStale, indexTimestamp,
        lastQueryTime, raftCommandIndex, resultEtag, results, includes }

def toJson (r : QueryResult) : Json :=
  .object [
    ("index_name", .text r.indexName),
    ("included_paths", .optional textsToJson r.includedPaths),
    ("total_results", .word r.totalResults),
    ("skipped_results", .word r.skippedResults),
    ("is_stale", .boolean r.isStale),
    ("index_timestamp", r.indexTimestamp.toJson),
    ("last_query_time", r.lastQueryTime.toJson),
    ("raft_command_index", .optional .word r.raftCommandIndex),
    ("result_etag", .word r.resultEtag),
    ("results", .list r.results),
    ("includes", mapToJson (Json.optional id) r.includes)]

end QueryResult

structure CombinedResult where
  indexName : String
  includedPaths : Option (List String)
  totalResults : UInt64
  skippedResults : UInt64
  isStale : Bool
  indexTimestamp : Timestamp
  lastQueryTime : Timestamp
  raftCommandIndex : Option UInt64
  resultEtag : UInt64
  results : List Json
  includes : OrderedMap String IncludePayload
  missingIncludes : OrderedSet String
  shards : List ShardNumber

namespace CombinedResult

def etag (r : CombinedResult) : String := toString r.resultEtag

def decode (j : Json) : Except Fault CombinedResult := do
  let (indexName, includedPaths, totalResults, skippedResults, isStale, indexTimestamp,
      lastQueryTime, raftCommandIndex, resultEtag, results, includes, missing, shards, ()) ←
    Fields.read "CombinedResult"
      (.cons (.required "index_name" Decode.text) <|
        .cons (.optional "included_paths" (Decode.list Decode.text)) <|
        .cons (.required "total_results" Decode.word) <|
        .cons (.required "skipped_results" Decode.word) <|
        .cons (.required "is_stale" Readable.boolean) <|
        .cons (.required "index_timestamp" Decode.timestamp) <|
        .cons (.required "last_query_time" Decode.timestamp) <|
        .cons (.optional "raft_command_index" Decode.word) <|
        .cons (.required "result_etag" Decode.word) <|
        .cons (.required "results" (Decode.list Decode.anyJson)) <|
        .cons (.required "includes" (Decode.map IncludePayload.decode)) <|
        .cons (.required "missing_includes" (Decode.list Decode.text)) <|
        .cons (.required "shards" (Decode.list Decode.halfWord)) .nil) j
  .ok { indexName, includedPaths, totalResults, skippedResults, isStale, indexTimestamp,
        lastQueryTime, raftCommandIndex, resultEtag, results, includes,
        missingIncludes := .ofList missing, shards }

def toJson (r : CombinedResult) : Json :=
  .object [
    ("index_name", .text r.indexName),
    ("included_paths", .optional textsToJson r.includedPaths),
    ("total_results", .word r.totalResults),
    ("skipped_results", .word r.skippedResults),
    ("is_stale", .boolean r.isStale),
    ("index_timestamp", r.indexTimestamp.toJson),
    ("last_query_time", r.lastQueryTime.toJson),
    ("raft_command_index", .optional .word r.raftCommandIndex),
    ("result_etag", .word r.resultEtag),
    ("results", .list r.results),
    ("includes", mapToJson IncludePayload.toJson r.includes),
    ("missing_includes", textsToJson r.missingIncludes.toList),
    ("shards", .list (r.shards.map .halfWord))]

end CombinedResult

structure IndexQuery where
  query : String
  parameters : Json := .null
  includeKind : IncludeKind := .document

namespace IndexQuery

def decode (j : Json) : Except Fault IndexQuery := do
  let (query, parameters, includeKind, ()) ← Fields.read "IndexQuery"
    (.cons (.required "query" Decode.text) <|
      .cons (.defaulted "parameters" Decode.anyJson .null) <|
      .cons (.defaulted "include_kind" IncludeKind.decode .document) .nil) j
  .ok { query, parameters, includeKind }

def toJson (q : IndexQuery) : Json :=
  .object [
    ("query", .text q.query),
    ("parameters", q.parameters),
    ("include_kind", q.includeKind.toJson)]

end IndexQuery

end ShardRouting
