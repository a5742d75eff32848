import ShardRouting.Proofs.Query.Wire

namespace ShardRouting

open Decode

namespace IncludeKind

theorem name_injective : Function.Injective name := by
  intro k l h
  cases k <;> cases l <;> simp_all [name]

theorem decode_eq_ok {j : Json} {k : IncludeKind} : decode j = .ok k ↔ j.Names k.name :=
  choice_eq_ok_of_named name_injective (l := [document, raw]) (by cases k <;> simp)

end IncludeKind

namespace IncludePayload

inductive Written : IncludePayload → Json → Prop
  | document {id : String} {data : Json} {members : List (String × Json)}
    (id_named : Json.under "id" members = [.text id])
    (data_named : Json.under "data" members = [data]) :
    Written (.document id data) (.object [("Document", .object members)])
  | raw {data : Json} : Written (.raw data) (.object [("Raw", data)])

theorem decodeDocument_eq_ok {payload : Option Json} {p : IncludePayload} :
    decodeDocument payload = .ok p ↔ ∃ members id data, payload = some (.object members) ∧
      Json.under "id" members = [.text id] ∧ Json.under "data" members = [data] ∧
      p = .document id data := by
  cases payload with
  | none => simp [decodeDocument]
  | some j =>
    cases j with
    | object members =>
      rw [decodeDocument, bind_eq_ok]
      constructor
      · rintro ⟨⟨id, data, ⟨⟩⟩, hread, ⟨⟩⟩
        cases (Fields.read_eq_ok (by simp [Fields.names])).mp hread with
        | named h =>
          simp only [Fields.Gathers, Field.takes_required, text_eq_ok, anyJson, Except.ok.injEq,
            exists_eq_right] at h
          exact ⟨members, id, data, rfl, h.1, h.2.1, rfl⟩
      · rintro ⟨_, id, data, ⟨⟩, hid, hdata, rfl⟩
        refine ⟨(id, data, ()), (Fields.read_eq_ok (by simp [Fields.names])).mpr (.named ?_), rfl⟩
        simp [Fields.Gathers, Field.takes_required, text_eq_ok, anyJson, hid, hdata]
    | _ => simp [decodeDocument, Json.invalidType]

theorem decodeRaw_eq_ok {payload : Option Json} {p : IncludePayload} :
    decodeRaw payload = .ok p ↔ ∃ data, payload = some data ∧ p = .raw data := by
  cases payload <;> simp [decodeRaw, eq_comm]

theorem decode_eq_ok {j : Json} {p : IncludePayload} : decode j = .ok p ↔ p.Written j := by
  rw [decode, bind_eq_ok]
  constructor
  · rintro ⟨⟨name, payload⟩, hvariant, h⟩
    dsimp only at h
    split at h
    · obtain ⟨members, id, data, rfl, hid, hdata, rfl⟩ := decodeDocument_eq_ok.mp h
      obtain ⟨⟨⟩, -⟩ | ⟨_, ⟨⟩, rfl⟩ := variant_eq_ok.mp hvariant
      exact .document hid hdata
    · obtain ⟨data, rfl, rfl⟩ := decodeRaw_eq_ok.mp h
      obtain ⟨⟨⟩, -⟩ | ⟨_, ⟨⟩, rfl⟩ := variant_eq_ok.mp hvariant
      exact .raw
    · cases h
  · intro h
    cases h with
    | @document id data members hid hdata =>
      exact ⟨("Document", some (.object members)), rfl,
        decodeDocument_eq_ok.mpr ⟨members, id, data, rfl, hid, hdata, rfl⟩⟩
    | @raw data => exact ⟨("Raw", some data), rfl, rfl⟩

theorem written_toJson (p : IncludePayload) : p.Written p.toJson := by
  cases p with
  | document id data => exact .document rfl rfl
  | raw data => exact .raw

end IncludePayload

namespace CombinedResult

inductive IncludesWritten (includes : OrderedMap String IncludePayload) : Json → Prop
  | object {members : List (String × Json)} {entries : List (String × IncludePayload)}
    (h : List.Forall₂ (fun v e => v.1 = e.1 ∧ e.2.Written v.2) members entries)
    (hentries : includes = .ofList entries) : IncludesWritten includes (.object members)

theorem includes_eq_ok {j : Json} {includes : OrderedMap String IncludePayload} :
    Decode.map IncludePayload.decode j = .ok includes ↔ IncludesWritten includes j := by
  simp only [map_decode_eq_ok, IncludePayload.decode_eq_ok]
  constructor
  · rintro ⟨members, entries, rfl, h, hentries⟩
    exact .object h hentries
  · rintro ⟨h, hentries⟩
    exact ⟨_, _, rfl, h, hentries⟩

theorem includesWritten_mapToJson (includes : OrderedMap String IncludePayload) :
    IncludesWritten includes (mapToJson IncludePayload.toJson includes) := by
  refine .object ?_ (OrderedMap.ofList_entries includes).symm
  rw [List.forall₂_map_left_iff, List.forall₂_same]
  exact fun e _ => ⟨rfl, e.2.written_toJson⟩

inductive Written (r : CombinedResult) : Json → Prop
  | named {members : List (String × Json)} {indexed queried : String} {includes : Json}
    {missing : List String}
    (index_name : Json.under "index_name" members = [.text r.indexName])
    (included_paths :
      Json.under "included_paths" members = [.optional textsToJson r.includedPaths] ∨
        Json.under "included_paths" members = [] ∧ r.includedPaths = none)
    (total_results : Json.under "total_results" members = [.word r.totalResults])
    (skipped_results : Json.under "skipped_results" members = [.word r.skippedResults])
    (is_stale : Json.under "is_stale" members = [.boolean r.isStale])
    (index_timestamp : Json.under "index_timestamp" members = [.text indexed])
    (last_query_time : Json.under "last_query_time" members = [.text queried])
    (raft_command_index :
      Json.under "raft_command_index" members = [.optional .word r.raftCommandIndex] ∨
        Json.under "raft_command_index" members = [] ∧ r.raftCommandIndex = none)
    (result_etag : Json.under "result_etag" members = [.word r.resultEtag])
    (results : Json.under "results" members = [.list r.results])
    (includes_named : Json.under "includes" members = [includes])
    (missing_includes : Json.under "missing_includes" members = [textsToJson missing])
    (shards : Json.under "shards" members = [.list (r.shards.map .halfWord)])
    (hindexed : Timestamp.parse indexed = .ok r.indexTimestamp)
    (hqueried : Timestamp.parse queried = .ok r.lastQueryTime)
    (hincludes : IncludesWritten r.includes includes)
    (hmissing : r.missingIncludes = .ofList missing) :
    Written r (.object members)
  | listed {indexed queried : String} {includes : Json} {missing : List String}
    (hindexed : Timestamp.parse indexed = .ok r.indexTimestamp)
    (hqueried : Timestamp.parse queried = .ok r.lastQueryTime)
    (hincludes : IncludesWritten r.includes includes)
    (hmissing : r.missingIncludes = .ofList missing) :
    Written r (.list [.text r.indexName, .optional textsToJson r.includedPaths,
      .word r.totalResults, .word r.skippedResults, .boolean r.isStale, .text indexed,
      .text queried, .optional .word r.raftCommandIndex, .word r.resultEtag, .list r.results,
      includes, textsToJson missing, .list (r.shards.map .halfWord)])

theorem halfWords_eq_ok {j : Json} {shards : List ShardNumber} :
    Decode.list Decode.halfWord j = .ok shards ↔ j = .list (shards.map .halfWord) :=
  list_eq_ok_of_iff fun _ _ => halfWord_eq_ok

theorem written_of_decode {j : Json} {r : CombinedResult} (h : decode j = .ok r) : r.Written j := by
  rw [decode, bind_eq_ok] at h
  obtain ⟨⟨indexName, includedPaths, totalResults, skippedResults, isStale, indexTimestamp,
    lastQueryTime, raftCommandIndex, resultEtag, results, includes, missing, shards, ⟨⟩⟩, hread,
    ⟨⟩⟩ := h
  cases (Fields.read_eq_ok (by simp [Fields.names])).mp hread with
  | named h =>
    simp only [Fields.Gathers, Field.takes_required, Field.takes_optional, Field.required_name,
      Field.optional_name, text_eq_ok, word_eq_ok, boolean_eq_ok, timestamp_eq_ok,
      optional_texts_eq_ok, optional_word_eq_ok, rows_eq_ok, includes_eq_ok, texts_eq_ok,
      halfWords_eq_ok, exists_eq_right] at h
    obtain ⟨hname, hpaths, htotal, hskipped, hstale, ⟨_, hindex, _, rfl, hindexed⟩,
      ⟨_, hquery, _, rfl, hqueried⟩, hcommand, hetag, hresults, ⟨_, hincludes, hwritten⟩, hmissing,
      hshards, -⟩ := h
    exact .named hname hpaths htotal hskipped hstale hindex hquery hcommand hetag hresults
      hincludes hmissing hshards hindexed hqueried hwritten rfl
  | listed h =>
    simp only [Fields.lists_required, Fields.lists_optional, Fields.Lists, text_eq_ok, word_eq_ok,
      boolean_eq_ok, timestamp_eq_ok, optional_texts_eq_ok, optional_word_eq_ok, rows_eq_ok,
      includes_eq_ok, texts_eq_ok, halfWords_eq_ok, existsAndEq, true_and] at h
    obtain ⟨_, _, _, rfl, hindexed, hqueried, hwritten, -⟩ := h
    exact .listed hindexed hqueried hwritten rfl

theorem decode_of_written {j : Json} {r : CombinedResult} (h : r.Written j) : decode j = .ok r := by
  rw [decode, bind_eq_ok]
  cases h with
  | @named members indexed queried includes missing hname hpaths htotal hskipped hstale hindex
      hquery hcommand hetag hresults hincludes hlist hshards hindexed hqueried hwritten hmissing =>
    refine ⟨(r.indexName, r.includedPaths, r.totalResults, r.skippedResults, r.isStale,
      r.indexTimestamp, r.lastQueryTime, r.raftCommandIndex, r.resultEtag, r.results, r.includes,
      missing, r.shards, ()), (Fields.read_eq_ok (by simp [Fields.names])).mpr (.named ?_),
      congrArg (fun s => Except.ok { r with missingIncludes := s }) hmissing.symm⟩
    simp only [Fields.Gathers, Field.takes_required, Field.takes_optional, Field.required_name,
      Field.optional_name, text_eq_ok, word_eq_ok, boolean_eq_ok, timestamp_eq_ok,
      optional_texts_eq_ok, optional_word_eq_ok, rows_eq_ok, includes_eq_ok, texts_eq_ok,
      halfWords_eq_ok, exists_eq_right]
    exact ⟨hname, hpaths, htotal, hskipped, hstale, ⟨_, hindex, _, rfl, hindexed⟩,
      ⟨_, hquery, _, rfl, hqueried⟩, hcommand, hetag, hresults, ⟨_, hincludes, hwritten⟩, hlist,
      hshards, trivial⟩
  | @listed indexed queried includes missing hindexed hqueried hwritten hmissing =>
    refine ⟨(r.indexName, r.includedPaths, r.totalResults, r.skippedResults, r.isStale,
      r.indexTimestamp, r.lastQueryTime, r.raftCommandIndex, r.resultEtag, r.results, r.includes,
      missing, r.shards, ()), (Fields.read_eq_ok (by simp [Fields.names])).mpr (.listed ?_),
      congrArg (fun s => Except.ok { r with missingIncludes := s }) hmissing.symm⟩
    simp [Fields.Lists, text_eq_ok, word_eq_ok, boolean_eq_ok, timestamp_eq_ok,
      optional_texts_eq_ok, optional_word_eq_ok, rows_eq_ok, includes_eq_ok, texts_eq_ok,
      halfWords_eq_ok, hindexed, hqueried, hwritten]

theorem decode_eq_ok {j : Json} {r : CombinedResult} : decode j = .ok r ↔ r.Written j :=
  ⟨written_of_decode, decode_of_written⟩

theorem written_toJson (r : CombinedResult) (hindex : r.indexTimestamp.Legible)
    (hquery : r.lastQueryTime.Legible) : r.Written r.toJson :=
  .named rfl (.inl rfl) rfl rfl rfl rfl rfl (.inl rfl) rfl rfl rfl rfl rfl hindex hquery
    (includesWritten_mapToJson r.includes) (OrderedSet.ofList_toList r.missingIncludes).symm

end CombinedResult

namespace IndexQuery

inductive Written (q : IndexQuery) : Json → Prop
  | named {members : List (String × Json)}
    (query : Json.under "query" members = [.text q.query])
    (parameters : Json.under "parameters" members = [q.parameters] ∨
      Json.under "parameters" members = [] ∧ q.parameters = .null)
    (include_kind : (∃ j, Json.under "include_kind" members = [j] ∧ j.Names q.includeKind.name) ∨
      Json.under "include_kind" members = [] ∧ q.includeKind = .document) :
    Written q (.object members)
  | listed {j : Json} (h : j.Names q.includeKind.name) :
    Written q (.list [.text q.query, q.parameters, j])
  | withoutKind (h : q.includeKind = .document) : Written q (.list [.text q.query, q.parameters])
  | queryOnly (hparameters : q.parameters = .null) (hkind : q.includeKind = .document) :
    Written q (.list [.text q.query])

theorem decode_eq_ok {j : Json} {q : IndexQuery} : decode j = .ok q ↔ q.Written j := by
  rw [decode, bind_eq_ok]
  constructor
  · rintro ⟨⟨query, parameters, includeKind, ⟨⟩⟩, hread, ⟨⟩⟩
    cases (Fields.read_eq_ok (by simp [Fields.names])).mp hread with
    | named h =>
      simp only [Fields.Gathers, Field.takes_required, Field.takes_defaulted, Field.required_name,
        Field.defaulted_name, text_eq_ok, anyJson, Except.ok.injEq, exists_eq_right,
        IncludeKind.decode_eq_ok] at h
      exact .named h.1 h.2.1 h.2.2.1
    | listed h =>
      simp only [Fields.lists_required, Fields.lists_defaulted, Fields.Lists,
        Field.defaulted_whenShort, text_eq_ok, anyJson, Except.ok.injEq, Option.some.injEq,
        IncludeKind.decode_eq_ok] at h
      obtain ⟨_, _, rfl, rfl, h⟩ := h
      rcases h with ⟨_, _, rfl, rfl, h⟩ | ⟨rfl, rfl, rfl, -⟩
      · rcases h with ⟨_, _, rfl, hkind, rfl⟩ | ⟨rfl, rfl, -⟩
        · exact .listed hkind
        · exact .withoutKind rfl
      · exact .queryOnly rfl rfl
  · intro h
    refine ⟨(q.query, q.parameters, q.includeKind, ()),
      (Fields.read_eq_ok (by simp [Fields.names])).mpr ?_, rfl⟩
    cases h with
    | named query parameters include_kind =>
      refine .named ?_
      simp [Fields.Gathers, Field.takes_required, Field.takes_defaulted, text_eq_ok, anyJson,
        IncludeKind.decode_eq_ok, query, parameters, include_kind]
    | listed h =>
      refine .listed ?_
      simp [Fields.Lists, text_eq_ok, anyJson, IncludeKind.decode_eq_ok, h]
    | withoutKind h =>
      refine .listed ?_
      simp [Fields.Lists, text_eq_ok, anyJson, h]
    | queryOnly hparameters hkind =>
      refine .listed ?_
      simp [Fields.Lists, text_eq_ok, hparameters, hkind]

theorem written_toJson (q : IndexQuery) : q.Written q.toJson :=
  .named rfl (.inl rfl) (.inl ⟨_, rfl, .plain⟩)

end IndexQuery

/-- Combined answers and queries are read back from the values they are written as, and an answer or
a query is read from exactly the values that are written for it: objects with the members in any
order, with others among them and without what has a default, and lists of the fields. -/
theorem combined_results_and_queries_round_trip :
    (∀ r : CombinedResult, r.indexTimestamp.Legible → r.lastQueryTime.Legible →
      r.Written r.toJson ∧ CombinedResult.decode r.toJson = .ok r) ∧
    (∀ (j : Json) (r : CombinedResult), CombinedResult.decode j = .ok r ↔ r.Written j) ∧
    (∀ q : IndexQuery, q.Written q.toJson ∧ IndexQuery.decode q.toJson = .ok q) ∧
    ∀ (j : Json) (q : IndexQuery), (IndexQuery.decode j = .ok q ↔ q.Written j) ∧
      (IndexQuery.decode j = .ok q → IndexQuery.decode q.toJson = .ok q) := by
  have hqueries : ∀ q : IndexQuery, IndexQuery.decode q.toJson = .ok q :=
    fun q => IndexQuery.decode_eq_ok.mpr q.written_toJson
  refine ⟨?_, fun j r => CombinedResult.decode_eq_ok, fun q => ⟨q.written_toJson, hqueries q⟩,
    fun j q => ⟨IndexQuery.decode_eq_ok, fun _ => hqueries q⟩⟩
  intro r hindex hquery
  have hwritten := r.written_toJson hindex hquery
  exact ⟨hwritten, CombinedResult.decode_of_written hwritten⟩

def CombinedResult.foundNull : CombinedResult where
  indexName := "Orders/ByCompany"
  includedPaths := none
  totalResults := 2
  skippedResults := 0
  isStale := true
  indexTimestamp := .epoch
  lastQueryTime := .epoch
  raftCommandIndex := some 7
  resultEtag := 11
  results := [.null, .list [.object []]]
  includes := .ofList [("companies/1", .document "companies/1" .null), ("companies/2", .raw .null)]
  missingIncludes := .ofList ["companies/3"]
  shards := [0, 2]

theorem round_trip_foundNull :
    Timestamp.epoch.Legible ∧
      CombinedResult.decode CombinedResult.foundNull.toJson = .ok CombinedResult.foundNull :=
  ⟨QueryResult.epoch_legible, (combined_results_and_queries_round_trip.1 CombinedResult.foundNull
    QueryResult.epoch_legible QueryResult.epoch_legible).2⟩

end ShardRouting
