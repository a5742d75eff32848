import ShardRouting.Proofs.Decode.Json
import ShardRouting.Proofs.Topology.Validation

namespace ShardRouting

open Decode

namespace BucketRange

inductive Written (r : BucketRange) : Json → Prop
  | named {members : List (String × Json)}
    (start : Json.under "range_start" members = [.halfWord r.start])
    (shard : Json.under "shard_number" members = [.halfWord r.shard]) :
    Written r (.object members)
  | listed : Written r (.list [.halfWord r.start, .halfWord r.shard])

theorem decode_eq_ok {j : Json} {r : BucketRange} : decode j = .ok r ↔ r.Written j := by
  rw [decode, bind_eq_ok]
  constructor
  · rintro ⟨⟨start, shard, ⟨⟩⟩, hread, ⟨⟩⟩
    cases (Fields.read_eq_ok (by simp [Fields.names])).mp hread with
    | named h =>
      simp only [Fields.Gathers, Field.takes_required, halfWord_eq_ok, exists_eq_right] at h
      exact .named h.1 h.2.1
    | listed h =>
      simp only [Fields.lists_required, Fields.Lists, halfWord_eq_ok] at h
      obtain ⟨_, _, rfl, rfl, _, _, rfl, rfl, rfl⟩ := h
      exact .listed
  · intro h
    refine ⟨(r.start, r.shard, ()), (Fields.read_eq_ok (by simp [Fields.names])).mpr ?_, rfl⟩
    cases h with
    | named start shard =>
      refine .named ?_
      simp [Fields.Gathers, Field.takes_required, halfWord_eq_ok, start, shard]
    | listed =>
      refine .listed ?_
      simp [Fields.Lists, halfWord_eq_ok]

theorem written_toJson (r : BucketRange) : r.Written r.toJson := .named rfl rfl

end BucketRange

namespace MoveStatus

inductive Written (s : MoveStatus) : Json → Prop
  | plain : Written s (.text s.name)
  | tagged : Written s (.object [(s.name, .null)])

theorem name_injective : Function.Injective name := by
  intro s t h
  cases s <;> cases t <;> simp_all [name]

theorem decode_eq_ok {j : Json} {s : MoveStatus} : decode j = .ok s ↔ s.Written j := by
  have hnames : decode j = .ok s ↔ j.Names s.name :=
    choice_eq_ok_of_named name_injective (l := [moving, done]) (by cases s <;> simp)
  rw [hnames]
  constructor
  · rintro (_ | _)
    · exact .plain
    · exact .tagged
  · rintro (_ | _)
    · exact .plain
    · exact .tagged

theorem written_toJson (s : MoveStatus) : s.Written s.toJson := .plain

end MoveStatus

namespace Migration

inductive Written (m : Migration) : Json → Prop
  | named {members : List (String × Json)} {j : Json}
    (bucket : Json.under "bucket" members = [.halfWord m.bucket])
    (source : Json.under "source_shard" members = [.halfWord m.source])
    (destination : Json.under "destination_shard" members = [.halfWord m.destination])
    (status : Json.under "status" members = [j]) (h : m.status.Written j) :
    Written m (.object members)
  | listed {status : Json} (h : m.status.Written status) :
    Written m (.list [.halfWord m.bucket, .halfWord m.source, .halfWord m.destination, status])

theorem decode_eq_ok {j : Json} {m : Migration} : decode j = .ok m ↔ m.Written j := by
  rw [decode, bind_eq_ok]
  constructor
  · rintro ⟨⟨bucket, source, destination, status, ⟨⟩⟩, hread, ⟨⟩⟩
    cases (Fields.read_eq_ok (by simp [Fields.names])).mp hread with
    | named h =>
      simp only [Fields.Gathers, Field.takes_required, halfWord_eq_ok, exists_eq_right,
        MoveStatus.decode_eq_ok] at h
      obtain ⟨hbucket, hsource, hdestination, ⟨_, hstatus, h⟩, -⟩ := h
      exact .named hbucket hsource hdestination hstatus h
    | listed h =>
      simp only [Fields.lists_required, Fields.Lists, halfWord_eq_ok, MoveStatus.decode_eq_ok] at h
      obtain ⟨_, _, rfl, rfl, _, _, rfl, rfl, _, _, rfl, rfl, _, _, rfl, h, rfl⟩ := h
      exact .listed h
  · intro h
    refine ⟨(m.bucket, m.source, m.destination, m.status, ()),
      (Fields.read_eq_ok (by simp [Fields.names])).mpr ?_, rfl⟩
    cases h with
    | named bucket source destination status h =>
      refine .named ?_
      simp [Fields.Gathers, Field.takes_required, halfWord_eq_ok, MoveStatus.decode_eq_ok, bucket,
        source, destination, status, h]
    | listed h =>
      refine .listed ?_
      simp [Fields.Lists, halfWord_eq_ok, MoveStatus.decode_eq_ok, h]

theorem written_toJson (m : Migration) : m.Written m.toJson :=
  .named rfl rfl rfl rfl m.status.written_toJson

end Migration

namespace TopologyDocument

inductive Written (d : TopologyDocument) : Json → Prop
  | named {members : List (String × Json)} {ranges : List Json}
    (version : Json.under "version" members = [.word d.version])
    (space : Json.under "bucket_space" members = [.halfWord d.space] ∨
      Json.under "bucket_space" members = [] ∧ d.space = defaultBucketSpace)
    (shards : Json.under "shards" members = [.list (d.shards.map .halfWord)] ∨
      Json.under "shards" members = [] ∧ d.shards = [])
    (ranges_named : Json.under "ranges" members = [.list ranges])
    (ranges_written : List.Forall₂ (fun j r => r.Written j) ranges d.ranges)
    (migrations : (∃ items, Json.under "migrations" members = [.list items] ∧
        List.Forall₂ (fun j m => m.Written j) items d.migrations) ∨
      Json.under "migrations" members = [] ∧ d.migrations = []) :
    Written d (.object members)
  | listed {ranges migrations : List Json}
    (ranges_written : List.Forall₂ (fun j r => r.Written j) ranges d.ranges)
    (migrations_written : List.Forall₂ (fun j m => m.Written j) migrations d.migrations) :
    Written d (.list [.word d.version, .halfWord d.space, .list (d.shards.map .halfWord),
      .list ranges, .list migrations])
  | short {ranges : List Json}
    (ranges_written : List.Forall₂ (fun j r => r.Written j) ranges d.ranges)
    (h : d.migrations = []) :
    Written d (.list [.word d.version, .halfWord d.space, .list (d.shards.map .halfWord),
      .list ranges])

theorem decode_eq_ok {j : Json} {d : TopologyDocument} : decode j = .ok d ↔ d.Written j := by
  rw [decode, bind_eq_ok]
  constructor
  · rintro ⟨⟨version, space, shards, ranges, migrations, ⟨⟩⟩, hread, ⟨⟩⟩
    cases (Fields.read_eq_ok (by simp [Fields.names])).mp hread with
    | named h =>
      simp only [Fields.Gathers, Field.takes_required, Field.takes_defaulted, Field.required_name,
        Field.defaulted_name, word_eq_ok, halfWord_eq_ok, list_eq_ok, forall₂_eq_map,
        exists_eq_right, BucketRange.decode_eq_ok, Migration.decode_eq_ok] at h
      obtain ⟨hversion, hspace, hshards, ⟨_, hranges, items, rfl, hwritten⟩, hmigrations, -⟩ := h
      refine .named hversion hspace hshards hranges hwritten (hmigrations.imp_left ?_)
      rintro ⟨_, h, items, rfl, hwritten⟩
      exact ⟨items, h, hwritten⟩
    | listed h =>
      simp only [Fields.lists_required, Fields.lists_defaulted, Fields.Lists,
        Field.required_whenShort, word_eq_ok, halfWord_eq_ok, list_eq_ok, forall₂_eq_map,
        exists_eq_right, BucketRange.decode_eq_ok, Migration.decode_eq_ok, reduceCtorEq, false_and,
        and_false, or_false] at h
      obtain ⟨_, _, rfl, rfl, _, _, rfl, rfl, _, _, rfl, rfl, _, _, rfl, ⟨ranges, rfl, hr⟩, h⟩ := h
      rcases h with ⟨_, _, rfl, ⟨migrations, rfl, hm⟩, rfl⟩ | ⟨rfl, rfl, -⟩
      · exact .listed hr hm
      · exact .short hr rfl
  · intro h
    refine ⟨(d.version, d.space, d.shards, d.ranges, d.migrations, ()),
      (Fields.read_eq_ok (by simp [Fields.names])).mpr ?_, rfl⟩
    cases h with
    | named version space shards ranges_named ranges_written migrations =>
      refine .named ?_
      simp [Fields.Gathers, Field.takes_required, Field.takes_defaulted, word_eq_ok, halfWord_eq_ok,
        forall₂_eq_map, list_eq_ok, BucketRange.decode_eq_ok, Migration.decode_eq_ok, version,
        space, shards, ranges_named, ranges_written, migrations]
    | listed ranges_written migrations_written =>
      refine .listed ?_
      simp [Fields.Lists, word_eq_ok, halfWord_eq_ok, forall₂_eq_map, list_eq_ok,
        BucketRange.decode_eq_ok, Migration.decode_eq_ok, ranges_written, migrations_written]
    | short ranges_written h =>
      refine .listed ?_
      simp [Fields.Lists, word_eq_ok, halfWord_eq_ok, forall₂_eq_map, list_eq_ok,
        BucketRange.decode_eq_ok, ranges_written, h]

theorem written_toJson (d : TopologyDocument) : d.Written d.toJson := by
  refine .named rfl (.inl rfl) (.inl rfl) rfl ?_ (.inl ⟨_, rfl, ?_⟩)
  · rw [List.forall₂_map_left_iff, List.forall₂_same]
    exact fun r _ => r.written_toJson
  · rw [List.forall₂_map_left_iff, List.forall₂_same]
    exact fun m _ => m.written_toJson

end TopologyDocument

namespace Topology

variable {ν : Type} [Readable ν] {v : ν} {j : Json} {t : Topology}

theorem decode_eq_ok : decode v = .ok t ↔
    ∃ d, TopologyDocument.decode v = .ok d ∧ d.WellFormed ∧ d.Describes t := by
  simp only [decode, bind_eq_ok, mapError_eq_ok, ofDocument_eq_ok]

theorem decode_eq_ok_iff_written : decode j = .ok t ↔
    ∃ d : TopologyDocument, d.Written j ∧ d.WellFormed ∧ d.Describes t := by
  simp only [decode_eq_ok, TopologyDocument.decode_eq_ok]

theorem decode_toJson (t : Topology) : decode t.toJson = .ok t :=
  decode_eq_ok_iff_written.mpr
    ⟨t.document, t.document.written_toJson, ofDocument_eq_ok.mp t.create_parts⟩

theorem migrations_ascending (t : Topology) : t.migrations.Pairwise (·.bucket < ·.bucket) :=
  List.pairwise_map.mpr t.moves.ascending

/-- A topology is read back from the value it is written as. A JSON value is read as the topology
that the listing in it describes, in whatever form the listing is written; and what a document of
any notation lists is written again with the shards and the migrations in ascending order. -/
theorem documents_round_trip :
    (∀ t : Topology, t.document.Written t.toJson ∧ decode t.toJson = .ok t) ∧
    (∀ (j : Json) (t : Topology), decode j = .ok t ↔
      ∃ d : TopologyDocument, d.Written j ∧ d.WellFormed ∧ d.Describes t) ∧
    ∀ {ν : Type} [Readable ν] (v : ν) (t : Topology), decode v = .ok t →
      ∃ d, TopologyDocument.decode v = .ok d ∧ d.Describes t ∧ decode t.toJson = .ok t ∧
        t.document.shards.Pairwise (· < ·) ∧
        t.document.migrations.Pairwise (·.bucket < ·.bucket) := by
  refine ⟨fun t => ⟨t.document.written_toJson, t.decode_toJson⟩,
    fun j t => decode_eq_ok_iff_written, ?_⟩
  intro ν _ v t h
  obtain ⟨d, hd, -, hdescribes⟩ := decode_eq_ok.mp h
  exact ⟨d, hd, hdescribes, t.decode_toJson, t.shards.ascending, t.migrations_ascending⟩

end Topology

end ShardRouting
