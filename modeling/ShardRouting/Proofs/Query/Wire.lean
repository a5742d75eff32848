import ShardRouting.Proofs.Decode.Json
import ShardRouting.Query.Combination

namespace ShardRouting

open Decode

def Timestamp.Legible (t : Timestamp) : Prop := Timestamp.parse t.render = .ok t

theorem Timestamp.Legible.decode_toJson {t : Timestamp} (h : t.Legible) :
    Decode.timestamp t.toJson = .ok t := timestamp_eq_ok.mpr ⟨_, rfl, h⟩

namespace Decode

theorem texts_eq_ok {j : Json} {texts : List String} :
    list text j = .ok texts ↔ j = textsToJson texts := list_eq_ok_of_iff fun _ _ => text_eq_ok

theorem rows_eq_ok {j : Json} {rows : List Json} : list anyJson j = .ok rows ↔ j = .list rows := by
  have hrow : ∀ j row : Json, anyJson j = .ok row ↔ j = id row := fun j row => by simp [anyJson]
  rw [list_eq_ok_of_iff hrow, List.map_id]

theorem optional_texts_eq_ok {j : Json} {o : Option (List String)} :
    optional (list text) j = .ok o ↔ j = .optional textsToJson o :=
  optional_eq_ok_of_iff (by simp [textsToJson]) fun _ _ => texts_eq_ok

theorem optional_word_eq_ok {j : Json} {o : Option UInt64} :
    optional word j = .ok o ↔ j = .optional .word o :=
  optional_eq_ok_of_iff (by simp [Json.word, Json.nat]) fun _ _ => word_eq_ok

theorem map_decode_eq_ok {α : Type} {decode : Json → Except Fault α} {j : Json}
    {m : OrderedMap String α} : map decode j = .ok m ↔
      ∃ members entries, j = .object members ∧
        List.Forall₂ (fun v e => v.1 = e.1 ∧ decode v.2 = .ok e.2) members entries ∧
        m = .ofList entries := by
  have hentry : ∀ (v : String × Json) (e : String × α),
      (decode v.2).map (v.1, ·) = .ok e ↔ v.1 = e.1 ∧ decode v.2 = .ok e.2 := by
    rintro v ⟨id, a⟩
    simp [map_eq_ok, Prod.ext_iff, and_comm]
  rw [map, bind_eq_ok]
  cases j with
  | object members => simp [Json.asMembers, bind_eq_ok, mapM_eq_ok, hentry, @eq_comm _ m]
  | _ => simp [Json.asMembers, Json.invalidType]

theorem map_mapToJson {α β : Type} {f : α → Json} {g : α → β} {decode : Json → Except Fault β}
    (h : ∀ a, decode (f a) = .ok (g a)) (m : OrderedMap String α) :
    map decode (mapToJson f m) = .ok (m.mapValues fun _ => g) := by
  refine map_decode_eq_ok.mpr
    ⟨_, (m.mapValues fun _ => g).entries, rfl, ?_, (OrderedMap.ofList_entries _).symm⟩
  rw [List.forall₂_map_left_iff, OrderedMap.mapValues, List.forall₂_map_right_iff,
    List.forall₂_same]
  exact fun e _ => ⟨rfl, h e.2⟩

end Decode

def receivedBody : Option Json → Option Json
  | some .null => none
  | body => body

theorem optional_anyJson (body : Option Json) :
    Decode.optional anyJson (Json.optional id body) = .ok (receivedBody body) := by
  cases body with
  | none => rfl
  | some j => cases j <;> rfl

theorem receivedBody_eq_self_iff (body : Option Json) :
    receivedBody body = body ↔ body ≠ some .null := by
  cases body with
  | none => simp [receivedBody]
  | some j => cases j <;> simp [receivedBody]

namespace QueryResult

def received (r : QueryResult) : QueryResult :=
  { r with includes := r.includes.mapValues fun _ => receivedBody }

theorem decode_toJson (r : QueryResult) (hindex : r.indexTimestamp.Legible)
    (hquery : r.lastQueryTime.Legible) : decode r.toJson = .ok r.received := by
  have hincludes := Decode.map_mapToJson optional_anyJson r.includes
  rw [decode, bind_eq_ok]
  refine ⟨(r.indexName, r.includedPaths, r.totalResults, r.skippedResults, r.isStale,
    r.indexTimestamp, r.lastQueryTime, r.raftCommandIndex, r.resultEtag, r.results,
    r.received.includes, ()), (Fields.read_eq_ok (by simp [Fields.names])).mpr (.named ?_), rfl⟩
  simp [Fields.Gathers, Field.takes_required, Field.takes_optional, Json.under_cons, text_eq_ok,
    word_eq_ok, boolean_eq_ok, optional_texts_eq_ok, optional_word_eq_ok, rows_eq_ok, hincludes,
    hindex.decode_toJson, hquery.decode_toJson, received]

theorem get?_received (r : QueryResult) (id : String) :
    r.received.includes.get? id = (r.includes.get? id).map receivedBody :=
  OrderedMap.get?_mapValues _ r.includes id

theorem received_eq_self_iff (r : QueryResult) :
    r.received = r ↔ ∀ id, r.includes.get? id ≠ some (some .null) := by
  have hentry : r.received = r ↔ r.received.includes = r.includes := by
    constructor
    · exact congrArg QueryResult.includes
    · intro h
      calc r.received = { r with includes := r.received.includes } := rfl
        _ = r := by rw [h]
  rw [hentry]
  constructor
  · intro h id hid
    have hget := r.get?_received id
    rw [h, hid] at hget
    cases hget
  · intro h
    apply OrderedMap.ext_get?
    intro id
    rw [get?_received]
    cases hid : r.includes.get? id with
    | none => rfl
    | some body =>
      have hne : body ≠ some .null := fun hbody => h id (hid.trans (congrArg some hbody))
      rw [Option.map_some, (receivedBody_eq_self_iff body).mpr hne]

/-- A shard answer is read as it was written but for the bodies `null`, which are lost. -/
theorem round_trip_iff (r : QueryResult) (hindex : r.indexTimestamp.Legible)
    (hquery : r.lastQueryTime.Legible) :
    decode r.toJson = .ok r.received ∧
      (∀ id body, r.includes.get? id = some (some body) →
        (r.received.includes.get? id = some none ↔ body = .null)) ∧
      (decode r.toJson = .ok r ↔ ∀ id, r.includes.get? id ≠ some (some .null)) := by
  have hdecode := r.decode_toJson hindex hquery
  refine ⟨hdecode, ?_, ?_⟩
  · intro id body hid
    rw [get?_received, hid]
    cases body <;> simp [receivedBody]
  · rw [hdecode, Except.ok.injEq]
    exact r.received_eq_self_iff

def included (body : Option Json) : QueryResult where
  indexName := "Orders/ByCompany"
  includedPaths := some ["Company"]
  totalResults := 1
  skippedResults := 0
  isStale := false
  indexTimestamp := .epoch
  lastQueryTime := .epoch
  raftCommandIndex := none
  resultEtag := 7
  results := [.null, .text "orders/1"]
  includes := .ofList [("companies/1", body)]

theorem epoch_legible : Timestamp.epoch.Legible := by
  unfold Timestamp.Legible
  decide +kernel

theorem round_trip_included : Timestamp.epoch.Legible ∧
    decode (included (some (.text "Acme"))).toJson = .ok (included (some (.text "Acme"))).received ∧
    (included (some (.text "Acme"))).includes.get? "companies/1" = some (some (.text "Acme")) ∧
    (included (some (.text "Acme"))).received.includes.get? "companies/1" ≠ some none := by
  have hget : (included (some (.text "Acme"))).includes.get? "companies/1" =
      some (some (.text "Acme")) := rfl
  obtain ⟨hdecode, hbody, -⟩ :=
    round_trip_iff (included (some (.text "Acme"))) epoch_legible epoch_legible
  refine ⟨epoch_legible, hdecode, hget, ?_⟩
  rw [Ne, hbody "companies/1" (.text "Acme") hget]
  simp

theorem null_body_lost :
    decode (included (some .null)).toJson = .ok (included none) ∧
      included (some .null) ≠ included none ∧
      (combine .raw (.ofList [(0, included (some .null))])).value.map
        (fun c => (c.includes.keys.toList, c.missingIncludes.toList)) =
          .ok (["companies/1"], []) ∧
      (combine .raw (.ofList [(0, included none)])).value.map
        (fun c => (c.includes.keys.toList, c.missingIncludes.toList)) =
          .ok ([], ["companies/1"]) := by
  refine ⟨?_, ?_, ?_, ?_⟩
  · exact (included (some .null)).decode_toJson epoch_legible epoch_legible
  · intro h
    have hsent : (included (some .null)).includes.get? "companies/1" = some (some .null) := rfl
    have hreceived : (included none).includes.get? "companies/1" = some none := rfl
    rw [h, hreceived] at hsent
    cases hsent
  · rfl
  · rfl

end QueryResult

end ShardRouting
