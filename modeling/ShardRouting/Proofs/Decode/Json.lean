import Mathlib.Data.List.Forall2
import ShardRouting.Decode.Json
import ShardRouting.Decode.Record

namespace ShardRouting

inductive Json.Names (name : String) : Json → Prop
  | plain : Names name (.text name)
  | tagged : Names name (.object [(name, .null)])

namespace Decode

variable {ε α β : Type}

theorem bind_eq_ok {x : Except ε α} {f : α → Except ε β} {b : β} :
    (x >>= f) = .ok b ↔ ∃ a, x = .ok a ∧ f a = .ok b := by
  cases x with
  | error e => exact ⟨nofun, nofun⟩
  | ok a =>
    constructor
    · intro h
      exact ⟨a, rfl, h⟩
    · rintro ⟨_, ⟨⟩, h⟩
      exact h

theorem map_eq_ok {x : Except ε α} {f : α → β} {b : β} :
    x.map f = .ok b ↔ ∃ a, x = .ok a ∧ f a = b := by
  cases x <;> simp [Except.map]

theorem mapError_eq_ok {δ : Type} {x : Except ε α} {f : ε → δ} {a : α} :
    x.mapError f = .ok a ↔ x = .ok a := by
  cases x <;> simp [Except.mapError]

theorem mapM_eq_ok {f : α → Except ε β} {l : List α} {m : List β} :
    l.mapM f = .ok m ↔ List.Forall₂ (fun a b => f a = .ok b) l m := by
  induction l generalizing m with
  | nil =>
    rw [List.mapM_nil, List.forall₂_nil_left_iff]
    exact ⟨fun h => (Except.ok.inj h).symm, fun h => congrArg Except.ok h.symm⟩
  | cons a l ih =>
    rw [List.mapM_cons, bind_eq_ok, List.forall₂_cons_left_iff]
    refine exists_congr fun b => ?_
    rw [bind_eq_ok, ← exists_and_left]
    refine exists_congr fun bs => ?_
    rw [ih, and_congr_right_iff]
    intro _
    exact and_congr_right' ⟨fun h => (Except.ok.inj h).symm, fun h => congrArg Except.ok h.symm⟩

theorem unsigned_eq_ok {bound n : Nat} {expected : String} {j : Json} :
    j.unsigned bound expected = .ok n ↔ n < bound ∧ j = .nat n := by
  rw [Json.nat]
  cases j with
  | number m =>
    cases m with
    | integer i =>
      rw [Json.unsigned, Json.Number.unsigned]
      split
      · next hi =>
        rw [Except.ok.injEq, Json.number.injEq, Json.Number.integer.injEq]
        omega
      · next hi =>
        simp only [reduceCtorEq, Json.number.injEq, Json.Number.integer.injEq, false_iff]
        omega
    | real x => simp [Json.unsigned, Json.Number.unsigned]
  | _ => simp [Json.unsigned, Json.invalidType]

theorem halfWord_eq_ok {j : Json} {n : UInt32} : halfWord j = .ok n ↔ j = .halfWord n := by
  rw [halfWord, map_eq_ok]
  constructor
  · rintro ⟨k, hk, rfl⟩
    obtain ⟨hlt, rfl⟩ := unsigned_eq_ok.mp hk
    rw [Json.halfWord, UInt32.toNat_ofNat_of_lt' hlt]
  · rintro rfl
    exact ⟨n.toNat, unsigned_eq_ok.mpr ⟨n.toNat_lt, rfl⟩, UInt32.ofNat_toNat⟩

theorem word_eq_ok {j : Json} {n : UInt64} : word j = .ok n ↔ j = .word n := by
  rw [word, map_eq_ok]
  constructor
  · rintro ⟨k, hk, rfl⟩
    obtain ⟨hlt, rfl⟩ := unsigned_eq_ok.mp hk
    rw [Json.word, UInt64.toNat_ofNat_of_lt' hlt]
  · rintro rfl
    exact ⟨n.toNat, unsigned_eq_ok.mpr ⟨n.toNat_lt, rfl⟩, UInt64.ofNat_toNat⟩

theorem text_eq_ok {j : Json} {s : String} : text j = .ok s ↔ j = .text s := by
  cases j <;> simp [text, Readable.text, Json.asText, Json.invalidType]

theorem boolean_eq_ok {j : Json} {b : Bool} : Readable.boolean j = .ok b ↔ j = .boolean b := by
  cases j <;> simp [Readable.boolean, Json.asBoolean, Json.invalidType]

theorem timestamp_eq_ok {j : Json} {t : Timestamp} :
    timestamp j = .ok t ↔ ∃ s, j = .text s ∧ Timestamp.parse s = .ok t := by
  rw [timestamp, bind_eq_ok]
  cases j with
  | text s =>
    simp only [Readable.text, Json.asText, Except.ok.injEq, Json.text.injEq, exists_eq_left']
    cases Timestamp.parse s <;> simp
  | _ => simp [Readable.text, Json.asText, Json.invalidType]

theorem optional_eq_ok {decode : Json → Except Fault α} {j : Json} {o : Option α} :
    optional decode j = .ok o ↔
      j = .null ∧ o = none ∨ j ≠ .null ∧ ∃ a, decode j = .ok a ∧ o = some a := by
  rw [optional, bind_eq_ok]
  cases j with
  | null => simp [Readable.optional, eq_comm]
  | _ => simp [Readable.optional, map_eq_ok, @eq_comm _ o]

theorem optional_eq_ok_of_iff {decode : Json → Except Fault α} {f : α → Json}
    (hsome : ∀ a, f a ≠ .null) (h : ∀ j a, decode j = .ok a ↔ j = f a) {j : Json} {o : Option α} :
    optional decode j = .ok o ↔ j = .optional f o := by
  rw [optional_eq_ok]
  cases o with
  | none => simp [Json.optional]
  | some a =>
    simp only [h, Json.optional, reduceCtorEq, and_false, false_or, Option.some.injEq,
      exists_eq_right']
    exact and_iff_right_of_imp fun hj => hj ▸ hsome a

theorem list_eq_ok {decode : Json → Except Fault α} {j : Json} {l : List α} :
    list decode j = .ok l ↔
      ∃ items, j = .list items ∧ List.Forall₂ (fun v a => decode v = .ok a) items l := by
  rw [list, bind_eq_ok]
  cases j with
  | list items => simp [Readable.items, Json.asItems, mapM_eq_ok]
  | _ => simp [Readable.items, Json.asItems, Json.invalidType]

theorem forall₂_eq_map {f : α → β} {m : List β} {l : List α} :
    List.Forall₂ (fun b a => b = f a) m l ↔ m = l.map f := by
  rw [← List.forall₂_map_right_iff, List.forall₂_eq_eq_eq]

theorem list_eq_ok_of_iff {decode : Json → Except Fault α} {f : α → Json}
    (h : ∀ j a, decode j = .ok a ↔ j = f a) {j : Json} {l : List α} :
    list decode j = .ok l ↔ j = .list (l.map f) := by
  simp only [list_eq_ok, h, forall₂_eq_map, exists_eq_right]

theorem variant_eq_ok {j : Json} {name : String} {payload : Option Json} :
    Readable.variant j = .ok (name, payload) ↔
      payload = none ∧ j = .text name ∨ ∃ v, payload = some v ∧ j = .object [(name, v)] := by
  cases j with
  | text s => simp [Readable.variant, Json.asVariant, and_comm, eq_comm]
  | object members =>
    rcases members with _ | ⟨m, _ | ⟨n, members⟩⟩
    · simp [Readable.variant, Json.asVariant]
    · simp [Readable.variant, Json.asVariant, Prod.ext_iff, and_comm, eq_comm]
    · simp [Readable.variant, Json.asVariant]
  | _ => simp [Readable.variant, Json.asVariant, Json.invalidType]

theorem unit_eq_ok {j : Json} : Readable.unit j = .ok () ↔ j = .null := by
  cases j <;> simp [Readable.unit, Json.invalidType]

theorem choice_eq_ok {known : List (String × α)} {j : Json} {a : α} :
    choice known j = .ok a ↔
      ∃ name, known.lookup name = some a ∧ (j = .text name ∨ j = .object [(name, .null)]) := by
  rw [choice, bind_eq_ok]
  constructor
  · rintro ⟨⟨name, payload⟩, hv, h⟩
    refine ⟨name, ?_⟩
    cases hk : known.lookup name with
    | none => simp [hk] at h
    | some b =>
      rcases variant_eq_ok.mp hv with ⟨rfl, rfl⟩ | ⟨v, rfl, rfl⟩
      · simp only [hk, Except.ok.injEq] at h
        exact ⟨congrArg some h, .inl rfl⟩
      · simp only [hk, map_eq_ok] at h
        obtain ⟨_, hu, rfl⟩ := h
        exact ⟨rfl, .inr (by rw [unit_eq_ok.mp hu])⟩
  · rintro ⟨name, hk, rfl | rfl⟩
    · exact ⟨(name, none), rfl, by simp only [hk]⟩
    · refine ⟨(name, some .null), rfl, ?_⟩
      simp only [hk]
      rfl

theorem lookup_named {name : α → String} (hname : Function.Injective name) {l : List α} {a : α}
    {n : String} : (l.map fun b => (name b, b)).lookup n = some a ↔ a ∈ l ∧ n = name a := by
  induction l with
  | nil => simp
  | cons b l ih =>
    rw [List.map_cons, List.lookup_cons, List.mem_cons]
    by_cases hn : n = name b
    · subst hn
      rw [beq_self_eq_true, hname.eq_iff]
      grind
    · rw [beq_false_of_ne hn]
      grind

theorem choice_eq_ok_of_named {name : α → String} (hname : Function.Injective name) {l : List α}
    {a : α} (ha : a ∈ l) {j : Json} :
    choice (l.map fun b => (name b, b)) j = .ok a ↔ j.Names (name a) := by
  simp only [choice_eq_ok, lookup_named hname, ha, true_and, exists_eq_left]
  constructor
  · rintro (rfl | rfl)
    · exact .plain
    · exact .tagged
  · rintro (_ | _)
    · exact .inl rfl
    · exact .inr rfl

end Decode

def Json.under (name : String) (members : List (String × Json)) : List Json :=
  (members.filter (·.1 = name)).map Prod.snd

@[simp] theorem Json.under_nil (name : String) : under name [] = [] := rfl

theorem Json.under_cons (name : String) (m : String × Json) (members : List (String × Json)) :
    under name (m :: members) = if m.1 = name then m.2 :: under name members
      else under name members := by
  by_cases h : m.1 = name <;> simp [under, h]

namespace Field

variable {α : Type}

inductive Takes (field : Field Json α) : List Json → α → Prop
  | named {v : Json} {a : α} (h : field.decode v = .ok a) : Takes field [v] a
  | unnamed {a : α} (h : field.whenUnnamed = some a) : Takes field [] a

def Fills (field : Field Json α) (found : List Json) : Option α → α → Prop
  | none, a => field.Takes found a
  | some b, a => found = [] ∧ b = a

@[simp] theorem required_name (name : String) (decode : Json → Except Fault α) :
    (required name decode).name = name := rfl

@[simp] theorem required_decode (name : String) (decode : Json → Except Fault α) :
    (required name decode).decode = decode := rfl

@[simp] theorem required_whenShort (name : String) (decode : Json → Except Fault α) :
    (required name decode).whenShort = none := rfl

@[simp] theorem optional_name (name : String) (decode : Json → Except Fault α) :
    (optional name decode).name = name := rfl

@[simp] theorem optional_decode (name : String) (decode : Json → Except Fault α) :
    (optional name decode).decode = Decode.optional decode := rfl

@[simp] theorem defaulted_name (name : String) (decode : Json → Except Fault α) (a : α) :
    (defaulted name decode a).name = name := rfl

@[simp] theorem defaulted_decode (name : String) (decode : Json → Except Fault α) (a : α) :
    (defaulted name decode a).decode = decode := rfl

@[simp] theorem defaulted_whenShort (name : String) (decode : Json → Except Fault α) (a : α) :
    (defaulted name decode a).whenShort = some a := rfl

theorem takes_required {name : String} {decode : Json → Except Fault α} {found : List Json} {a : α} :
    (required name decode).Takes found a ↔ ∃ v, found = [v] ∧ decode v = .ok a := by
  constructor
  · rintro (h | h)
    · exact ⟨_, rfl, h⟩
    · cases h
  · rintro ⟨v, rfl, h⟩
    exact .named h

theorem takes_defaulted {name : String} {decode : Json → Except Fault α} {b : α}
    {found : List Json} {a : α} : (defaulted name decode b).Takes found a ↔
      (∃ v, found = [v] ∧ decode v = .ok a) ∨ found = [] ∧ a = b := by
  constructor
  · rintro (h | h)
    · exact .inl ⟨_, rfl, h⟩
    · exact .inr ⟨rfl, (Option.some.inj h).symm⟩
  · rintro (⟨v, rfl, h⟩ | ⟨rfl, rfl⟩)
    · exact .named h
    · exact .unnamed rfl

theorem takes_optional {name : String} {decode : Json → Except Fault α} {found : List Json}
    {o : Option α} : (optional name decode).Takes found o ↔
      (∃ v, found = [v] ∧ Decode.optional decode v = .ok o) ∨ found = [] ∧ o = none := by
  constructor
  · rintro (h | h)
    · exact .inl ⟨_, rfl, h⟩
    · exact .inr ⟨rfl, (Option.some.inj h).symm⟩
  · rintro (⟨v, rfl, h⟩ | ⟨rfl, rfl⟩)
    · exact .named h
    · exact .unnamed rfl

variable {field : Field Json α} {slot : Option α} {a : α}

theorem fills_nil : field.Fills [] slot a ↔ slot.or field.whenUnnamed = some a := by
  cases slot with
  | none => exact ⟨fun | .unnamed h => h, .unnamed⟩
  | some b => simp [Fills]

theorem fills_cons {v : Json} {found : List Json} : field.Fills (v :: found) slot a ↔
    slot = none ∧ ∃ b, field.decode v = .ok b ∧ field.Fills found (some b) a := by
  cases slot with
  | none =>
    constructor
    · rintro ⟨h⟩
      exact ⟨rfl, a, h, rfl, rfl⟩
    · rintro ⟨-, _, h, rfl, rfl⟩
      exact .named h
  | some b => simp [Fills]

end Field

namespace Fields

open Decode

variable {σ τ : Type}

def names : {σ τ : Type} → Fields Json σ τ → List String
  | _, _, .nil => []
  | _, _, .cons field rest => field.name :: rest.names

def Gathers (members : List (String × Json)) : {σ τ : Type} → Fields Json σ τ → τ → Prop
  | _, _, .nil, () => True
  | _, _, .cons field rest, (a, values) =>
    field.Takes (Json.under field.name members) a ∧ rest.Gathers members values

def Completes (members : List (String × Json)) : {σ τ : Type} → Fields Json σ τ → σ → τ → Prop
  | _, _, .nil, (), () => True
  | _, _, .cons field rest, (slot, slots), (a, values) =>
    field.Fills (Json.under field.name members) slot a ∧ rest.Completes members slots values

def Lists : {σ τ : Type} → Fields Json σ τ → List Json → τ → Prop
  | _, _, .nil, items, () => items = []
  | _, _, .cons field rest, [], (a, values) => field.whenShort = some a ∧ rest.Lists [] values
  | _, _, .cons field rest, v :: items, (a, values) =>
    field.decode v = .ok a ∧ rest.Lists items values

inductive Reads (fields : Fields Json σ τ) (values : τ) : Json → Prop
  | named {members : List (String × Json)} (h : fields.Gathers members values) :
    Reads fields values (.object members)
  | listed {items : List Json} (h : fields.Lists items values) : Reads fields values (.list items)

theorem lists_required {α : Type} {name : String} {decode : Json → Except Fault α}
    {rest : Fields Json σ τ} {items : List Json} {a : α} {values : τ} :
    (cons (.required name decode) rest).Lists items (a, values) ↔
      ∃ v items', items = v :: items' ∧ decode v = .ok a ∧ rest.Lists items' values := by
  cases items <;> simp [Lists]

theorem lists_optional {α : Type} {name : String} {decode : Json → Except Fault α}
    {rest : Fields Json σ τ} {items : List Json} {o : Option α} {values : τ} :
    (cons (.optional name decode) rest).Lists items (o, values) ↔
      ∃ v items', items = v :: items' ∧ Decode.optional decode v = .ok o ∧
        rest.Lists items' values := by
  cases items <;> simp [Lists, Field.optional]

theorem lists_defaulted {α : Type} {name : String} {decode : Json → Except Fault α} {b : α}
    {rest : Fields Json σ τ} {items : List Json} {a : α} {values : τ} :
    (cons (.defaulted name decode b) rest).Lists items (a, values) ↔
      (∃ v items', items = v :: items' ∧ decode v = .ok a ∧ rest.Lists items' values) ∨
        items = [] ∧ a = b ∧ rest.Lists [] values := by
  cases items <;> simp [Lists, eq_comm]

variable {fields : Fields Json σ τ} {slots : σ} {values : τ} {members : List (String × Json)}

theorem completes_emptySlots : fields.Completes members fields.emptySlots values ↔
    fields.Gathers members values := by
  induction fields with
  | nil => exact Iff.rfl
  | cons field rest ih => exact and_congr_right' ih

theorem completes_cons_of_notMem {name : String} {v : Json} (h : name ∉ fields.names) :
    fields.Completes ((name, v) :: members) slots values ↔ fields.Completes members slots values := by
  induction fields with
  | nil => exact Iff.rfl
  | cons field rest ih =>
    obtain ⟨hne, hrest⟩ := not_or.mp (mt List.mem_cons.mpr h)
    rw [Completes, Completes, Json.under_cons, if_neg hne, ih hrest]

theorem finish_eq_ok {fault : DecodeCause → Fault} :
    fields.finish fault slots = .ok values ↔ fields.Completes [] slots values := by
  induction fields with
  | nil => exact ⟨fun _ => trivial, fun _ => rfl⟩
  | cons field rest ih =>
    rw [finish, Completes, Json.under_nil, Field.fills_nil]
    cases slots.1.or field.whenUnnamed with
    | none => simp
    | some b => simp [map_eq_ok, Prod.ext_iff, ih, and_comm]

theorem completes_cons (fault : DecodeCause → Fault) (hn : fields.names.Nodup) {name : String}
    {v : Json} : fields.Completes ((name, v) :: members) slots values ↔
      ∃ filled, fields.place fault name v slots = .ok filled ∧
        fields.Completes members (filled.getD slots) values := by
  -- a name that is passed over leaves the slots as they are; one that fits a field fits no later one
  induction fields with
  | nil => exact ⟨fun _ => ⟨none, rfl, trivial⟩, fun _ => trivial⟩
  | cons field rest ih =>
    obtain ⟨hfield, hrest⟩ := List.nodup_cons.mp hn
    rw [Completes, Json.under_cons, place]
    by_cases h : field.name = name
    · subst h
      rw [if_pos rfl, if_pos rfl, completes_cons_of_notMem hfield, Field.fills_cons]
      cases slots.1 with
      | none => simp [map_eq_ok, Completes, ← and_assoc]
      | some b => simp
    · rw [if_neg (Ne.symm h), if_neg h, ih hrest]
      simp only [map_eq_ok]
      constructor
      · rintro ⟨ha, filled, hp, hc⟩
        refine ⟨_, ⟨filled, hp, rfl⟩, ?_⟩
        cases filled <;> exact ⟨ha, hc⟩
      · rintro ⟨_, ⟨filled, hp, rfl⟩, hc⟩
        cases filled with
        | none => exact ⟨hc.1, none, hp, hc.2⟩
        | some _ => exact ⟨hc.1, _, hp, hc.2⟩

theorem readNamed_eq_ok {fault : DecodeCause → Fault} (hn : fields.names.Nodup) :
    fields.readNamed fault (members.map fun m => (.ok m.1, m.2)) slots = .ok values ↔
      fields.Completes members slots values := by
  induction members generalizing slots with
  | nil => exact finish_eq_ok
  | cons m members ih =>
    rw [completes_cons fault hn, List.map_cons, readNamed]
    change ((fields.place fault m.1 m.2 slots) >>= _) = _ ↔ _
    rw [bind_eq_ok]
    refine exists_congr fun filled => and_congr_right' ?_
    cases filled <;> exact ih

theorem fill_eq_ok {tooShort : Nat → Fault} {index : Nat} {items : List Json} :
    fields.fill tooShort index items = .ok (values, []) ↔ fields.Lists items values := by
  induction fields generalizing index items with
  | nil => simp [fill, Lists]
  | cons field rest ih =>
    cases items with
    | nil =>
      rw [fill, Lists]
      cases field.whenShort with
      | none => simp
      | some b => simp [map_eq_ok, Prod.ext_iff, ih, and_comm]
    | cons v items =>
      rw [fill, Lists, bind_eq_ok]
      simp [bind_eq_ok, Prod.ext_iff, ih]

theorem read_eq_ok {name : String} (hn : fields.names.Nodup) {j : Json} :
    fields.read name j = .ok values ↔ fields.Reads values j := by
  cases j with
  | object members =>
    change fields.readNamed Json.wrong _ fields.emptySlots = .ok values ↔ _
    rw [readNamed_eq_ok hn, completes_emptySlots]
    exact ⟨.named, fun | .named h => h⟩
  | list items =>
    change (fields.fill _ 0 items >>= _) = .ok values ↔ _
    rw [bind_eq_ok]
    constructor
    · rintro ⟨⟨filled, rest⟩, hfill, h⟩
      cases rest with
      | nil =>
        cases h
        exact .listed (fill_eq_ok.mp hfill)
      | cons v rest => cases h
    · exact fun | .listed h => ⟨_, fill_eq_ok.mpr h, rfl⟩
  | _ => exact ⟨nofun, nofun⟩

end Fields

end ShardRouting
