import ShardRouting.Decode.Readable

/-!
Decoding of records. Entries are decoded in the order of the document, so the first fault in that
order is reported; a name that is not a field is passed over; fields that are lacking are noticed
when the record ends, in the order of their declaration.
-/

namespace ShardRouting

structure Field (ν α : Type) where
  name : String
  decode : ν → Except Fault α
  whenUnnamed : Option α
  whenShort : Option α

namespace Field

variable {ν α : Type}

def required (name : String) (decode : ν → Except Fault α) : Field ν α :=
  ⟨name, decode, none, none⟩

def optional [Readable ν] (name : String) (decode : ν → Except Fault α) : Field ν (Option α) :=
  ⟨name, Decode.optional decode, some none, none⟩

def defaulted (name : String) (decode : ν → Except Fault α) (a : α) : Field ν α :=
  ⟨name, decode, some a, some a⟩

end Field

/-- Fields in the order of their declaration. While a record is read, every field has a slot that
is filled once; a record that was read has a value for each. -/
inductive Fields (ν : Type) : (slots values : Type) → Type 1
  | nil : Fields ν Unit Unit
  | cons {α σ τ : Type} (field : Field ν α) (rest : Fields ν σ τ) :
      Fields ν (Option α × σ) (α × τ)

namespace Fields

variable {ν : Type}

def size {σ τ : Type} : Fields ν σ τ → Nat
  | .nil => 0
  | .cons _ rest => rest.size + 1

def emptySlots {σ τ : Type} : Fields ν σ τ → σ
  | .nil => ()
  | .cons _ rest => (none, rest.emptySlots)

def place {σ τ : Type} (fault : DecodeCause → Fault) (name : String) (v : ν) :
    Fields ν σ τ → σ → Except Fault (Option σ)
  | .nil, () => .ok none
  | .cons field rest, (slot, slots) =>
    if field.name = name then
      if slot.isSome then .error (fault (.duplicateField name))
      else (field.decode v).map fun a => some (some a, slots)
    else (rest.place fault name v slots).map (·.map fun slots => (slot, slots))

def finish {σ τ : Type} (fault : DecodeCause → Fault) : Fields ν σ τ → σ → Except Fault τ
  | .nil, () => .ok ()
  | .cons field rest, (slot, slots) =>
    match slot.or field.whenUnnamed with
    | none => .error (fault (.missingField field.name))
    | some a => (rest.finish fault slots).map fun values => (a, values)

def fill {σ τ : Type} (tooShort : Nat → Fault) (index : Nat) :
    Fields ν σ τ → List ν → Except Fault (τ × List ν)
  | .nil, items => .ok ((), items)
  | .cons field rest, [] =>
    match field.whenShort with
    | none => .error (tooShort index)
    | some a => (rest.fill tooShort (index + 1) []).map fun r => ((a, r.1), r.2)
  | .cons field rest, v :: items => do
    let a ← field.decode v
    let r ← rest.fill tooShort (index + 1) items
    .ok ((a, r.1), r.2)

variable [Readable ν]

def readNamed {σ τ : Type} (fault : DecodeCause → Fault) (fields : Fields ν σ τ) :
    List (Except Fault String × ν) → σ → Except Fault τ
  | [], slots => fields.finish fault slots
  | (name, v) :: rest, slots => do
    match ← fields.place fault (← name) v slots with
    | some slots => fields.readNamed fault rest slots
    | none =>
      Readable.ignore v
      fields.readNamed fault rest slots

def readAs {σ τ : Type} (expected label : String) (fields : Fields ν σ τ) (v : ν) :
    Except Fault τ := do
  match ← Readable.record expected v with
  | .named entries => fields.readNamed (Readable.fault v) entries fields.emptySlots
  | .positional items =>
    let elements := if fields.size = 1 then "element" else "elements"
    let tooShort (n : Nat) := Readable.fault v
      (.invalidLength n s!"{label} with {fields.size} {elements}")
    let (values, rest) ← fields.fill tooShort 0 items
    if rest.isEmpty then .ok values else .error (Readable.surplus v items.length)

def read {σ τ : Type} (name : String) (fields : Fields ν σ τ) (v : ν) : Except Fault τ :=
  fields.readAs ("struct " ++ name) ("struct " ++ name) v

end Fields

end ShardRouting
