import ShardRouting.Decode.Fault

namespace ShardRouting

inductive RecordForm (ν : Type)
  | named (entries : List (Except Fault String × ν))
  | positional (items : List ν)

class Readable (ν : Type) where
  fault : ν → DecodeCause → Fault
  unsigned : (bound : Nat) → (expected : String) → ν → Except Fault Nat
  boolean : ν → Except Fault Bool
  text : (expected : String) → ν → Except Fault String
  items : ν → Except Fault (List ν)
  record : (expected : String) → ν → Except Fault (RecordForm ν)
  optional : ν → Except Fault (Option ν)
  variant : ν → Except Fault (String × Option ν)
  unit : ν → Except Fault Unit
  ignore : ν → Except Fault Unit
  surplus : ν → (length : Nat) → Fault

namespace Decode

variable {ν : Type} [Readable ν] {α : Type}

def word (v : ν) : Except Fault UInt64 :=
  (Readable.unsigned UInt64.size "u64" v).map UInt64.ofNat

def halfWord (v : ν) : Except Fault UInt32 :=
  (Readable.unsigned UInt32.size "u32" v).map UInt32.ofNat

def text (v : ν) : Except Fault String := Readable.text "a string" v

def character (v : ν) : Except Fault Char := do
  let s ← Readable.text "a character" v
  match s.toList with
  | [c] => .ok c
  | _ => .error (Readable.fault v (.invalidValue (.text s) "a character"))

def timestamp (v : ν) : Except Fault Timestamp := do
  let s ← Readable.text "an RFC 3339 formatted date and time string" v
  match Timestamp.parse s with
  | .ok t => .ok t
  | .error e => .error (Readable.fault v (.timestamp e))

def list (decode : ν → Except Fault α) (v : ν) : Except Fault (List α) := do
  (← Readable.items v).mapM decode

def optional (decode : ν → Except Fault α) (v : ν) : Except Fault (Option α) := do
  match ← Readable.optional v with
  | none => .ok none
  | some v => (decode v).map some

def choice (known : List (String × α)) (v : ν) : Except Fault α := do
  let (name, payload) ← Readable.variant v
  match known.lookup name with
  | none => .error (Readable.fault v (.unknownVariant name (known.map Prod.fst)))
  | some a =>
    match payload with
    | none => .ok a
    | some p => (Readable.unit p).map fun _ => a

end Decode

end ShardRouting
