import ShardRouting.Decode.Json
import ShardRouting.Json.Source

namespace ShardRouting

namespace JsonSource

def found? : JsonSource → Option Found
  | .malformed => none
  | .null => some .null
  | .boolean b => some (.boolean b)
  | .number n => n.map Json.Number.found
  | .text s => s.map Found.text
  | .list _ => some .sequence
  | .object _ => some .map

def invalidType {α : Type} (expected : String) (s : JsonSource) : Except Fault α :=
  match s.found? with
  | none => .error .malformed
  | some found => .error (Json.wrong (.invalidType found expected))

def nameOf : Option String → Except Fault String
  | none => .error .malformed
  | some name => .ok name

instance : Readable JsonSource where
  fault _ := Json.wrong
  unsigned bound expected
    | .number (some n) => n.unsigned bound expected
    | s => s.invalidType expected
  boolean
    | .boolean b => .ok b
    | s => s.invalidType "a boolean"
  text expected
    | .text (some s) => .ok s
    | s => s.invalidType expected
  items
    | .list items => .ok items
    | s => s.invalidType "a sequence"
  record expected
    | .object members => .ok (.named (members.map fun m => (nameOf m.1, m.2)))
    | .list items => .ok (.positional items)
    | s => s.invalidType expected
  optional
    | .null => .ok none
    | s => .ok (some s)
  variant
    | .text (some s) => .ok (s, none)
    | .object [(some name, payload)] => .ok (name, some payload)
    | .object ((some name, payload) :: _) =>
      .ok (name, some (if payload matches .null then .malformed else payload))
    | _ => .error .malformed
  unit
    | .null => .ok ()
    | s => s.invalidType "unit"
  ignore s := if s.wellFormed then .ok () else .error .malformed
  surplus _ _ := .malformed

def decode {ε α : Type} (ofFault : Fault → ε) (decode : JsonSource → Except ε α) (s : String) :
    Except ε α := do
  let d := read s
  let a ← decode d.root
  if d.trailing then .error (ofFault .malformed) else .ok a

end JsonSource

end ShardRouting
