import ShardRouting.Decode.Readable
import ShardRouting.Json.Basic

namespace ShardRouting

namespace Json

def wrong (cause : DecodeCause) : Fault := .wrongData ⟨"", cause⟩

def Number.found : Number → Found
  | .integer i => .integer i
  | .real x => .real x.compact

def found : Json → Found
  | .null => .null
  | .boolean b => .boolean b
  | .number n => n.found
  | .text s => .text s
  | .list _ => .sequence
  | .object _ => .map

def invalidType {α : Type} (expected : String) (j : Json) : Except Fault α :=
  .error (wrong (.invalidType j.found expected))

def Number.unsigned (bound : Nat) (expected : String) (n : Number) : Except Fault Nat :=
  match n with
  | .integer i =>
    if 0 ≤ i ∧ i < bound then .ok i.toNat
    else .error (wrong (.invalidValue (.integer i) expected))
  | .real x => .error (wrong (.invalidType (.real x.compact) expected))

def unsigned (bound : Nat) (expected : String) : Json → Except Fault Nat
  | .number n => n.unsigned bound expected
  | j => invalidType expected j

def asBoolean : Json → Except Fault Bool
  | .boolean b => .ok b
  | j => invalidType "a boolean" j

def asText (expected : String) : Json → Except Fault String
  | .text s => .ok s
  | j => invalidType expected j

def asItems : Json → Except Fault (List Json)
  | .list items => .ok items
  | j => invalidType "a sequence" j

def asMembers : Json → Except Fault (List (String × Json))
  | .object members => .ok members
  | j => invalidType "a map" j

def asRecord (expected : String) : Json → Except Fault (RecordForm Json)
  | .object members => .ok (.named (members.map fun m => (.ok m.1, m.2)))
  | .list items => .ok (.positional items)
  | j => invalidType expected j

def asVariant : Json → Except Fault (String × Option Json)
  | .text s => .ok (s, none)
  | .object [(name, payload)] => .ok (name, some payload)
  | .object _ => .error (wrong (.invalidValue .map "map with a single key"))
  | j => invalidType "string or map" j

instance : Readable Json where
  fault _ := wrong
  unsigned := unsigned
  boolean := asBoolean
  text := asText
  items := asItems
  record := asRecord
  optional
    | .null => .ok none
    | j => .ok (some j)
  variant := asVariant
  unit
    | .null => .ok ()
    | j => invalidType "unit" j
  ignore _ := .ok ()
  surplus _ length := wrong (.invalidLength length "fewer elements in array")

end Json

end ShardRouting
