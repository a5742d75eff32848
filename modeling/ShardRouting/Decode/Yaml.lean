import ShardRouting.Decode.Readable
import ShardRouting.Number.Binary64
import ShardRouting.Yaml.Node

/-!
YAML as a notation. A plain scalar is read as what is asked for; where it does not fit, the fault
names what it is by itself: nothing, a boolean, an integer, a real number or a text. Places are
spelled from the root of the document.
-/

namespace ShardRouting

namespace Yaml

def isNull (s : String) : Bool := ["null", "Null", "NULL", "~"].contains s

def boolean? (s : String) : Option Bool :=
  if ["true", "True", "TRUE"].contains s then some true
  else if ["false", "False", "FALSE"].contains s then some false
  else none

def ofDigits? (base : Nat) (cs : List Char) : Option Nat :=
  if cs.isEmpty then none
  else cs.foldlM (fun n c => (hexValue? c).bind fun d => if d < base then some (n * base + d) else none) 0

def startsWithSign : List Char → Bool
  | '+' :: _ | '-' :: _ => true
  | _ => false

def isPaddedNumber (cs : List Char) : Bool :=
  let digits := if startsWithSign cs then cs.tail else cs
  1 < digits.length && digits.head? = some '0' && digits.all Char.isDigit

def basedNumber? : List Char → Option Nat
  | '0' :: 'x' :: rest => ofDigits? 16 rest
  | '0' :: 'o' :: rest => ofDigits? 8 rest
  | '0' :: 'b' :: rest => ofDigits? 2 rest
  | cs => ofDigits? 10 cs

def natural? (cs : List Char) : Option Nat :=
  if isPaddedNumber cs then none
  else
    match cs with
    | '+' :: rest => basedNumber? rest
    | cs => basedNumber? cs

def integer? (cs : List Char) : Option Int :=
  match natural? cs with
  | some n => if n < 1 <<< 128 then some n else none
  | none =>
    match cs with
    | '-' :: rest =>
      if isPaddedNumber cs then none
      else (basedNumber? rest).bind fun n => if n ≤ 1 <<< 127 then some (-(n : Int)) else none
    | _ => none

def exponent? : List Char → Option Int
  | [] => some 0
  | c :: rest =>
    if c = 'e' || c = 'E' then
      match rest with
      | '-' :: digits => (ofDigits? 10 digits).map fun n => -(n : Int)
      | '+' :: digits => (ofDigits? 10 digits).map Int.ofNat
      | digits => (ofDigits? 10 digits).map Int.ofNat
    else none

def decimal? (negative : Bool) (cs : List Char) : Option Binary64 := do
  let whole := cs.takeWhile Char.isDigit
  let rest := cs.dropWhile Char.isDigit
  let (part, rest) := match rest with
    | '.' :: rest => (rest.takeWhile Char.isDigit, rest.dropWhile Char.isDigit)
    | rest => ([], rest)
  let significand ← ofDigits? 10 (whole ++ part)
  let e ← exponent? rest
  let bound : Int := 400 + cs.length
  Binary64.ofDecimal? negative significand (max (-bound) (min bound e) - part.length)

def real? (s : String) : Option String :=
  let cs := s.toList
  let unsigned := if cs.head? = some '+' then cs.tail else cs
  if cs.head? = some '+' && startsWithSign unsigned then none
  else if [".inf", ".Inf", ".INF"].contains (String.ofList unsigned) then some "inf"
  else if ["-.inf", "-.Inf", "-.INF"].contains s then some "-inf"
  else if [".nan", ".NaN", ".NAN"].contains s then some "NaN"
  else
    match unsigned with
    | '-' :: rest => (decimal? true rest).map Binary64.positional
    | rest => (decimal? false rest).map Binary64.positional

def foundInteger (i : Int) : Found :=
  if Int64.minValue.toInt ≤ i ∧ i < UInt64.size then .integer i else .wideInteger i

def foundPlain (s : String) : Found :=
  if s.isEmpty || isNull s then .unit
  else
    match boolean? s, integer? s.toList with
    | some b, _ => .boolean b
    | none, some i => foundInteger i
    | none, none =>
      if isPaddedNumber s.toList then .text s
      else
        match real? s with
        | some digits => .real digits
        | none => .text s

def coreTag (kind : String) : String := "tag:yaml.org,2002:" ++ kind

/-- What a scalar is by its tag; the second kind is what the tag asks for in vain. A local tag
changes nothing. -/
def foundScalar (plain : Bool) (tag : Option String) (s : String) : Except String Found :=
  let kinds : List (String × Option Found × String) := [
    ("bool", (boolean? s).map Found.boolean, "a boolean"),
    ("int", (integer? s.toList).map foundInteger, "an integer"),
    ("float", (real? s).map Found.real, "a float"),
    ("null", if isNull s then some .unit else none, "null")]
  match tag with
  | none => .ok (if plain then foundPlain s else .text s)
  | some tag =>
    match kinds.find? fun kind => coreTag kind.1 = tag with
    | some (_, some found, _) => .ok found
    | some (_, none, wanted) => .error wanted
    | none => .ok (if plain && tag.startsWith "!" then foundPlain s else .text s)

def Node.refusal? (expected : String) : Node → Option DecodeCause
  | .malformed => none
  | .scalar plain tag s =>
    match foundScalar plain tag s with
    | .ok found => some (.invalidType found expected)
    | .error wanted => some (.invalidValue (.text s) wanted)
  | .sequence .. => some (.invalidType .sequence expected)
  | .mapping .. => some (.invalidType .map expected)

end Yaml

structure YamlValue where
  place : String
  node : Yaml.Node

namespace YamlValue

open Yaml (Node)

def fault (v : YamlValue) (cause : DecodeCause) : Fault := .wrongData ⟨v.place, cause⟩

def invalidType {α : Type} (v : YamlValue) (expected : String) : Except Fault α :=
  match v.node.refusal? expected with
  | none => .error .malformed
  | some cause => .error (v.fault cause)

def item (v : YamlValue) (index : Nat) (node : Node) : YamlValue :=
  let sequence := if v.place.isEmpty then "." else v.place
  ⟨s!"{sequence}[{index}]", node⟩

def member (v : YamlValue) (key : String) (node : Node) : YamlValue :=
  ⟨if v.place.isEmpty then key else s!"{v.place}.{key}", node⟩

def itemsOf (v : YamlValue) (nodes : List Node) : List YamlValue :=
  nodes.mapIdx fun i node => v.item i node

def entry (v : YamlValue) (e : Node × Node) : Except Fault String × YamlValue :=
  match e.1 with
  | .scalar _ _ key => (.ok key, v.member key e.2)
  | key => ((⟨v.place, key⟩ : YamlValue).invalidType "field identifier", ⟨v.place, e.2⟩)

def asUnsigned (bound : Nat) (expected : String) (v : YamlValue) : Except Fault Nat :=
  match v.node with
  | .scalar true _ s =>
    match Yaml.natural? s.toList with
    | some n =>
      if n < bound then .ok n
      else if n < UInt64.size then .error (v.fault (.invalidValue (.integer n) expected))
      else v.invalidType expected
    | none => v.invalidType expected
  | _ => v.invalidType expected

def asBoolean (v : YamlValue) : Except Fault Bool :=
  match v.node with
  | .scalar true _ s =>
    match Yaml.boolean? s with
    | some b => .ok b
    | none => v.invalidType "a boolean"
  | _ => v.invalidType "a boolean"

def asText (expected : String) (v : YamlValue) : Except Fault String :=
  match v.node with
  | .scalar _ _ s => .ok s
  | _ => v.invalidType expected

def asItems (v : YamlValue) : Except Fault (List YamlValue) :=
  match v.node with
  | .sequence _ nodes => .ok (v.itemsOf nodes)
  | .scalar true _ "" => .ok []
  | _ => v.invalidType "a sequence"

def asRecord (expected : String) (v : YamlValue) : Except Fault (RecordForm YamlValue) :=
  match v.node with
  | .mapping _ entries => .ok (.named (entries.map v.entry))
  | .scalar true _ "" => .ok (.named [])
  | _ => v.invalidType expected

def asOptional (v : YamlValue) : Except Fault (Option YamlValue) :=
  match v.node with
  | .scalar true none s => .ok (if s.isEmpty || Yaml.isNull s then none else some v)
  | .scalar true (some tag) s =>
    if tag ≠ Yaml.coreTag "null" then .ok (some v)
    else if Yaml.isNull s then .ok none
    else .error (v.fault (.invalidValue (.text s) "null"))
  | _ => .ok (some v)

def localTag? : Option String → Option String
  | none => none
  | some t =>
    match t.toList with
    | '!' :: c :: rest => some (String.ofList (c :: rest))
    | _ => none

def asVariant (v : YamlValue) : Except Fault (String × Option YamlValue) :=
  let tag := match v.node with
    | .scalar _ tag _ | .sequence tag _ | .mapping tag _ => localTag? tag
    | .malformed => none
  match tag, v.node with
  | some name, .scalar plain _ s => .ok (name, some { v with node := .scalar plain none s })
  | some name, _ => .ok (name, some v)
  | none, .scalar _ _ s => .ok (s, none)
  | none, _ => v.invalidType "a YAML tag starting with '!'"

def asUnit (v : YamlValue) : Except Fault Unit :=
  match v.node with
  | .scalar true _ s => if s.isEmpty || Yaml.isNull s then .ok () else v.invalidType "unit"
  | _ => v.invalidType "unit"

mutual

def wellFormed : Node → Bool
  | .malformed => false
  | .scalar .. => true
  | .sequence _ items => itemsWellFormed items
  | .mapping _ entries => entriesWellFormed entries

def itemsWellFormed : List Node → Bool
  | [] => true
  | item :: rest => wellFormed item && itemsWellFormed rest

def entriesWellFormed : List (Node × Node) → Bool
  | [] => true
  | (key, value) :: rest => wellFormed key && wellFormed value && entriesWellFormed rest

end

instance : Readable YamlValue where
  fault := fault
  unsigned := asUnsigned
  boolean := asBoolean
  text := asText
  items := asItems
  record := asRecord
  optional := asOptional
  variant := asVariant
  unit := asUnit
  ignore v := if wellFormed v.node then .ok () else .error .malformed
  surplus v length := v.fault (.invalidLength length "fewer elements in array")

def decode {ε α : Type} (ofFault : Fault → ε) (decode : YamlValue → Except ε α) (s : String) :
    Except ε α := do
  let d := Yaml.Document.read s
  let a ← decode ⟨"", d.root⟩
  match d.ending with
  | .nothing => .ok a
  | .fault => .error (ofFault .malformed)
  | .more => .error (ofFault (.wrongData ⟨"", .severalDocuments⟩))

end YamlValue

end ShardRouting
