import ShardRouting.Text.Quoted
import ShardRouting.Time.Timestamp

namespace ShardRouting

inductive Found
  | integer (i : Int)
  | wideInteger (i : Int)
  | real (digits : String)
  | boolean (b : Bool)
  | text (s : String)
  | null
  | unit
  | sequence
  | map
  | unitVariant
deriving DecidableEq

def Found.describe : Found → String
  | .integer i => s!"integer `{i}`"
  | .wideInteger i => s!"integer `{i}` as " ++ if i < 0 then "i128" else "u128"
  | .real digits => s!"floating point `{digits}`"
  | .boolean b => s!"boolean `{b}`"
  | .text s => "string " ++ quoted s
  | .null => "null"
  | .unit => "unit value"
  | .sequence => "sequence"
  | .map => "map"
  | .unitVariant => "unit variant"

inductive DecodeCause
  | invalidType (found : Found) (expected : String)
  | invalidValue (found : Found) (expected : String)
  | invalidLength (length : Nat) (expected : String)
  | missingField (name : String)
  | duplicateField (name : String)
  | unknownVariant (name : String) (known : List String)
  | timestamp (e : TimestampError)
  | severalDocuments
deriving DecidableEq

def backquoted (s : String) : String := "`" ++ s ++ "`"

def oneOf : List String → String
  | [] => "there are no variants"
  | [a] => "expected " ++ backquoted a
  | [a, b] => s!"expected {backquoted a} or {backquoted b}"
  | names => "expected one of " ++ ", ".intercalate (names.map backquoted)

def DecodeCause.message : DecodeCause → String
  | .invalidType found expected => s!"invalid type: {found.describe}, expected {expected}"
  | .invalidValue found expected => s!"invalid value: {found.describe}, expected {expected}"
  | .invalidLength length expected => s!"invalid length {length}, expected {expected}"
  | .missingField name => "missing field " ++ backquoted name
  | .duplicateField name => "duplicate field " ++ backquoted name
  | .unknownVariant name known => s!"unknown variant {backquoted name}, {oneOf known}"
  | .timestamp e => e.message
  | .severalDocuments => "deserializing from YAML containing more than one document is not supported"

structure DecodeError where
  place : String
  cause : DecodeCause
deriving DecidableEq

def DecodeError.message (e : DecodeError) : String :=
  if e.place.isEmpty then e.cause.message else s!"{e.place}: {e.cause.message}"

inductive Fault
  | malformed
  | wrongData (e : DecodeError)
deriving DecidableEq

end ShardRouting
