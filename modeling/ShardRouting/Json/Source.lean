import ShardRouting.Json.Basic
import ShardRouting.Ordered.Map

/-!
JSON text as far as it is well formed. A text is read into a tree in which the first fault of its
form is the leaf `malformed`, with nothing after it, so a decoder that walks the tree meets wrong
data and wrong form in the order of the text.
-/

namespace ShardRouting

inductive JsonSource
  | malformed
  | null
  | boolean (b : Bool)
  | number (n : Option Json.Number)
  | text (s : Option String)
  | list (items : List JsonSource)
  | object (members : List (Option String × JsonSource))

namespace JsonSource

abbrev Step := JsonSource × Option (List Char)

def isBlank (c : Char) : Bool := c = ' ' || c = '\n' || c = '\t' || c = '\r'

def skipBlanks (cs : List Char) : List Char := cs.dropWhile isBlank

def digitValue (c : Char) : Nat := c.toNat - '0'.toNat

def takeDigits (significand : Nat) : List Char → Nat × List Char
  | [] => (significand, [])
  | d :: rest =>
    if significand * 10 + digitValue d < UInt64.size then
      takeDigits (significand * 10 + digitValue d) rest
    else (significand, d :: rest)

def timesPower (x : Binary64) (n : Nat) : Option Binary64 := do
  let p := (Binary64.ofMagnitude false (← Binary64.nearest? (Nat.pow 10 n) 1)).fraction
  let q := x.fraction
  return .ofMagnitude false (← Binary64.nearest? (q.1 * p.1) (q.2 * p.2))

def overPower (x : Binary64) (n : Nat) : Option Binary64 := do
  let p := (Binary64.ofMagnitude false (← Binary64.nearest? (Nat.pow 10 n) 1)).fraction
  let q := x.fraction
  return .ofMagnitude false (← Binary64.nearest? (q.1 * p.2) (q.2 * p.1))

/-- Scales a double by a power of ten, in steps of `10 ^ 308` downwards: that is the largest power
of ten among the doubles, and three steps take the largest significand to zero. -/
def scale (steps : Nat) (x : Binary64) (exponent : Int) : Option Binary64 :=
  if x.magnitude = 0 then some x
  else if 0 ≤ exponent then
    if 308 < exponent then none else timesPower x exponent.toNat
  else if -exponent ≤ 308 then overPower x (-exponent).toNat
  else
    match steps with
    | 0 => some .zero
    | steps + 1 => (overPower x 308).bind fun y => scale steps y (exponent + 308)

def signed (negative : Bool) (x : Binary64) : Binary64 := .ofMagnitude negative x.magnitude

def numberOf (negative : Bool) (whole : List Char) (fraction : Option (List Char))
    (exponent : Option (Bool × List Char)) : Option Json.Number :=
  let (significand, left) := takeDigits 0 whole
  let real (significand : Nat) (e : Int) : Option Json.Number :=
    ((Binary64.nearest? significand 1).bind fun m => scale 3 (.ofMagnitude false m) e).map
      (Json.Number.real ∘ signed negative)
  match fraction, exponent with
  | none, none =>
    if left.isEmpty && !negative then some (.integer significand)
    else if left.isEmpty && significand ≠ 0 && significand ≤ 1 <<< 63 then
      some (.integer (-significand))
    else real significand left.length
  | fraction, exponent =>
    let digits := fraction.getD []
    let (significand, dropped) := takeDigits significand digits
    let e : Int := (left.length + dropped.length : Nat) - digits.length
    match exponent with
    | none => real significand e
    | some (below, ds) =>
      let size := ds.foldl (fun n d => n * 10 + digitValue d) 0
      if size < 1 <<< 31 then real significand (if below then e - size else e + size)
      else if significand = 0 || below then some (.real (signed negative .zero))
      else none

def readExponent (cs : List Char) : Option (Option (Bool × List Char) × List Char) :=
  match cs with
  | c :: rest =>
    if c = 'e' || c = 'E' then
      let (below, rest) := match rest with
        | '+' :: rest => (false, rest)
        | '-' :: rest => (true, rest)
        | rest => (false, rest)
      let digits := rest.takeWhile Char.isDigit
      if digits.isEmpty then none else some (some (below, digits), rest.dropWhile Char.isDigit)
    else some (none, cs)
  | [] => some (none, [])

def readFraction (cs : List Char) : Option (Option (List Char) × List Char) :=
  match cs with
  | '.' :: rest =>
    let digits := rest.takeWhile Char.isDigit
    if digits.isEmpty then none else some (some digits, rest.dropWhile Char.isDigit)
  | cs => some (none, cs)

def readNumber (cs : List Char) : Step :=
  let (negative, cs) := match cs with
    | '-' :: rest => (true, rest)
    | cs => (false, cs)
  let whole := cs.takeWhile Char.isDigit
  if whole.isEmpty || (whole.length ≠ 1 && whole.head? = some '0') then (.malformed, none)
  else
    match readFraction (cs.dropWhile Char.isDigit) with
    | none => (.malformed, none)
    | some (fraction, cs) =>
      match readExponent cs with
      | none => (.malformed, none)
      | some (exponent, cs) => (.number (numberOf negative whole fraction exponent), some cs)

def hexValue? (c : Char) : Option Nat :=
  if c.isDigit then some (digitValue c)
  else if 'a' ≤ c && c ≤ 'f' then some (c.toNat - 'a'.toNat + 10)
  else if 'A' ≤ c && c ≤ 'F' then some (c.toNat - 'A'.toNat + 10)
  else none

def hexWord? (a b c d : Char) : Option Nat := do
  return (← hexValue? a) * 4096 + (← hexValue? b) * 256 + (← hexValue? c) * 16 + (← hexValue? d)

def isHighSurrogate (n : Nat) : Bool := 0xD800 ≤ n && n < 0xDC00

def isLowSurrogate (n : Nat) : Bool := 0xDC00 ≤ n && n < 0xE000

def shortEscape? : Char → Option Char
  | '"' => some '"'
  | '\\' => some '\\'
  | '/' => some '/'
  | 'b' => some '\x08'
  | 'f' => some '\x0c'
  | 'n' => some '\n'
  | 'r' => some '\r'
  | 't' => some '\t'
  | _ => none

/-- Reads up to the closing quote. `read` holds the characters before, last one first; it is lost
once an escape names half of a surrogate pair, which the half `high` waits to be completed. -/
def readText (high : Option Nat) (read : Option (List Char)) :
    List Char → Option (Option String × List Char)
  | [] => none
  | '"' :: rest =>
    let read := if high.isSome then none else read
    some (read.map fun cs => String.ofList cs.reverse, rest)
  | '\\' :: 'u' :: a :: b :: c :: d :: rest =>
    match hexWord? a b c d with
    | none => none
    | some n =>
      match high with
      | some h =>
        if isLowSurrogate n then
          let c := Char.ofNat (0x10000 + (h - 0xD800) * 0x400 + (n - 0xDC00))
          readText none (read.map (c :: ·)) rest
        else readText none none rest
      | none =>
        if isHighSurrogate n then readText (some n) read rest
        else if isLowSurrogate n then readText none none rest
        else readText none (read.map (Char.ofNat n :: ·)) rest
  | '\\' :: c :: rest =>
    match shortEscape? c with
    | none => none
    | some c => readText none (if high.isSome then none else read.map (c :: ·)) rest
  | c :: rest =>
    if c.toNat < 32 || c = '\\' then none
    else readText none (if high.isSome then none else read.map (c :: ·)) rest

def readWord (word : String) (node : JsonSource) (cs : List Char) : Step :=
  if word.toList.isPrefixOf cs then (node, some (cs.drop word.length)) else (.malformed, none)

mutual

def readValue (fuel : Nat) (cs : List Char) : Step :=
  match fuel with
  | 0 => (.malformed, none)
  | fuel + 1 =>
    match skipBlanks cs with
    | '\x7b' :: rest =>
      match skipBlanks rest with
      | '\x7d' :: rest => (.object [], some rest)
      | rest =>
        let (members, rest) := readMembers fuel rest
        (.object members, rest)
    | '[' :: rest =>
      match skipBlanks rest with
      | ']' :: rest => (.list [], some rest)
      | rest =>
        let (items, rest) := readItems fuel rest
        (.list items, rest)
    | '"' :: rest =>
      match readText none (some []) rest with
      | none => (.malformed, none)
      | some (s, rest) => (.text s, some rest)
    | 'n' :: rest => readWord "ull" .null rest
    | 't' :: rest => readWord "rue" (.boolean true) rest
    | 'f' :: rest => readWord "alse" (.boolean false) rest
    | rest => readNumber rest

def readItems (fuel : Nat) (cs : List Char) : List JsonSource × Option (List Char) :=
  match fuel with
  | 0 => ([.malformed], none)
  | fuel + 1 =>
    let (item, rest) := readValue fuel cs
    match rest.map skipBlanks with
    | none => ([item], none)
    | some (',' :: rest) =>
      let (items, rest) := readItems fuel rest
      (item :: items, rest)
    | some (']' :: rest) => ([item], some rest)
    | some _ => ([item, .malformed], none)

def readMembers (fuel : Nat) (cs : List Char) :
    List (Option String × JsonSource) × Option (List Char) :=
  match fuel with
  | 0 => ([(none, .malformed)], none)
  | fuel + 1 =>
    match skipBlanks cs with
    | '"' :: rest =>
      match readText none (some []) rest with
      | none => ([(none, .malformed)], none)
      | some (key, rest) =>
        match skipBlanks rest with
        | ':' :: rest =>
          let (value, rest) := readValue fuel rest
          match rest.map skipBlanks with
          | none => ([(key, value)], none)
          | some (',' :: rest) =>
            let (members, rest) := readMembers fuel rest
            ((key, value) :: members, rest)
          | some ('\x7d' :: rest) => ([(key, value)], some rest)
          | some _ => ([(key, value), (none, .malformed)], none)
        | _ => ([(key, .malformed)], none)
    | _ => ([(none, .malformed)], none)

end

structure Document where
  root : JsonSource
  trailing : Bool

def read (s : String) : Document :=
  let cs := s.toList
  let (root, rest) := readValue (2 * cs.length + 2) cs
  ⟨root, rest.any fun rest => !(skipBlanks rest).isEmpty⟩

mutual

def wellFormed : JsonSource → Bool
  | .malformed => false
  | .list items => itemsWellFormed items
  | .object members => membersWellFormed members
  | _ => true

def itemsWellFormed : List JsonSource → Bool
  | [] => true
  | item :: rest => item.wellFormed && itemsWellFormed rest

def membersWellFormed : List (Option String × JsonSource) → Bool
  | [] => true
  | (_, value) :: rest => value.wellFormed && membersWellFormed rest

end

mutual

def toJson? : JsonSource → Option Json
  | .malformed => none
  | .null => some .null
  | .boolean b => some (.boolean b)
  | .number n => n.map .number
  | .text s => s.map .text
  | .list items => (itemsToJson? items).map .list
  | .object members => (membersToJson? members).map fun m => .object (OrderedMap.ofList m).entries

def itemsToJson? : List JsonSource → Option (List Json)
  | [] => some []
  | item :: rest => do return (← item.toJson?) :: (← itemsToJson? rest)

def membersToJson? : List (Option String × JsonSource) → Option (List (String × Json))
  | [] => some []
  | (key, value) :: rest => do return (← key, ← value.toJson?) :: (← membersToJson? rest)

end

end JsonSource

def Json.read? (s : String) : Option Json :=
  let d := JsonSource.read s
  if d.trailing then none else d.root.toJson?

end ShardRouting
