import ShardRouting.Text.Blank

namespace ShardRouting

structure Timestamp where
  seconds : Int
  /-- A thousand million or more inside the leap second that follows `seconds`. -/
  nanos : Nat
deriving DecidableEq

inductive TimestampError
  | outOfRange
  | impossible
  | invalid
  | tooShort
  | trailing
deriving DecidableEq

def TimestampError.message : TimestampError → String
  | .outOfRange => "input is out of range"
  | .impossible => "no possible date and time matching input"
  | .invalid => "input contains invalid characters"
  | .tooShort => "premature end of input"
  | .trailing => "trailing input"

namespace Timestamp

def epoch : Timestamp := ⟨0, 0⟩

def le (a b : Timestamp) : Bool :=
  a.seconds < b.seconds || (a.seconds = b.seconds && a.nanos ≤ b.nanos)

def latest (a b : Timestamp) : Timestamp := if a.le b then b else a

structure Date where
  year : Int
  month : Nat
  day : Nat
deriving DecidableEq

def isLeapYear (y : Int) : Bool := y % 4 = 0 && (y % 100 ≠ 0 || y % 400 = 0)

def daysInMonth (y : Int) (m : Nat) : Nat :=
  if m = 2 then if isLeapYear y then 29 else 28
  else if m = 4 || m = 6 || m = 9 || m = 11 then 30
  else 31

def Date.dayNumber (d : Date) : Int :=
  let y := if d.month ≤ 2 then d.year - 1 else d.year
  let era := y / 400
  let yearOfEra := y % 400
  let dayOfYear : Int := (153 * ((d.month + 9) % 12) + 2) / 5 + d.day - 1
  era * 146097 + yearOfEra * 365 + yearOfEra / 4 - yearOfEra / 100 + dayOfYear - 719468

def Date.ofDayNumber (n : Int) : Date :=
  let z := n + 719468
  let era := z / 146097
  let dayOfEra := z % 146097
  let yearOfEra := (dayOfEra - dayOfEra / 1460 + dayOfEra / 36524 - dayOfEra / 146096) / 365
  let dayOfYear := dayOfEra - (365 * yearOfEra + yearOfEra / 4 - yearOfEra / 100)
  let monthFromMarch := (5 * dayOfYear + 2) / 153
  let day := dayOfYear - (153 * monthFromMarch + 2) / 5 + 1
  let month := if monthFromMarch < 10 then monthFromMarch + 3 else monthFromMarch - 9
  let year := yearOfEra + era * 400
  ⟨if month ≤ 2 then year + 1 else year, month.toNat, day.toNat⟩

def padded (width n : Nat) : String :=
  let digits := toString n
  String.ofList (List.replicate (width - digits.length) '0') ++ digits

def renderYear (y : Int) : String :=
  if 0 ≤ y && y ≤ 9999 then padded 4 y.toNat
  else (if y < 0 then "-" else "+") ++ padded 4 y.natAbs

def renderFraction (nanos : Nat) : String :=
  if nanos = 0 then ""
  else if nanos % 1000000 = 0 then "." ++ padded 3 (nanos / 1000000)
  else if nanos % 1000 = 0 then "." ++ padded 6 (nanos / 1000)
  else "." ++ padded 9 nanos

def render (t : Timestamp) : String :=
  let date := Date.ofDayNumber (t.seconds / 86400)
  let ofDay := (t.seconds % 86400).toNat
  let second := ofDay % 60 + t.nanos / 1000000000
  s!"{renderYear date.year}-{padded 2 date.month}-{padded 2 date.day}T" ++
    s!"{padded 2 (ofDay / 3600)}:{padded 2 (ofDay / 60 % 60)}:{padded 2 second}" ++
    s!"{renderFraction (t.nanos % 1000000000)}Z"

abbrev Reader (α : Type) := List Char → Except TimestampError (α × List Char)

def number (width : Nat) : Reader Nat
  | [] => .error .tooShort
  | cs =>
    let digits := (cs.take width).takeWhile Char.isDigit
    if digits.isEmpty then .error .invalid
    else
      let n := digits.foldl (fun n d => n * 10 + (d.toNat - '0'.toNat)) 0
      if n < 1 <<< 63 then .ok (n, cs.drop digits.length) else .error .outOfRange

def bounded (width low high : Nat) : Reader Nat := fun cs => do
  let (n, rest) ← number width (trimStart cs)
  if low ≤ n ∧ n ≤ high then .ok (n, rest) else .error .outOfRange

def year : Reader Int := fun cs => do
  let cs := trimStart cs
  let (y, rest) ← match cs with
    | '-' :: digits => (number digits.length digits).map fun r => (-(r.1 : Int), r.2)
    | '+' :: digits => (number digits.length digits).map fun r => ((r.1 : Int), r.2)
    | cs => (number 4 cs).map fun r => ((r.1 : Int), r.2)
  if Int32.minValue.toInt ≤ y ∧ y ≤ Int32.maxValue.toInt then .ok (y, rest) else .error .outOfRange

def literal (c : Char) : Reader Unit := fun cs =>
  match trimStart cs with
  | [] => .error .tooShort
  | d :: rest => if d = c then .ok ((), rest) else .error .invalid

def fraction : Reader Nat
  | '.' :: cs => do
    let (n, rest) ← number 9 cs
    let used := cs.length - rest.length
    .ok (n * Nat.pow 10 (9 - used), rest.dropWhile Char.isDigit)
  | cs => .ok (0, cs)

def isColonOrBlank (c : Char) : Bool := c = ':' || isBlank c

def twoDigits : Reader (Char × Char)
  | a :: b :: rest => .ok ((a, b), rest)
  | [a] => if a.utf8Size < 2 then .error .tooShort else .error .invalid
  | [] => .error .tooShort

def digitPair (a b : Char) : Nat := (a.toNat - '0'.toNat) * 10 + (b.toNat - '0'.toNat)

def offset : Reader Int
  | [] => .error .tooShort
  | c :: cs => do
    if c = 'Z' ∨ c = 'z' then .ok (0, cs)
    else if c ≠ '+' ∧ c ≠ '-' ∧ c ≠ '\u2212' then .error .invalid
    else
      let ((a, b), cs) ← twoDigits cs
      if !(a.isDigit && b.isDigit) then .error .invalid
      else
        let ((d, e), cs) ← twoDigits (cs.dropWhile isColonOrBlank)
        if !(d.isDigit && e.isDigit) then .error .invalid
        else if '5' < d then .error .outOfRange
        else
          let east : Int := digitPair a b * 3600 + digitPair d e * 60
          .ok (if c = '+' then east else -east, cs)

def zone : Reader Int := fun cs =>
  match trimStart cs with
  | u :: t :: c :: rest =>
    if u.toLower = 'u' && t.toLower = 't' && c.toLower = 'c' then .ok (0, rest)
    else offset (u :: t :: c :: rest)
  | cs => offset cs

def firstDay : Int := (Date.mk (-262143) 1 1).dayNumber

def lastDay : Int := (Date.mk 262142 12 31).dayNumber

def parse (s : String) : Except TimestampError Timestamp := do
  let (y, cs) ← year s.toList
  let ((), cs) ← literal '-' cs
  let (month, cs) ← bounded 2 1 12 cs
  let ((), cs) ← literal '-' cs
  let (day, cs) ← bounded 2 1 31 cs
  let cs ← match cs with
    | [] => .error .tooShort
    | c :: rest => if c = 'T' ∨ c = 't' ∨ c = ' ' then .ok rest else .error .invalid
  let (hour, cs) ← bounded 2 0 23 cs
  let ((), cs) ← literal ':' cs
  let (minute, cs) ← bounded 2 0 59 cs
  let ((), cs) ← literal ':' cs
  let (second, cs) ← bounded 2 0 60 cs
  let (nanos, cs) ← fraction cs
  let (east, cs) ← zone cs
  if !(trimStart cs).isEmpty then .error .trailing
  else
    let dayNumber := (Date.mk y month day).dayNumber
    if daysInMonth y month < day ∨ dayNumber < firstDay ∨ lastDay < dayNumber then
      .error .outOfRange
    else if 86400 ≤ east.natAbs then .error .outOfRange
    else
      let ofDay : Int := hour * 3600 + minute * 60 + min second 59
      let seconds := dayNumber * 86400 + ofDay - east
      if seconds / 86400 < firstDay ∨ lastDay < seconds / 86400 then .error .impossible
      else .ok ⟨seconds, if second = 60 then nanos + 1000000000 else nanos⟩

end Timestamp

end ShardRouting
