/-!
Double-precision numbers by their bits, in exact arithmetic: the double nearest to a quotient of
naturals, and the shortest decimal that reads back as a given double.
-/

namespace ShardRouting

structure Binary64 where
  bits : UInt64
deriving DecidableEq

namespace Binary64

def isNegative (x : Binary64) : Bool := 1 <<< 63 ≤ x.bits.toNat

def magnitude (x : Binary64) : Nat := x.bits.toNat % 1 <<< 63

def ofMagnitude (negative : Bool) (magnitude : Nat) : Binary64 :=
  ⟨UInt64.ofNat (if negative then 1 <<< 63 + magnitude else magnitude)⟩

def zero : Binary64 := ⟨0⟩

def exponentField (x : Binary64) : Nat := x.magnitude / 1 <<< 52

def significand (x : Binary64) : Nat :=
  if x.exponentField = 0 then x.magnitude else x.magnitude % 1 <<< 52 + 1 <<< 52

def exponent (x : Binary64) : Int := (max x.exponentField 1 : Nat) - 1075

def above (base : Nat) (e : Int) : Nat := base.pow e.toNat

def below (base : Nat) (e : Int) : Nat := base.pow (-e).toNat

def roundQuotient (num den : Nat) : Nat :=
  let q := num / den
  let twice := 2 * (num % den)
  if twice < den then q else if den < twice then q + 1 else q + q % 2

def nearest? (num den : Nat) : Option Nat :=
  if num = 0 then some 0
  else
    let k : Int := (num.log2 : Int) - den.log2
    let floorLog : Int := if den * above 2 k ≤ num * below 2 k then k else k - 1
    let e : Int := max (floorLog - 52) (-1074)
    let m := roundQuotient (num * below 2 e) (den * above 2 e)
    let magnitude := (e + 1074).toNat * 1 <<< 52 + m
    if magnitude < 2047 * 1 <<< 52 then some magnitude else none

def ofDecimal? (negative : Bool) (significand : Nat) (exponent : Int) : Option Binary64 :=
  (nearest? (significand * above 10 exponent) (below 10 exponent)).map (ofMagnitude negative)

def fraction (x : Binary64) : Nat × Nat :=
  (x.significand * above 2 x.exponent, below 2 x.exponent)

def decimalExponent (x : Binary64) : Int :=
  let (num, den) := x.fraction
  let reaches (t : Int) : Bool := den * above 10 t ≤ num * below 10 t
  let guess := Int.fdiv (((x.significand.log2 : Int) + x.exponent) * 30103) 100000
  if reaches (guess + 1) then guess + 1 else if reaches guess then guess else guess - 1

/-- On the decimal grid of step `10 ^ j`, the grid point nearest to `x` of those that read back as
`x`. An interval end reads back when the significand is even. -/
def gridPoint? (x : Binary64) (j : Int) : Option Nat :=
  let m := x.significand
  let low := if m = 1 <<< 52 ∧ 1 < x.exponentField then 4 * m - 1 else 4 * m - 2
  let high := 4 * m + 2
  let num := above 2 (x.exponent - 2) * below 10 j
  let den := below 2 (x.exponent - 2) * above 10 j
  let readsBack (c : Nat) : Bool :=
    if m % 2 = 0 then low * num ≤ c * den && c * den ≤ high * num
    else low * num < c * den && c * den < high * num
  let c := 4 * m * num / den
  let twice := 2 * (4 * m * num % den)
  match readsBack c, readsBack (c + 1) with
  | false, false => none
  | true, false => some c
  | false, true => some (c + 1)
  | true, true =>
    some (if twice < den then c else if den < twice then c + 1 else c + c % 2)

def shortestFrom (x : Binary64) (top : Int) : Nat → Nat → Nat × Int
  | 0, _ => (0, 0)
  | fuel + 1, digits =>
    let j := top - digits + 1
    match x.gridPoint? j with
    | some c => (c, j)
    | none => shortestFrom x top fuel (digits + 1)

def stripZeros : List Char → Int → List Char × Int
  | cs, e =>
    let kept := (cs.reverse.dropWhile (· = '0')).reverse
    (kept, e + (cs.length - kept.length : Nat))

def shortest (x : Binary64) : List Char × Int :=
  if x.significand = 0 then (['0'], 0)
  else
    let (c, j) := shortestFrom x x.decimalExponent 17 1
    stripZeros (Nat.toDigits 10 c) j

def zeros (n : Nat) : List Char := List.replicate n '0'

def pointed (digits : List Char) (point : Int) : List Char :=
  if point ≤ 0 then ['0', '.'] ++ zeros (-point).toNat ++ digits
  else if digits.length ≤ point.toNat then
    digits ++ zeros (point.toNat - digits.length) ++ ['.', '0']
  else digits.take point.toNat ++ '.' :: digits.drop point.toNat

def signed (x : Binary64) (cs : List Char) : String :=
  String.ofList (if x.isNegative then '-' :: cs else cs)

def positional (x : Binary64) : String :=
  let (digits, e) := x.shortest
  x.signed (pointed digits (digits.length + e))

def compact (x : Binary64) : String :=
  let (digits, e) := x.shortest
  let point : Int := digits.length + e
  x.signed <|
    if x.significand = 0 ∨ (-5 < point ∧ point ≤ 16) then pointed digits point
    else
      let mantissa := match digits with
        | [] => []
        | [d] => [d]
        | d :: rest => d :: '.' :: rest
      mantissa ++ 'e' :: (toString (point - 1)).toList

end Binary64

end ShardRouting
