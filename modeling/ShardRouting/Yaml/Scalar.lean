import ShardRouting.Yaml.Cursor

/-!
Texts of YAML scalars: plain, between quotes, and in blocks of lines. Inside a plain or quoted
scalar a single line break is a blank, and of several the first is dropped.
-/

namespace ShardRouting.Yaml

inductive Gap
  | blanks (cs : List Char)
  | breaks (first later : List Char)

namespace Gap

def none : Gap := .blanks []

def isNone : Gap → Bool
  | .blanks [] => true
  | _ => false

def hasBreak : Gap → Bool
  | .blanks _ => false
  | .breaks .. => true

def add (c : Char) : Gap → Gap
  | .blanks cs => if isBreak c then .breaks [c] [] else .blanks (c :: cs)
  | .breaks first later => if isBreak c then .breaks first (c :: later) else .breaks first later

def fold (text : List Char) : Gap → List Char
  | .blanks cs => cs ++ text
  | .breaks ['\n'] [] => ' ' :: text
  | .breaks ['\n'] later => later ++ text
  | .breaks first later => later ++ first ++ text

end Gap

structure Scanned where
  text : List Char
  leftLine : Bool
  cursor : Cursor

def isFlowIndicator (c : Char) : Bool :=
  c = ',' || c = '[' || c = ']' || c = '\x7b' || c = '\x7d'

/-- Scans a plain scalar; its lines after the first start at column `indent` or further right,
except inside brackets. `text` is what was read so far, reversed. -/
def scanPlain (inFlow : Bool) (indent : Nat) (fuel : Nat) (c : Cursor) (gap : Gap)
    (text : List Char) : Option Scanned :=
  match fuel, c.rest with
  | fuel + 1, x :: rest =>
    if isSpacing x then
      if gap.hasBreak && c.column < indent && x = '\t' then none
      else scanPlain inFlow indent fuel c.next (gap.add x) text
    else if !gap.isNone && ((!inFlow && c.column < indent) || c.atDocumentMark || x = '#') then
      some ⟨text.reverse, gap.hasBreak, c⟩
    else if inFlow && x = ':' && rest.head?.any (fun y => isFlowIndicator y || y = '?') then none
    else if (x = ':' && c.spacingAt 1) || (inFlow && isFlowIndicator x) then
      some ⟨text.reverse, gap.hasBreak, c⟩
    else scanPlain inFlow indent fuel c.next .none (x :: gap.fold text)
  | _, _ => some ⟨text.reverse, gap.hasBreak, c⟩

def hexValue? (c : Char) : Option Nat :=
  if c.isDigit then some (c.toNat - '0'.toNat)
  else if 'a' ≤ c && c ≤ 'f' then some (c.toNat - 'a'.toNat + 10)
  else if 'A' ≤ c && c ≤ 'F' then some (c.toNat - 'A'.toNat + 10)
  else none

def escaped? : Char → Option Char
  | '0' => some '\x00'
  | 'a' => some '\x07'
  | 'b' => some '\x08'
  | 't' => some '\t'
  | '\t' => some '\t'
  | 'n' => some '\n'
  | 'v' => some '\x0b'
  | 'f' => some '\x0c'
  | 'r' => some '\r'
  | 'e' => some '\x1b'
  | ' ' => some ' '
  | '"' => some '"'
  | '/' => some '/'
  | '\\' => some '\\'
  | 'N' => some '\u0085'
  | '_' => some '\u00a0'
  | 'L' => some '\u2028'
  | 'P' => some '\u2029'
  | _ => none

def codeWidth? : Char → Option Nat
  | 'x' => some 2
  | 'u' => some 4
  | 'U' => some 8
  | _ => none

def codePoint? (digits : List Char) : Option Char := do
  let values ← digits.mapM hexValue?
  let n := values.foldl (fun n d => n * 16 + d) 0
  if n.isValidChar then some (Char.ofNat n) else none

def readEscape : List Char → Option (Char × Nat)
  | [] => none
  | x :: rest =>
    match codeWidth? x with
    | some n =>
      if rest.length < n then none else (codePoint? (rest.take n)).map (·, n + 1)
    | none => (escaped? x).map (·, 1)

def scanQuoted (double : Bool) (fuel : Nat) (c : Cursor) (gap : Gap) (text : List Char) :
    Option (List Char × Cursor) :=
  match fuel, c.rest with
  | fuel + 1, x :: rest =>
    if isSpacing x then scanQuoted double fuel c.next (gap.add x) text
    else if c.atDocumentMark then none
    else if double then
      match x, rest with
      | '"', _ => some ((gap.fold text).reverse, c.next)
      | '\\', y :: _ =>
        if isBreak y then scanQuoted double fuel (c.skip 2) (.breaks [] []) (gap.fold text)
        else
          match readEscape rest with
          | some (z, n) => scanQuoted double fuel (c.skip (n + 1)) .none (z :: gap.fold text)
          | none => none
      | x, _ => scanQuoted double fuel c.next .none (x :: gap.fold text)
    else
      match x, rest with
      | '\'', '\'' :: _ => scanQuoted double fuel (c.skip 2) .none ('\'' :: gap.fold text)
      | '\'', _ => some ((gap.fold text).reverse, c.next)
      | x, _ => scanQuoted double fuel c.next .none (x :: gap.fold text)
  | _, _ => none

inductive Chomping
  | strip
  | clip
  | keep
deriving DecidableEq

def chomping? : Char → Option Chomping
  | '+' => some .keep
  | '-' => some .strip
  | _ => none

def indentation? (c : Char) : Option Nat :=
  if '1' ≤ c && c ≤ '9' then some (c.toNat - '0'.toNat) else none

def blockHeader (c : Cursor) : Chomping × Option Nat × Cursor :=
  match c.rest with
  | x :: y :: _ =>
    match chomping? x, indentation? y, indentation? x, chomping? y with
    | some m, some n, _, _ => (m, some n, c.skip 2)
    | some m, none, _, _ => (m, none, c.next)
    | none, _, some n, some m => (m, some n, c.skip 2)
    | none, _, some n, none => (.clip, some n, c.next)
    | none, _, none, _ => (.clip, none, c)
  | [x] =>
    match chomping? x, indentation? x with
    | some m, _ => (m, none, c.next)
    | none, some n => (.clip, some n, c.next)
    | none, none => (.clip, none, c)
  | [] => (.clip, none, c)

def skipEmptyLines (indent : Option Nat) (fuel : Nat) (c : Cursor) (breaks : List Char)
    (widest : Nat) : Option (List Char × Nat × Cursor) :=
  match fuel, c.rest with
  | fuel + 1, x :: _ =>
    let indenting := indent.all (c.column < ·)
    let widest := max widest c.column
    if indenting && x = ' ' then skipEmptyLines indent fuel c.next breaks widest
    else if indenting && x = '\t' then none
    else if isBreak x then skipEmptyLines indent fuel c.next (x :: breaks) widest
    else some (breaks, widest, c)
  | _, _ => some (breaks, max widest c.column, c)

structure BlockText where
  text : List Char
  lineEnd : List Char
  emptyLines : List Char
  blankStart : Bool

def BlockText.continued (b : BlockText) (folded : Bool) (first : Char) : List Char :=
  if folded && b.lineEnd = ['\n'] && !b.blankStart && !isBlank first then
    if b.emptyLines.isEmpty then ' ' :: b.text else b.emptyLines ++ b.text
  else b.emptyLines ++ b.lineEnd ++ b.text

def scanBlockLines (folded : Bool) (indent : Nat) (fuel : Nat) (c : Cursor) (b : BlockText) :
    Option (BlockText × Cursor) :=
  match fuel, c.rest with
  | fuel + 1, x :: _ =>
    if c.column = indent then
      let (line, c) := c.takeWhile (!isBreak ·)
      let text := line.reverse ++ b.continued folded x
      let lineEnd := c.rest.head?.toList
      match skipEmptyLines (some indent) fuel c.next [] 0 with
      | none => none
      | some (emptyLines, _, c) =>
        scanBlockLines folded indent fuel c ⟨text, lineEnd, emptyLines, isBlank x⟩
    else some (b, c)
  | _, _ => some (b, c)

def scanBlock (folded : Bool) (parent : Int) (fuel : Nat) (c : Cursor) :
    Option (List Char × Cursor) := do
  let (chomping, named, c) := blockHeader c
  let c := c.dropWhile isBlank
  let c := if c.rest.head? = some '#' then c.toLineEnd else c
  if c.rest.head?.all isBreak then
    let c := c.next
    let indent := named.map fun n => (max parent 0).toNat + n
    let (breaks, widest, c) ← skipEmptyLines indent fuel c [] 0
    let indent := indent.getD (max (max widest (parent + 1).toNat) 1)
    let (b, c) ← scanBlockLines folded indent fuel c ⟨[], [], breaks, false⟩
    let ended := if chomping = .strip then b.text else b.lineEnd ++ b.text
    let text := if chomping = .keep then b.emptyLines ++ ended else ended
    return (text.reverse, c)
  else none

end ShardRouting.Yaml
