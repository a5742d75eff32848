import ShardRouting.Yaml.Scalar

/-!
Tokens of a YAML text. Blocks, which the text shows by indentation alone, get tokens for their start
and end; a key that is not marked as one is found out when the colon after it is read, and its
tokens are put in front of it then. The first fault of the text is the last token.
-/

namespace ShardRouting.Yaml

inductive Token
  | malformed
  | version (major minor : Nat)
  | tagHandle (handle meaning : String)
  | documentStart
  | documentEnd
  | blockSequence
  | blockMapping
  | blockEnd
  | openSequence
  | closeSequence
  | openMapping
  | closeMapping
  | blockEntry
  | flowEntry
  | key
  | value
  | alias (name : String)
  | anchor (name : String)
  | tag (handle suffix : String)
  | scalar (plain : Bool) (text : String)
deriving DecidableEq

structure KeyCandidate where
  required : Bool
  position : Nat
  index : Nat
  line : Nat
  column : Nat

structure Scanner where
  cursor : Cursor
  tokens : Array Token := #[]
  indent : Int := -1
  outerIndents : List Int := []
  keyAllowed : Bool := true
  candidate : Option KeyCandidate := none
  outerCandidates : List (Option KeyCandidate) := []

namespace Scanner

variable (s : Scanner)

def column : Nat := s.cursor.column

def inFlow : Bool := !s.outerCandidates.isEmpty

def emit (t : Token) : Scanner := { s with tokens := s.tokens.push t }

def advance (n : Nat) : Scanner := { s with cursor := s.cursor.skip n }

def skipSpacing (fuel : Nat) (s : Scanner) : Scanner :=
  match fuel, s.cursor.rest with
  | fuel + 1, c :: _ =>
    if c = ' ' || (c = '\t' && (s.inFlow || !s.keyAllowed)) then skipSpacing fuel (s.advance 1)
    else if c = '#' then skipSpacing fuel { s with cursor := s.cursor.toLineEnd }
    else if isBreak c then
      skipSpacing fuel { s.advance 1 with keyAllowed := s.keyAllowed || !s.inFlow }
    else s
  | _, _ => s

def isStale (k : KeyCandidate) : Bool :=
  k.line < s.cursor.line || k.index + 1024 < s.cursor.index

def dropStale : Option Scanner :=
  if (s.candidate :: s.outerCandidates).any (·.any fun k => s.isStale k && k.required) then none
  else
    let keep (k : Option KeyCandidate) := k.filter (!s.isStale ·)
    some { s with candidate := keep s.candidate, outerCandidates := s.outerCandidates.map keep }

def dropCandidate : Option Scanner :=
  if s.candidate.any (·.required) then none else some { s with candidate := none }

def saveCandidate : Option Scanner := do
  if s.keyAllowed then
    let s ← s.dropCandidate
    return { s with candidate := some {
      required := !s.inFlow && s.indent = s.column
      position := s.tokens.size
      index := s.cursor.index
      line := s.cursor.line
      column := s.column } }
  else return s

def openBlock (column position : Nat) (t : Token) : Scanner :=
  if !s.inFlow && s.indent < column then
    { s with
      outerIndents := s.indent :: s.outerIndents
      indent := column
      tokens := s.tokens.insertIdxIfInBounds position t }
  else s

def closeBlocksFrom (column : Int) (s : Scanner) (indent : Int) : List Int → Scanner
  | [] => { s with indent, outerIndents := [] }
  | outer :: rest =>
    if column < indent then closeBlocksFrom column (s.emit .blockEnd) outer rest
    else { s with indent, outerIndents := outer :: rest }

def closeBlocks (column : Int) : Scanner :=
  if s.inFlow then s else closeBlocksFrom column s s.indent s.outerIndents

def finish : Option Scanner :=
  (s.closeBlocks (-1)).dropCandidate

def documentMark (t : Token) : Option Scanner := do
  let s ← (s.closeBlocks (-1)).dropCandidate
  return ({ s with keyAllowed := false }.advance 3).emit t

def openBracket (t : Token) : Option Scanner := do
  let s ← s.saveCandidate
  return ({ s with
    keyAllowed := true
    candidate := none
    outerCandidates := s.candidate :: s.outerCandidates }.advance 1).emit t

def closeBracket (t : Token) : Option Scanner := do
  let s ← s.dropCandidate
  let s := match s.outerCandidates with
    | [] => s
    | k :: rest => { s with candidate := k, outerCandidates := rest }
  return ({ s with keyAllowed := false }.advance 1).emit t

def flowEntry : Option Scanner := do
  let s ← s.dropCandidate
  return ({ s with keyAllowed := true }.advance 1).emit .flowEntry

def beginBlock (t : Token) : Option Scanner :=
  if s.inFlow then some s
  else if s.keyAllowed then some (s.openBlock s.column s.tokens.size t)
  else none

def blockEntry : Option Scanner := do
  let s ← s.beginBlock .blockSequence
  let s ← s.dropCandidate
  return ({ s with keyAllowed := true }.advance 1).emit .blockEntry

def keyMark : Option Scanner := do
  let s ← s.beginBlock .blockMapping
  let s ← s.dropCandidate
  return ({ s with keyAllowed := !s.inFlow }.advance 1).emit .key

def valueMark : Option Scanner := do
  let s ← match s.candidate with
    | some k =>
      let s := { s with tokens := s.tokens.insertIdxIfInBounds k.position .key, candidate := none }
      some { s.openBlock k.column k.position .blockMapping with keyAllowed := false }
    | none => do
      let s ← s.beginBlock .blockMapping
      some { s with keyAllowed := !s.inFlow }
  return (s.advance 1).emit .value

def isWordChar (c : Char) : Bool := c.isAlphanum || c = '_' || c = '-'

def endsName (c : Char) : Bool := isSpacing c || "?:,]\x7d%@\x60".toList.contains c

def name (make : String → Token) : Option Scanner := do
  let s ← s.saveCandidate
  let (word, cursor) := s.cursor.next.takeWhile isWordChar
  if word.isEmpty || !cursor.rest.head?.all endsName then none
  else return { s with cursor, keyAllowed := false }.emit (make (String.ofList word))

def isUriChar (inBrackets : Bool) (c : Char) : Bool :=
  isWordChar c || ";/?:@&=+$.!~*'()%".toList.contains c ||
    (inBrackets && (c = ',' || c = '[' || c = ']'))

def uriBytes : List Char → Option (List UInt8)
  | [] => some []
  | '%' :: a :: b :: rest => do
    let n := (← hexValue? a) * 16 + (← hexValue? b)
    return UInt8.ofNat n :: (← uriBytes rest)
  | '%' :: _ => none
  | c :: rest => do return String.utf8EncodeChar c ++ (← uriBytes rest)

def uri? (cs : List Char) : Option String := do
  String.fromUTF8? ⟨(← uriBytes cs).toArray⟩

def tagParts (c : Cursor) : Option (Token × Cursor) :=
  match c.rest with
  | '!' :: '<' :: _ =>
    let (text, c) := (c.skip 2).takeWhile (isUriChar true)
    if text.isEmpty || c.rest.head? ≠ some '>' then none
    else (uri? text).map fun t => (.tag "" t, c.next)
  | _ =>
    let (word, afterWord) := c.next.takeWhile isWordChar
    if afterWord.rest.head? = some '!' then
      let (text, c) := afterWord.next.takeWhile (isUriChar false)
      if text.isEmpty then none
      else (uri? text).map fun t => (.tag (String.ofList ('!' :: word ++ ['!'])) t, c)
    else
      let (text, c) := c.next.takeWhile (isUriChar false)
      (uri? text).map fun t => (if t.isEmpty then .tag "" "!" else .tag "!" t, c)

def tag : Option Scanner := do
  let s ← s.saveCandidate
  let (t, cursor) ← tagParts s.cursor
  if cursor.spacingAt 0 || (s.inFlow && cursor.rest.head? = some ',') then
    return { s with cursor, keyAllowed := false }.emit t
  else none

def digits? (cs : List Char) : Option Nat :=
  if cs.isEmpty || 9 < cs.length then none
  else some (cs.foldl (fun n d => n * 10 + (d.toNat - '0'.toNat)) 0)

def versionNumber (c : Cursor) : Option (Token × Cursor) := do
  let (major, c) := c.takeWhile Char.isDigit
  let m ← digits? major
  if c.rest.head? = some '.' then
    let (minor, c) := c.next.takeWhile Char.isDigit
    return (.version m (← digits? minor), c)
  else none

def handleMeaning (c : Cursor) : Option (Token × Cursor) := do
  if c.rest.head? = some '!' then
    let (word, c) := c.next.takeWhile isWordChar
    let (closing, c) := if c.rest.head? = some '!' then (['!'], c.next) else ([], c)
    let handle := '!' :: word ++ closing
    if (closing.isEmpty && !word.isEmpty) || !c.rest.head?.any isBlank then none
    else
      let (text, c) := (c.dropWhile isBlank).takeWhile (isUriChar true)
      if text.isEmpty || !c.spacingAt 0 then none
      else return (.tagHandle (String.ofList handle) (← uri? text), c)
  else none

def directive : Option Scanner := do
  let s ← (s.closeBlocks (-1)).dropCandidate
  let (word, c) := s.cursor.next.takeWhile isWordChar
  if !c.rest.head?.any isBlank then none
  else
    let c := c.dropWhile isBlank
    let (t, c) ← match String.ofList word with
      | "YAML" => versionNumber c
      | "TAG" => handleMeaning c
      | _ => none
    let c := c.dropWhile isBlank
    let c := if c.rest.head? = some '#' then c.toLineEnd else c
    if c.rest.head?.all isBreak then
      return { s with cursor := c.next, keyAllowed := false }.emit t
    else none

def blockScalar (folded : Bool) : Option Scanner := do
  let s ← s.dropCandidate
  let (text, cursor) ← scanBlock folded s.indent (s.cursor.rest.length + 1) s.cursor.next
  return { s with cursor, keyAllowed := true }.emit (.scalar false (String.ofList text))

def quotedScalar (double : Bool) : Option Scanner := do
  let s ← s.saveCandidate
  let (text, cursor) ← scanQuoted double (s.cursor.rest.length + 1) s.cursor.next .none []
  return { s with cursor, keyAllowed := false }.emit (.scalar false (String.ofList text))

def plainScalar : Option Scanner := do
  let s ← s.saveCandidate
  let r ← scanPlain s.inFlow (s.indent + 1).toNat (s.cursor.rest.length + 1) s.cursor .none []
  return { s with cursor := r.cursor, keyAllowed := r.leftLine }.emit
    (.scalar true (String.ofList r.text))

def isIndicator (c : Char) : Bool := "-?:,[]\x7b\x7d#&*!|>'\"%@\x60".toList.contains c

def beginsPlain (c : Char) : Bool :=
  (!isIndicator c && !isSpacing c) || (c = '-' && !(s.cursor.rest.drop 1).head?.any isBlank) ||
    (!s.inFlow && (c = '?' || c = ':') && !s.cursor.spacingAt 1)

def scanAt (c : Char) : Option Scanner :=
  if s.column = 0 && c = '%' then s.directive
  else if s.cursor.atDocumentMark then
    s.documentMark (if c = '-' then .documentStart else .documentEnd)
  else if c = '-' && s.cursor.spacingAt 1 then s.blockEntry
  else if c = '?' && (s.inFlow || s.cursor.spacingAt 1) then s.keyMark
  else if c = ':' && (s.inFlow || s.cursor.spacingAt 1) then s.valueMark
  else
    match c with
    | '[' => s.openBracket .openSequence
    | '\x7b' => s.openBracket .openMapping
    | ']' => s.closeBracket .closeSequence
    | '\x7d' => s.closeBracket .closeMapping
    | ',' => s.flowEntry
    | '*' => s.name .alias
    | '&' => s.name .anchor
    | '!' => s.tag
    | '\'' => s.quotedScalar false
    | '"' => s.quotedScalar true
    | c =>
      if !s.inFlow && (c = '|' || c = '>') then s.blockScalar (c = '>')
      else if s.beginsPlain c then s.plainScalar
      else none

def run (fuel : Nat) (s : Scanner) : List Token :=
  let fault (s : Scanner) := (s.tokens.push .malformed).toList
  match fuel with
  | 0 => fault s
  | fuel + 1 =>
    let s := s.skipSpacing (s.cursor.rest.length + 1)
    match s.dropStale with
    | none => fault s
    | some s =>
      match s.cursor.rest with
      | [] =>
        match s.finish with
        | none => fault s
        | some s => s.tokens.toList
      | c :: _ =>
        match (s.closeBlocks s.column).scanAt c with
        | none => fault s
        | some s => run fuel s

end Scanner

def scan (text : String) : List Token :=
  let cs := match text.toList with
    | '\ufeff' :: rest => rest
    | cs => cs
  if cs.all isAllowed then
    let cs := unifyBreaks cs
    Scanner.run (cs.length + 1) ⟨⟨cs, 0, 0, 0⟩, #[], -1, [], true, none, []⟩
  else [.malformed]

end ShardRouting.Yaml
