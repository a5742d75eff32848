import ShardRouting.Yaml.Token

namespace ShardRouting.Yaml

inductive Node
  | malformed
  | scalar (plain : Bool) (tag : Option String) (text : String)
  | sequence (tag : Option String) (items : List Node)
  | mapping (tag : Option String) (entries : List (Node × Node))

structure Remainder where
  tokens : List Token
  handles : List (String × String)
  anchors : List (String × Node) := []

namespace Node

def empty : Node := .scalar true none ""

structure Properties where
  anchor : Option String := none
  tag : Option (String × String) := none

def Properties.isEmpty (p : Properties) : Bool := p.anchor.isNone && p.tag.isNone

def properties : List Token → Properties × List Token
  | .anchor a :: .tag handle suffix :: rest => (⟨some a, some (handle, suffix)⟩, rest)
  | .tag handle suffix :: .anchor a :: rest => (⟨some a, some (handle, suffix)⟩, rest)
  | .anchor a :: rest => (⟨some a, none⟩, rest)
  | .tag handle suffix :: rest => (⟨none, some (handle, suffix)⟩, rest)
  | rest => ({}, rest)

def fullTag (handles : List (String × String)) : Option (String × String) → Option (Option String)
  | none => some none
  | some ("", tag) => some (some tag)
  | some (handle, suffix) => (handles.lookup handle).map fun meaning => some (meaning ++ suffix)

def endsBlockItem : Token → Bool
  | .blockEntry | .blockEnd => true
  | _ => false

def endsIndentlessItem : Token → Bool
  | .blockEntry | .key | .value | .blockEnd => true
  | _ => false

def endsBlockEntry : Token → Bool
  | .key | .value | .blockEnd => true
  | _ => false

def endsFlowItem : Token → Bool
  | .value | .flowEntry | .closeSequence => true
  | _ => false

def endsFlowEntry : Token → Bool
  | .value | .flowEntry | .closeMapping => true
  | _ => false

mutual

def read (block indentless : Bool) (fuel : Nat) (r : Remainder) : Node × Option Remainder :=
  match fuel with
  | 0 => (malformed, none)
  | fuel + 1 =>
    match r.tokens with
    | .alias name :: rest =>
      match r.anchors.lookup name with
      | some node => (node, some { r with tokens := rest })
      | none => (malformed, none)
    | tokens =>
      let (p, rest) := properties tokens
      match fullTag r.handles p.tag with
      | none => (malformed, none)
      | some tag =>
        let (node, after) := readContent block indentless p.isEmpty tag fuel { r with tokens := rest }
        match p.anchor with
        | none => (node, after)
        | some a => (node, after.map fun r => { r with anchors := (a, node) :: r.anchors })

def readContent (block indentless written : Bool) (tag : Option String) (fuel : Nat)
    (r : Remainder) : Node × Option Remainder :=
  match fuel with
  | 0 => (malformed, none)
  | fuel + 1 =>
    let sequenceOf (items : List Node × Option Remainder) : Node × Option Remainder :=
      (.sequence tag items.1, items.2)
    let mappingOf (entries : List (Node × Node) × Option Remainder) : Node × Option Remainder :=
      (.mapping tag entries.1, entries.2)
    match r.tokens with
    | .scalar plain text :: rest =>
      (.scalar plain (tag.filter (· ≠ "!")) text, some { r with tokens := rest })
    | .openSequence :: rest => sequenceOf (readFlowItems true fuel { r with tokens := rest })
    | .openMapping :: rest => mappingOf (readFlowEntries true fuel { r with tokens := rest })
    | .blockSequence :: rest =>
      if block then sequenceOf (readBlockItems fuel { r with tokens := rest })
      else (malformed, none)
    | .blockMapping :: rest =>
      if block then mappingOf (readBlockEntries fuel { r with tokens := rest })
      else (malformed, none)
    | .blockEntry :: _ =>
      if indentless then sequenceOf (readIndentlessItems fuel r)
      else if written then (malformed, none)
      else (.scalar true (tag.filter (· ≠ "!")) "", some r)
    | _ =>
      if written then (malformed, none)
      else (.scalar true (tag.filter (· ≠ "!")) "", some r)

def readUnless (absent : Token → Bool) (block indentless : Bool) (fuel : Nat) (r : Remainder) :
    Node × Option Remainder :=
  match fuel with
  | 0 => (malformed, none)
  | fuel + 1 =>
    if r.tokens.head?.any absent then (empty, some r) else read block indentless fuel r

def readBlockItems (fuel : Nat) (r : Remainder) : List Node × Option Remainder :=
  match fuel with
  | 0 => ([malformed], none)
  | fuel + 1 =>
    match r.tokens with
    | .blockEntry :: rest =>
      match readUnless endsBlockItem true false fuel { r with tokens := rest } with
      | (item, none) => ([item], none)
      | (item, some r) =>
        let (items, r) := readBlockItems fuel r
        (item :: items, r)
    | .blockEnd :: rest => ([], some { r with tokens := rest })
    | _ => ([malformed], none)

def readIndentlessItems (fuel : Nat) (r : Remainder) : List Node × Option Remainder :=
  match fuel with
  | 0 => ([malformed], none)
  | fuel + 1 =>
    match r.tokens with
    | .blockEntry :: rest =>
      match readUnless endsIndentlessItem true false fuel { r with tokens := rest } with
      | (item, none) => ([item], none)
      | (item, some r) =>
        let (items, r) := readIndentlessItems fuel r
        (item :: items, r)
    | _ => ([], some r)

def readValue (absent : Token → Bool) (block : Bool) (fuel : Nat) (r : Remainder) :
    Node × Option Remainder :=
  match fuel with
  | 0 => (malformed, none)
  | fuel + 1 =>
    match r.tokens with
    | .value :: rest => readUnless absent block block fuel { r with tokens := rest }
    | _ => (empty, some r)

def readBlockEntries (fuel : Nat) (r : Remainder) : List (Node × Node) × Option Remainder :=
  match fuel with
  | 0 => ([(malformed, malformed)], none)
  | fuel + 1 =>
    match r.tokens with
    | .key :: rest =>
      match readUnless endsBlockEntry true true fuel { r with tokens := rest } with
      | (key, none) => ([(key, malformed)], none)
      | (key, some r) =>
        match readValue endsBlockEntry true fuel r with
        | (value, none) => ([(key, value)], none)
        | (value, some r) =>
          let (entries, r) := readBlockEntries fuel r
          ((key, value) :: entries, r)
    | .blockEnd :: rest => ([], some { r with tokens := rest })
    | _ => ([(malformed, malformed)], none)

def readPair (absent : Token → Bool) (fuel : Nat) (r : Remainder) :
    (Node × Node) × Option Remainder :=
  match fuel with
  | 0 => ((malformed, malformed), none)
  | fuel + 1 =>
    match readUnless absent false false fuel r with
    | (key, none) => ((key, malformed), none)
    | (key, some r) =>
      let (value, r) := readValue absent false fuel r
      ((key, value), r)

def readFlowItems (first : Bool) (fuel : Nat) (r : Remainder) : List Node × Option Remainder :=
  match fuel with
  | 0 => ([malformed], none)
  | fuel + 1 =>
    let item (tokens : List Token) : List Node × Option Remainder :=
      match tokens with
      | .closeSequence :: rest => ([], some { r with tokens := rest })
      | .key :: rest =>
        match readPair endsFlowItem fuel { r with tokens := rest } with
        | (pair, none) => ([.mapping none [pair]], none)
        | (pair, some r) =>
          let (items, r) := readFlowItems false fuel r
          (.mapping none [pair] :: items, r)
      | tokens =>
        match read false false fuel { r with tokens } with
        | (node, none) => ([node], none)
        | (node, some r) =>
          let (items, r) := readFlowItems false fuel r
          (node :: items, r)
    match first, r.tokens with
    | true, tokens => item tokens
    | false, .flowEntry :: rest => item rest
    | false, .closeSequence :: rest => ([], some { r with tokens := rest })
    | false, _ => ([malformed], none)

def readFlowEntries (first : Bool) (fuel : Nat) (r : Remainder) :
    List (Node × Node) × Option Remainder :=
  match fuel with
  | 0 => ([(malformed, malformed)], none)
  | fuel + 1 =>
    let entry (tokens : List Token) : List (Node × Node) × Option Remainder :=
      match tokens with
      | .closeMapping :: rest => ([], some { r with tokens := rest })
      | .key :: rest =>
        match readPair endsFlowEntry fuel { r with tokens := rest } with
        | (pair, none) => ([pair], none)
        | (pair, some r) =>
          let (entries, r) := readFlowEntries false fuel r
          (pair :: entries, r)
      | tokens =>
        match read false false fuel { r with tokens } with
        | (key, none) => ([(key, malformed)], none)
        | (key, some r) =>
          let (entries, r) := readFlowEntries false fuel r
          ((key, empty) :: entries, r)
    match first, r.tokens with
    | true, tokens => entry tokens
    | false, .flowEntry :: rest => entry rest
    | false, .closeMapping :: rest => ([], some { r with tokens := rest })
    | false, _ => ([(malformed, malformed)], none)

end

end Node

inductive Ending
  | nothing
  | fault
  | more
deriving DecidableEq

structure Document where
  root : Node
  ending : Ending

namespace Document

def standardHandles : List (String × String) := [("!", "!"), ("!!", "tag:yaml.org,2002:")]

def directives (versioned : Bool) (handles : List (String × String)) :
    List Token → Option Remainder
  | .version major minor :: rest =>
    if versioned || major ≠ 1 || (minor ≠ 1 && minor ≠ 2) then none
    else directives true handles rest
  | .tagHandle handle meaning :: rest =>
    if (handles.lookup handle).isSome then none
    else directives versioned ((handle, meaning) :: handles) rest
  | .documentStart :: rest => some { tokens := rest, handles := handles ++ standardHandles }
  | _ => none

def begins : Token → Bool
  | .version .. | .tagHandle .. | .documentStart => true
  | _ => false

def endingOf : List Token → Ending
  | [] => .nothing
  | .malformed :: _ => .fault
  | .documentEnd :: rest => if rest.all (· = .documentEnd) then .nothing else .more
  | _ => .more

def readRoot (r : Remainder) : Document :=
  match Node.read true false (4 * r.tokens.length + 8) r with
  | (root, none) => ⟨root, .fault⟩
  | (root, some r) => ⟨root, endingOf r.tokens⟩

def read (text : String) : Document :=
  match scan text with
  | [] => ⟨.empty, .nothing⟩
  | t :: rest =>
    if begins t then
      match directives false [] (t :: rest) with
      | none => ⟨.malformed, .fault⟩
      | some r =>
        if r.tokens.head?.all fun t => begins t || t = .documentEnd then
          ⟨.empty, endingOf r.tokens⟩
        else readRoot r
    else readRoot { tokens := t :: rest, handles := standardHandles }

end Document

end ShardRouting.Yaml
