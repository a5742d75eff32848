import ShardRouting.Number.Binary64

namespace ShardRouting

inductive Json.Number
  | integer (i : Int)
  | real (x : Binary64)
deriving DecidableEq

inductive Json
  | null
  | boolean (b : Bool)
  | number (n : Json.Number)
  | text (s : String)
  | list (items : List Json)
  | object (members : List (String × Json))

namespace Json

def nat (n : Nat) : Json := .number (.integer n)

def word (n : UInt64) : Json := .nat n.toNat

def halfWord (n : UInt32) : Json := .nat n.toNat

def optional {α : Type} (f : α → Json) : Option α → Json
  | none => .null
  | some a => f a

def Number.render : Number → String
  | .integer i => toString i
  | .real x => x.compact

def hexDigit (n : Nat) : Char := (Nat.digitChar n)

def escapeChar (c : Char) : List Char :=
  match c with
  | '"' => ['\\', '"']
  | '\\' => ['\\', '\\']
  | '\x08' => ['\\', 'b']
  | '\x0c' => ['\\', 'f']
  | '\n' => ['\\', 'n']
  | '\r' => ['\\', 'r']
  | '\t' => ['\\', 't']
  | c =>
    if c.toNat < 32 then ['\\', 'u', '0', '0', hexDigit (c.toNat / 16), hexDigit (c.toNat % 16)]
    else [c]

def renderText (s : String) : String :=
  String.ofList ('"' :: s.toList.flatMap escapeChar ++ ['"'])

mutual

def render : Json → String
  | .null => "null"
  | .boolean b => if b then "true" else "false"
  | .number n => n.render
  | .text s => renderText s
  | .list items => "[" ++ ",".intercalate (renderItems items) ++ "]"
  | .object members => "\x7b" ++ ",".intercalate (renderMembers members) ++ "\x7d"

def renderItems : List Json → List String
  | [] => []
  | j :: rest => j.render :: renderItems rest

def renderMembers : List (String × Json) → List String
  | [] => []
  | (k, j) :: rest => (renderText k ++ ":" ++ j.render) :: renderMembers rest

end

def lineBreak (depth : Nat) : String := "\n" ++ String.ofList (List.replicate (2 * depth) ' ')

def bracketed (opening closing : String) (depth : Nat) (lines : List String) : String :=
  if lines.isEmpty then opening ++ closing
  else opening ++ lineBreak (depth + 1) ++ ("," ++ lineBreak (depth + 1)).intercalate lines ++
    lineBreak depth ++ closing

mutual

def renderLines (depth : Nat) : Json → String
  | .null => "null"
  | .boolean b => if b then "true" else "false"
  | .number n => n.render
  | .text s => renderText s
  | .list items => bracketed "[" "]" depth (itemLines (depth + 1) items)
  | .object members => bracketed "\x7b" "\x7d" depth (memberLines (depth + 1) members)

def itemLines (depth : Nat) : List Json → List String
  | [] => []
  | j :: rest => j.renderLines depth :: itemLines depth rest

def memberLines (depth : Nat) : List (String × Json) → List String
  | [] => []
  | (k, j) :: rest => (renderText k ++ ": " ++ j.renderLines depth) :: memberLines depth rest

end

end Json

end ShardRouting
