import ShardRouting.Text.Blank
import ShardRouting.Text.LetterTable
import ShardRouting.Text.Quoted

namespace ShardRouting

namespace LogFilter

def levelNames : List String := ["off", "error", "warn", "info", "debug", "trace"]

def digitsValue (cs : List Char) : Nat := cs.foldl (fun n c => n * 10 + (c.toNat - '0'.toNat)) 0

def isLevel (cs : List Char) : Bool :=
  let digits := match cs with
    | '+' :: rest => rest
    | cs => cs
  cs.isEmpty || levelNames.contains (String.ofList (cs.map Char.toLower)) ||
    (!digits.isEmpty && digits.all Char.isDigit && digitsValue digits ≤ 5)

inductive PatternState
  | opening
  | item
  | escape
  | classOpening
  | inClass
  | classEscape
deriving DecidableEq

def isPatternFrom (depth : Nat) : PatternState → List Char → Bool
  | .opening, [] | .item, [] => depth = 0
  | _, [] => false
  | .escape, c :: rest => !c.isDigit && isPatternFrom depth .item rest
  | .classEscape, c :: rest => !c.isDigit && isPatternFrom depth .inClass rest
  | .classOpening, c :: rest =>
    if c = '^' then isPatternFrom depth .classOpening rest
    else if c = '\\' then isPatternFrom depth .classEscape rest
    else isPatternFrom depth .inClass rest
  | .inClass, c :: rest =>
    if c = ']' then isPatternFrom depth .item rest
    else if c = '\\' then isPatternFrom depth .classEscape rest
    else isPatternFrom depth .inClass rest
  | _, '(' :: '?' :: rest => isPatternFrom (depth + 1) .item rest
  | _, '(' :: rest => isPatternFrom (depth + 1) .opening rest
  | _, ')' :: rest => depth ≠ 0 && isPatternFrom (depth - 1) .item rest
  | _, '[' :: rest => isPatternFrom depth .classOpening rest
  | _, '|' :: rest => isPatternFrom depth .opening rest
  | _, '\\' :: rest => isPatternFrom depth .escape rest
  | s, c :: rest =>
    if c = '\x7b' then false
    else if c = '*' || c = '+' || c = '?' then s = .item && isPatternFrom depth .item rest
    else isPatternFrom depth .item rest

def isPattern (cs : List Char) : Bool := isPatternFrom 0 .opening cs

def isField (cs : List Char) : Bool :=
  let value := ((cs.dropWhile (· ≠ '=')).drop 1).takeWhile (· ≠ '=')
  !cs.isEmpty && (isPattern value || (value.head? = some '+' && value.tail.all Char.isDigit))

def isEnd (bare : Bool) : List Char → Bool
  | [] => true
  | '=' :: level => bare && isLevel level
  | _ => false

def isSpan (bare : Bool) (cs : List Char) : Bool :=
  match cs.dropWhile fun c => c ≠ ']' && c ≠ '\x7b' with
  | ']' :: rest => isEnd bare rest
  | '\x7b' :: rest =>
    match rest.dropWhile (· ≠ '\x7d') with
    | '\x7d' :: ']' :: more => isField (rest.takeWhile (· ≠ '\x7d')) && isEnd bare more
    | _ => false
  | _ => false

def beginsTarget (c : Char) : Bool := isLetterOrNumber c || c = '-' || c = ':' || c = '_'

def isDirective (cs : List Char) : Bool :=
  let body := trim cs
  let bare := body = cs
  match body with
  | [] => false
  | '[' :: rest => isSpan bare rest
  | c :: rest =>
    beginsTarget c &&
      match rest.dropWhile fun c => c ≠ '=' && c ≠ '[' with
      | '[' :: more => isSpan bare more
      | more => isEnd bare more

end LogFilter

def isLogFilter (s : String) : Bool :=
  (s.splitOn ",").all fun d => d.isEmpty || LogFilter.isDirective d.toList

structure LogFilterError where
  filter : String
deriving DecidableEq

def LogFilterError.message (e : LogFilterError) : String :=
  "invalid log filter " ++ quoted e.filter

def checkLogFilter (s : String) : Except LogFilterError Unit :=
  if isLogFilter s then .ok () else .error ⟨s⟩

end ShardRouting
