import ShardRouting.Topology.Basic

namespace ShardRouting

inductive Command
  | route (topology : String) (keys : List String)
  | bucket (topology : Option String) (keys : List String)
  | showTopology (topology : String) (json : Bool)
  | validate (topology : String)
  | changed (topology : String) (clientVersion : UInt64)
  | shell (topology : String)
deriving DecidableEq

structure Invocation where
  config : Option String
  logDirectory : Option String
  command : Command
deriving DecidableEq

inductive Request
  | run (i : Invocation)
  | version
  | help
  | misuse
deriving DecidableEq

namespace Arguments

structure Level where
  valued : List (String × (String → Bool))
  flags : List String := []
  showsVersion : Bool := false

structure Scanned where
  values : List (String × String) := []
  flags : List String := []
  words : List String := []
  rest : List String := []

def isOption (arg : String) : Bool := arg.startsWith "-" && arg ≠ "-"

def splitLong (arg : String) : String × Option String :=
  let cs := arg.toList.drop 2
  let name := cs.takeWhile (· ≠ '=')
  (String.ofList name, if name.length = cs.length then none
    else some (String.ofList (cs.drop (name.length + 1))))

def scan (level : Level) (stops : Bool) (s : Scanned) : List String → Except Request Scanned
  | [] => .ok s
  | arg :: rest =>
    let take (name value : String) : Except Request Scanned :=
      match level.valued.lookup name with
      | some accepts =>
        if (s.values.lookup name).isSome || !accepts value then .error .misuse
        else .ok { s with values := (name, value) :: s.values }
      | none => .error .misuse
    if arg = "--" then
      if stops && !rest.isEmpty then .error .misuse
      else .ok { s with words := rest.reverse ++ s.words }
    else if arg.startsWith "--" then
      match splitLong arg with
      | (name, some value) => (take name value).bind fun s => scan level stops s rest
      | (name, none) =>
        if (level.valued.lookup name).isSome then
          match rest with
          | value :: rest =>
            if isOption value then .error .misuse
            else (take name value).bind fun s => scan level stops s rest
          | [] => .error .misuse
        else if level.flags.contains name then
          if s.flags.contains name then .error .misuse
          else scan level stops { s with flags := name :: s.flags } rest
        else if name = "help" then .error .help
        else if name = "version" && level.showsVersion then .error .version
        else .error .misuse
    else if isOption arg then
      match arg.toList with
      | '-' :: 'h' :: _ => .error .help
      | '-' :: 'V' :: _ => .error (if level.showsVersion then .version else .misuse)
      | _ => .error .misuse
    else if stops then .ok { s with rest := arg :: rest }
    else scan level stops { s with words := arg :: s.words } rest

def isPath (value : String) : Bool := !value.isEmpty

def word? (value : String) : Option UInt64 :=
  let cs := value.toList
  let digits := if cs.head? = some '+' then cs.tail else cs
  if digits.isEmpty || !digits.all Char.isDigit then none
  else
    let n := digits.foldl (fun n c => n * 10 + (c.toNat - '0'.toNat)) 0
    if n < UInt64.size then some (UInt64.ofNat n) else none

def globalOptions : List (String × (String → Bool)) :=
  [("config", isPath), ("log-dir", fun _ => true)]

def topologyOption : String × (String → Bool) := ("topology", isPath)

def top : Level := { valued := globalOptions, showsVersion := true }

def withTopology : Level := { valued := topologyOption :: globalOptions }

def required {α : Type} : Option α → Except Request α
  | some a => .ok a
  | none => .error .misuse

def global (name : String) (levels : List Scanned) : Option String :=
  levels.reverse.findSome? fun s => s.values.lookup name

def invocation (levels : List Scanned) (command : Command) : Except Request Invocation :=
  .ok ⟨global "config" levels, global "log-dir" levels, command⟩

def noWords (s : Scanned) : Except Request Unit :=
  if s.words.isEmpty then .ok () else .error .misuse

def topologyOf (s : Scanned) : Except Request String := required (s.values.lookup "topology")

def keysOf (s : Scanned) : Except Request (List String) :=
  if s.words.isEmpty then .error .misuse else .ok s.words.reverse

def topologyAction (outer : List Scanned) (name : String) (args : List String) :
    Except Request Invocation := do
  match name with
  | "show" =>
    let s ← scan { withTopology with flags := ["json"] } false {} args
    noWords s
    invocation (outer ++ [s]) (.showTopology (← topologyOf s) (s.flags.contains "json"))
  | "validate" =>
    let s ← scan withTopology false {} args
    noWords s
    invocation (outer ++ [s]) (.validate (← topologyOf s))
  | "changed" =>
    let valued := ("client-version", fun v => (word? v).isSome) :: withTopology.valued
    let s ← scan { withTopology with valued } false {} args
    noWords s
    let version ← required ((s.values.lookup "client-version").bind word?)
    invocation (outer ++ [s]) (.changed (← topologyOf s) version)
  | _ => .error .misuse

def helpOn : List String → Request
  | [] => .help
  | [c] => if ["route", "bucket", "topology", "shell", "help"].contains c then .help else .misuse
  | ["topology", a] => if ["show", "validate", "changed", "help"].contains a then .help else .misuse
  | _ => .misuse

def command (outer : List Scanned) (name : String) (args : List String) :
    Except Request Invocation := do
  match name with
  | "route" =>
    let s ← scan withTopology false {} args
    invocation (outer ++ [s]) (.route (← topologyOf s) (← keysOf s))
  | "bucket" =>
    let s ← scan withTopology false {} args
    invocation (outer ++ [s]) (.bucket (s.values.lookup "topology") (← keysOf s))
  | "shell" =>
    let s ← scan withTopology false {} args
    noWords s
    invocation (outer ++ [s]) (.shell (← topologyOf s))
  | "topology" =>
    let s ← scan { valued := globalOptions } true {} args
    match s.rest with
    | "help" :: path => .error (helpOn ("topology" :: path))
    | action :: args => topologyAction (outer ++ [s]) action args
    | [] => .error .misuse
  | "help" => .error (helpOn args)
  | _ => .error .misuse

def invocation? (args : List String) : Except Request Invocation := do
  let s ← scan top true {} args
  match s.rest with
  | name :: args => command [s] name args
  | [] => .error .misuse

end Arguments

def Request.ofArguments (args : List String) : Request :=
  match Arguments.invocation? args with
  | .ok i => .run i
  | .error r => r

end ShardRouting
