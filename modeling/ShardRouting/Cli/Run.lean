import ShardRouting.Cli.Arguments
import ShardRouting.Cli.Describe
import ShardRouting.Text.Blank
import ShardRouting.Text.EscapeTable
import ShardRouting.Topology.Source
import ShardRouting.Topology.Store

namespace ShardRouting

structure Surroundings where
  read : ReadFile
  home : String
  canLogIn : String → Bool

structure Report where
  code : Nat
  lines : List String := []
  complaints : List String := []
deriving DecidableEq

def Report.text (lines : List String) : String := String.join (lines.map (· ++ "\n"))

structure Complaint where
  summary : String
  causes : List String
deriving DecidableEq

namespace Complaint

def indented (start indent cause : String) : List String :=
  match cause.splitOn "\n" with
  | [] => [start]
  | first :: rest => (start ++ first) :: rest.map (indent ++ ·)

def causeLines : List String → List String
  | [cause] => indented "    " "    " cause
  | causes => (causes.mapIdx fun i cause => indented s!"    {i}: " "       " cause).flatten

def lines (c : Complaint) : List String :=
  s!"Error: {c.summary}" ::
    if c.causes.isEmpty then [] else "" :: "Caused by:" :: causeLines c.causes

def ofLoadError (summary : String) (e : LoadError) : Complaint := ⟨summary, e.message :: e.causes⟩

end Complaint

def defaultConfig (home : String) : String := home ++ "/.serinrc"

namespace Surroundings

variable (s : Surroundings)

def hasFile (path : String) : Bool :=
  match s.read path with
  | .error (.system .noEntry) | .error (.system .notDirectory) => false
  | _ => true

def config (named : Option String) : Except Complaint Config :=
  let load (path : String) :=
    (Config.load s.read path).mapError (Complaint.ofLoadError s!"loading config {path}")
  match named with
  | some path => load path
  | none =>
    let path := defaultConfig s.home
    if s.hasFile path then load path else .ok .standard

def topology (path : String) : Except Complaint Topology :=
  (Topology.load s.read path).mapError (Complaint.ofLoadError s!"loading topology {path}")

def router (c : Config) (path : String) : Except Complaint (Router × Topology) := do
  let t ← s.topology path
  let r ← (Router.create t c).mapError fun e => ⟨s!"routing with topology {path}", [e.message]⟩
  return (r, t)

def bucketLines (c : Config) (path : Option String) (keys : List String) :
    Except Complaint (List String) := do
  if let some path := path then discard <| s.router c path
  return keys.map c.bucketLine

end Surroundings

namespace Shell

def isMark (c : Char) : Bool := 0x300 ≤ c.toNat && escapedRanges.contains c

def edited (line : List Char) : List Char :=
  let type (typed : List Char) (c : Char) :=
    if c = '\x08' then (typed.dropWhile isMark).drop 1 else c :: typed
  (line.foldl type []).reverse

def isExit (cs : List Char) : Bool := cs.map Char.toLower = "exit".toList || cs = ['\\', 'q']

def answer (r : Router) (t : Topology) : List String → List String
  | [] => []
  | line :: rest =>
    let key := trim (edited line.toList)
    if isExit key then []
    else if key.isEmpty then answer r t rest
    else r.line t (String.ofList key) :: answer r t rest

end Shell

namespace Invocation

variable (i : Invocation)

def files (home : String) : List String :=
  let topology := match i.command with
    | .route t _ | .showTopology t _ | .validate t | .changed t _ | .shell t => [t]
    | .bucket t _ => t.toList
  i.config.getD (defaultConfig home) :: topology

def result (s : Surroundings) (input : String) : Except Complaint (List String) := do
  let c ← s.config i.config
  match i.command with
  | .route path keys =>
    let (r, t) ← s.router c path
    return keys.map (r.line t)
  | .bucket path keys => s.bucketLines c path keys
  | .showTopology path json =>
    let t ← s.topology path
    return if json then [t.toJson.renderLines 0] else t.describe
  | .validate path =>
    let t ← s.topology path
    return [s!"{path} is valid (version {t.version}, {t.shardCount} shards)"]
  | .changed path clientVersion =>
    let store := Store.opening (← s.topology path)
    return match store.checkClient clientVersion with
      | .current => [s!"current (version {store.version})"]
      | .refresh version => [s!"changed: refresh to version {version}"]
  | .shell path =>
    let (r, t) ← s.router c path
    return Shell.answer r t (input.splitOn "\n")

def report (s : Surroundings) (input : String) : Report :=
  if i.logDirectory.any (!s.canLogIn ·) then { code := 101 }
  else
    match i.result s input with
    | .ok lines => { code := 0, lines }
    | .error c => { code := 1, complaints := c.lines }

end Invocation

def versionLine : String := "serinctl 0.1.0"

def usage : List String := [
  "Usage: serinctl [--config <CONFIG>] [--log-dir <LOG_DIR>] <COMMAND>",
  "",
  "Commands:",
  "  route --topology <TOPOLOGY> <KEYS>...",
  "  bucket [--topology <TOPOLOGY>] <KEYS>...",
  "  topology show --topology <TOPOLOGY> [--json]",
  "  topology validate --topology <TOPOLOGY>",
  "  topology changed --topology <TOPOLOGY> --client-version <CLIENT_VERSION>",
  "  shell --topology <TOPOLOGY>"]

def Request.immediate? : Request → Except Invocation Report
  | .run i => .error i
  | .version => .ok { code := 0, lines := [versionLine] }
  | .help => .ok { code := 0, lines := usage }
  | .misuse => .ok { code := 2, complaints := usage }

def Request.report (s : Surroundings) (input : String) (r : Request) : Report :=
  match r.immediate? with
  | .ok report => report
  | .error i => i.report s input

end ShardRouting
