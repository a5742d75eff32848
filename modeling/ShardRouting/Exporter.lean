import ShardRouting.Base64

namespace ShardRouting

structure Credential where
  user : String
  password : String
deriving DecidableEq

def Credential.header (c : Credential) : String :=
  "Basic " ++ String.ofList (Base64.encode (c.user ++ ":" ++ c.password).toUTF8.data.toList)

inductive MetricKind
  | counter
  | gauge
  | histogram (bounds : List String)
deriving DecidableEq

def MetricKind.name : MetricKind → String
  | .counter => "counter"
  | .gauge => "gauge"
  | .histogram _ => "histogram"

structure MetricFamily where
  name : String
  help : String
  kind : MetricKind
deriving DecidableEq

namespace MetricFamily

def header (f : MetricFamily) : List String :=
  [s!"# HELP {f.name} {f.help}", s!"# TYPE {f.name} {f.kind.name}"]

def bounds (f : MetricFamily) : List String :=
  match f.kind with
  | .histogram bounds => bounds ++ ["+Inf"]
  | _ => []

def latencyBounds : List String := ["0.0005", "0.001", "0.005", "0.01", "0.05", "0.1", "0.5", "1", "5"]

def all : List MetricFamily := [
  ⟨"serin_combine_consistency_warnings_total",
    "Shard results disagreeing on shard-invariant fields", .counter⟩,
  ⟨"serin_route_corruption_total", "Buckets that fell below every range start", .counter⟩,
  ⟨"serin_route_requests_total", "Total key routing decisions", .counter⟩,
  ⟨"serin_scatter_cancelled_total", "Scatter-gather dispatches cancelled by the caller", .counter⟩,
  ⟨"serin_scatter_failures_total", "Scatter-gather dispatches failed by at least one shard",
    .counter⟩,
  ⟨"serin_scatter_requests_total", "Total scatter-gather dispatches", .counter⟩,
  ⟨"serin_shard_command_latency_seconds", "Per-shard command latency in seconds",
    .histogram latencyBounds⟩,
  ⟨"serin_topology_version", "Version of the published topology snapshot", .gauge⟩]

end MetricFamily

structure ScrapeRequest where
  method : String
  target : String
  authorization : List String
deriving DecidableEq

namespace ScrapeRequest

def isSchemeChar (c : Char) : Bool := c.isAlphanum || c = '+' || c = '-' || c = '.'

def withoutHost (r : ScrapeRequest) : List Char :=
  match r.target.toList.dropWhile isSchemeChar with
  | ':' :: '/' :: '/' :: rest => rest.dropWhile fun c => c ≠ '/' && c ≠ '?' && c ≠ '#'
  | _ => r.target.toList

def path (r : ScrapeRequest) : String :=
  String.ofList (r.withoutHost.takeWhile fun c => c ≠ '?' && c ≠ '#')

def isHeaderChar (c : Char) : Bool := c = '\t' || (32 ≤ c.toNat && c.toNat < 127)

def credentials? (r : ScrapeRequest) : Option String :=
  r.authorization.head?.filter fun s => s.toList.all isHeaderChar

end ScrapeRequest

inductive ScrapeStatus
  | ok
  | unauthorized
  | notFound
deriving DecidableEq

def ScrapeStatus.code : ScrapeStatus → Nat
  | .ok => 200
  | .unauthorized => 401
  | .notFound => 404

structure ScrapeResponse where
  status : ScrapeStatus
  page : List MetricFamily
deriving DecidableEq

structure Exporter where
  credential : Option Credential
deriving DecidableEq

namespace Exporter

def admits (e : Exporter) (r : ScrapeRequest) : Bool :=
  match e.credential with
  | none => true
  | some c => r.credentials? = some c.header

/-- A family is registered when it is first used, and only then shown. The text of registered
families can always be made, so no request ends in a server error. -/
def respond (e : Exporter) (registered : List MetricFamily) (r : ScrapeRequest) : ScrapeResponse :=
  if r.path ≠ "/metrics" then ⟨.notFound, []⟩
  else if e.admits r then
    ⟨.ok, if r.method = "HEAD" then [] else MetricFamily.all.filter (· ∈ registered)⟩
  else ⟨.unauthorized, []⟩

end Exporter

end ShardRouting
