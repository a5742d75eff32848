import ShardRouting.Routing.Router

namespace ShardRouting

def WriteRoute.describe : WriteRoute → String
  | .single s => toString s
  | .dual primary secondary => s!"{primary}+{secondary}"
  | .blocked _ => "blocked"

def Decision.describe (d : Decision) : String :=
  let migrating := match d.migration? with
    | none => ""
    | some m => s!" migrating={m.source}->{m.destination}"
  s!"bucket={d.bucket} read={d.readShard} write={d.write.describe} version={d.version}" ++ migrating

def keyLine {α : Type} (describe : α → String) (key : String) (r : Attempt RoutingError α) :
    String :=
  let result := match r with
    | .ok a => describe a
    | .error (.refused e) => "error=" ++ e.message
    | .error (.trapped t) => "error=" ++ t.message
  s!"{key}\t{result}"

def Router.line (r : Router) (t : Topology) (key : String) : String :=
  keyLine Decision.describe key (r.decide t key).value

def Config.bucketLine (c : Config) (key : String) : String :=
  keyLine (fun b => s!"bucket={b}") key (bucketFor key c.separator c.space)

def MoveStatus.title : MoveStatus → String
  | .moving => "Moving"
  | .done => "Done"

namespace Topology

def shardLine (t : Topology) (s : ShardNumber) : String :=
  let intervals := (t.ownedBy s).map fun i => s!"[{i.1}, {i.2})"
  let buckets := if intervals.isEmpty then "no buckets" else " ".intercalate intervals
  s!"shard {s}: {buckets}"

def migrationLine (m : Migration) : String :=
  s!"bucket {m.bucket}: {m.source} -> {m.destination} ({m.status.title})"

def describe (t : Topology) : List String :=
  s!"version {t.version} bucket_space {t.space}" ::
    t.shards.toList.map t.shardLine ++ t.migrations.map migrationLine

end Topology

end ShardRouting
