import ShardRouting.Config
import ShardRouting.Decode.JsonText
import ShardRouting.Decode.Yaml
import ShardRouting.FileError
import ShardRouting.Topology.Document

namespace ShardRouting

def pathNames (path : String) : List String :=
  (path.splitOn "/").filter fun n => !n.isEmpty && n ≠ "."

def extension? (path : String) : Option String :=
  match (pathNames path).getLast? with
  | none => none
  | some name =>
    if name = ".." then none
    else
      let cs := name.toList
      let ending := (cs.reverse.takeWhile (· ≠ '.')).reverse
      if cs.length ≤ ending.length + 1 then none else some (String.ofList ending)

def isYamlName (path : String) : Bool :=
  match extension? path with
  | some e => e = "yaml" || e = "yml"
  | none => false

namespace Topology

def parse (path text : String) : Except DocumentError Topology :=
  if isYamlName path then YamlValue.decode .ofFault Topology.decode text
  else JsonSource.decode .ofFault Topology.decode text

def load (read : ReadFile) (path : String) : Except LoadError Topology := do
  let text ← (read path).mapError (.unreadable path)
  (parse path text).mapError (.unparsable path)

end Topology

namespace Config

def parse (text : String) : Except DocumentError Config :=
  YamlValue.decode .ofFault (fun v => (Config.decode v).mapError .ofFault) text

def load (read : ReadFile) (path : String) : Except LoadError Config := do
  let text ← (read path).mapError (.unreadable path)
  let c ← (parse text).mapError (.unparsable path)
  c.validate.mapError .refused
  return c

end Config

end ShardRouting
