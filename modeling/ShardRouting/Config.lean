import ShardRouting.Decode.Json
import ShardRouting.Decode.Record
import ShardRouting.Time.Span
import ShardRouting.Topology.Error

namespace ShardRouting

inductive WritePolicy
  | source
  | dualWrite
  | redirect
  | block
deriving DecidableEq

namespace WritePolicy

def name : WritePolicy → String
  | .source => "source"
  | .dualWrite => "dual_write"
  | .redirect => "redirect"
  | .block => "block"

def all : List WritePolicy := [.source, .dualWrite, .redirect, .block]

def decode {ν : Type} [Readable ν] (v : ν) : Except Fault WritePolicy :=
  Decode.choice (all.map fun p => (p.name, p)) v

end WritePolicy

structure Config where
  space : UInt32 := defaultBucketSpace
  separator : Char := '$'
  timeoutSeconds : Option UInt64 := none
  writePolicy : WritePolicy := .source
deriving DecidableEq

namespace Config

def standard : Config := {}

def validate (c : Config) : Except TopologyError Unit :=
  if isPowerOfTwo c.space then .ok () else .error (.spaceNotPowerOfTwo c.space)

def timeout (c : Config) : Option Span := c.timeoutSeconds.map .ofSeconds

def decode {ν : Type} [Readable ν] (v : ν) : Except Fault Config := do
  let (space, separator, timeoutSeconds, writePolicy, ()) ← Fields.read "ShardingConfig"
    (.cons (.defaulted "bucket_space" Decode.halfWord standard.space) <|
      .cons (.defaulted "separator" Decode.character standard.separator) <|
      .cons (.defaulted "orchestrator_timeout_secs" (Decode.optional Decode.word)
        standard.timeoutSeconds) <|
      .cons (.defaulted "migration_write_policy" WritePolicy.decode standard.writePolicy) .nil) v
  .ok { space, separator, timeoutSeconds, writePolicy }

def toJson (c : Config) : Json :=
  .object [
    ("bucket_space", .halfWord c.space),
    ("separator", .text (String.singleton c.separator)),
    ("orchestrator_timeout_secs", .optional .word c.timeoutSeconds),
    ("migration_write_policy", .text c.writePolicy.name)]

end Config

end ShardRouting
