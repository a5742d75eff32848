import ShardRouting.Decode.Fault
import ShardRouting.FileError
import ShardRouting.Topology.Error

namespace ShardRouting

inductive DocumentError
  | malformed
  | wrongData (e : DecodeError)
  | invalid (e : TopologyError)
deriving DecidableEq

namespace DocumentError

def ofFault : Fault → DocumentError
  | .malformed => .malformed
  | .wrongData e => .wrongData e

def message : DocumentError → String
  | .malformed => "the document is not well formed"
  | .wrongData e => e.message
  | .invalid e => e.message

end DocumentError

inductive LoadError
  | unreadable (path : String) (e : FileError)
  | unparsable (path : String) (e : DocumentError)
  | refused (e : TopologyError)
deriving DecidableEq

namespace LoadError

def message : LoadError → String
  | .unreadable path e => s!"failed to read {path}: {e.message}"
  | .unparsable path e => s!"failed to parse {path}: {e.message}"
  | .refused e => e.message

def causes : LoadError → List String
  | .unreadable _ e => [e.message]
  | _ => []

end LoadError

end ShardRouting
