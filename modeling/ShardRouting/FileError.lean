namespace ShardRouting

inductive SystemError
  | noEntry
  | notDirectory
  | isDirectory
deriving DecidableEq

namespace SystemError

def code : SystemError → Nat
  | .noEntry => 2
  | .notDirectory => 20
  | .isDirectory => 21

def text : SystemError → String
  | .noEntry => "No such file or directory"
  | .notDirectory => "Not a directory"
  | .isDirectory => "Is a directory"

end SystemError

inductive FileError
  | system (e : SystemError)
  | notUtf8
deriving DecidableEq

def FileError.message : FileError → String
  | .system e => s!"{e.text} (os error {e.code})"
  | .notUtf8 => "stream did not contain valid UTF-8"

abbrev ReadFile := String → Except FileError String

end ShardRouting
