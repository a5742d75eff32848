import ShardRouting.Cli.Run

namespace ShardRouting

def systemErrorOf : IO.Error → SystemError
  | .inappropriateType _ code _ => if code = 20 then .notDirectory else .isDirectory
  | _ => .noEntry

def readText (path : String) : IO (Except FileError String) := do
  try
    match String.fromUTF8? (← IO.FS.readBinFile path) with
    | some text => return .ok text
    | none => return .error .notUtf8
  catch e => return .error (.system (systemErrorOf e))

def makeDirectory (path : String) : IO Bool := do
  try
    IO.FS.createDirAll path
    return true
  catch _ => return false

def reportOf (i : Invocation) : IO Report := do
  let home := (← IO.getEnv "HOME").getD ""
  let mut texts : List (String × Except FileError String) := []
  for path in i.files home do
    texts := (path, ← readText path) :: texts
  let canLog ← match i.logDirectory with
    | none => pure true
    | some path => makeDirectory path
  let input ← match i.command with
    | .shell _ => (← IO.getStdin).readToEnd
    | _ => pure ""
  let read (path : String) := (texts.lookup path).getD (.error (.system .noEntry))
  return i.report ⟨read, home, fun _ => canLog⟩ input

end ShardRouting

open ShardRouting in
def main (args : List String) : IO UInt32 := do
  let report ← match (Request.ofArguments args).immediate? with
    | .ok report => pure report
    | .error i => reportOf i
  (← IO.getStdout).putStr (Report.text report.lines)
  (← IO.getStderr).putStr (Report.text report.complaints)
  return report.code.toUInt32
