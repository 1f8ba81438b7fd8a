import QueryRows.Command.Report
/-!
# Main — the command line

Reads the files of a command, runs it, writes the file that it leaves, and prints.
-/
namespace QueryRows

/-- The texts of files, those that can be read. -/
def readFiles (paths : List String) : IO FileSource := do
  let texts ← paths.mapM fun (path : String) => do
    try
      let text ← IO.FS.readFile path
      return (path, some text)
    catch _ => return (path, none)
  return fun path => (texts.lookup path).join

/-- Writes the file that a command leaves, if there is one, and says whether it could. -/
def writeFile (o : Outcome) : IO (Except CommandFault String) := do
  match o.file with
  | none => return .ok o.output
  | some (path, text) =>
    try
      IO.FS.writeFile path text
      return .ok o.output
    catch _ => return .error (.notWritten path)

def runCommand (c : Command) : IO Report := do
  let files ← readFiles c.reads
  let (logged, result) := c.run files
  for text in logged do
    IO.eprintln (Statement.logLine text)
  match result with
  | .error f => return .failed f
  | .ok o => return .ofResult (← writeFile o)

def answerRequest : Request → IO Report
  | .run c => runCommand c
  | .help topic => return .printed topic.text
  | .version => return .printed versionText
  | .fault f => return .misused f

end QueryRows

def main (words : List String) : IO UInt32 := do
  let report ← QueryRows.answerRequest (QueryRows.Request.ofWords words)
  IO.print report.output
  if let some line := report.complaint? then IO.eprintln line
  return report.exitCode.toUInt32
