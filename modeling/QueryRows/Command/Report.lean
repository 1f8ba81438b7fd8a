import QueryRows.Command.Help
import QueryRows.Command.Run
import QueryRows.Folder
/-!
# Report — how a command line ends

A command line ends with a text on the output and success, or with nothing on the output and the reason why.
-/
namespace QueryRows

/-- How a command line ends. -/
inductive Report where
  | printed (text : String)
  | failed (f : CommandFault)
  | misused (f : UsageFault)

namespace Report

def exitCode : Report → Nat
  | .printed _ => 0
  | .failed _ => 1
  | .misused _ => 2

def output : Report → String
  | .printed text => text
  | _ => ""

def complaint? : Report → Option String
  | .printed _ => none
  | .failed f => some ("error: " ++ ": ".intercalate f.chain)
  | .misused f => some ("error: " ++ f.message)

def ofResult : Except CommandFault String → Report
  | .ok text => .printed text
  | .error f => .failed f

end Report

/-- **Runs a command in a folder**: the folder afterwards, and what is printed. -/
def Command.runIn (folder : Folder) (c : Command) : Folder × Except CommandFault String :=
  match (c.run folder.read?).2 with
  | .error e => (folder, .error e)
  | .ok ⟨output, none⟩ => (folder, .ok output)
  | .ok ⟨output, some (path, text)⟩ =>
    match folder.write? path text with
    | some folder' => (folder', .ok output)
    | none => (folder, .error (.notWritten path))

/-- **Answers a request in a folder.** -/
def Request.answerIn (folder : Folder) : Request → Folder × Report
  | .run c =>
    let (folder', result) := c.runIn folder
    (folder', .ofResult result)
  | .help topic => (folder, .printed topic.text)
  | .version => (folder, .printed versionText)
  | .fault f => (folder, .misused f)

end QueryRows
