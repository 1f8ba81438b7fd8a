import QueryRows.Command.Request
/-!
# Help — what the program says about itself

The options of a command stand in lines of two columns, the second as far to the right as the longest option needs.
-/
namespace QueryRows

def versionText : String := "cqlmap 0.3.0\n"

namespace Verb

def about : Verb → String
  | .render => "Substitute placeholder values into a query template"
  | .map => "Map a JSON file of result records into rows and print them"
  | .inspect => "List the placeholders a template declares"

def aboutFlag : Verb → Flag → String
  | .map, .statement => "Statement definition supplying fillers, name style and relation keys"
  | _, .statement => "Statement definition (YAML) holding the template and mapping options"
  | _, .template => "Inline template text"
  | _, .marker => "Placeholder marker character (defaults to '#')"
  | .map, .values => "Placeholder values; renders and logs the statement's query before mapping"
  | _, .values => "YAML or JSON mapping of placeholder names to values"
  | _, .byLength => "List placeholders longest first instead of in order of appearance"
  | _, .input => "JSON array of result records"
  | _, .startRow => "First record ordinal to map (only with --window) [default: 0]"
  | _, .window => "Number of records to map from --start-row (0 maps everything) [default: 0]"
  | _, .nameStyle => "Overrides the statement's field name style [possible values: upper, lower, normal]"
  | _, .format => "Output format [default: table] [possible values: table, json]"
  | _, .columns => "Write the observed column metadata to this JSON file"
  | _, .help => "Print help"

def usage : Verb → String
  | .map => "map [OPTIONS] --input <INPUT>"
  | v => v.name ++ " [OPTIONS]"

end Verb

/-- An option with its names, as help lists it. -/
def Flag.entry (f : Flag) : String :=
  match f.short? with
  | some c => "  -" ++ String.ofList [c] ++ ", " ++ f.usage
  | none => "      " ++ f.usage

def twoColumns (rows : List (String × String)) : String :=
  let width := rows.foldl (fun w r => max w r.1.length) 0
  String.join (rows.map fun r => r.1 ++ String.ofList (List.replicate (width - r.1.length) ' ') ++ "  " ++ r.2 ++ "\n")

/-- **The help about a topic.** -/
def HelpTopic.text : HelpTopic → String
  | .program =>
    "Render graph query templates and map query results onto rows\n\nUsage: cqlmap <COMMAND>\n\nCommands:\n"
      ++ twoColumns (Verb.all.map (fun v => ("  " ++ v.name, v.about))
        ++ [("  help", "Print this message or the help of the given subcommand(s)")])
      ++ "\nOptions:\n" ++ twoColumns [("  -h, --help", "Print help"), ("  -V, --version", "Print version")]
  | .verb v =>
    v.about ++ "\n\nUsage: cqlmap " ++ v.usage ++ "\n\nOptions:\n"
      ++ twoColumns (v.flags.map fun f => (f.entry, v.aboutFlag f))
  | .help =>
    "Print this message or the help of the given subcommand(s)\n\nUsage: cqlmap help [COMMAND]...\n\nArguments:\n"
      ++ twoColumns [("  [COMMAND]...", "Print help for the subcommand(s)")]

end QueryRows
