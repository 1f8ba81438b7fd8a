import QueryRows.Command.Flag
import QueryRows.Text.Split
/-!
# Request — what the words of a command line ask for

The words are taken from left to right.  The first word that is wrong is a fault, and a wish for help ends the
reading, so help is given unless a fault stands before it.  Only then are the options looked at together: one that is
required, and two that exclude each other.
-/
namespace QueryRows

/-- What help is about. -/
inductive HelpTopic where
  | program
  | verb (v : Verb)
  | help

/-- Why words ask for nothing. -/
inductive UsageFault where
  | noCommand
  | unknownCommand (word : String)
  | unexpected (word : String)
  | valueMissing (f : Flag)
  | valueUnneeded (f : Flag) (value : String)
  | invalidValue (f : Flag) (value : String)
  | repeated (f : Flag)
  | conflict (f g : Flag)
  | required (f : Flag)

def UsageFault.message : UsageFault → String
  | .noCommand => "a subcommand is required"
  | .unknownCommand word => "unrecognized subcommand '" ++ word ++ "'"
  | .unexpected word => "unexpected argument '" ++ word ++ "' found"
  | .valueMissing f => "a value is required for '" ++ f.usage ++ "' but none was supplied"
  | .valueUnneeded f value => "unexpected value '" ++ value ++ "' for '" ++ f.usage ++ "' found; no more were expected"
  | .invalidValue f value => "invalid value '" ++ value ++ "' for '" ++ f.usage ++ "'"
  | .repeated f => "the argument '" ++ f.usage ++ "' cannot be used multiple times"
  | .conflict f g => "the argument '" ++ f.usage ++ "' cannot be used with '" ++ g.usage ++ "'"
  | .required f => "the following required arguments were not provided: " ++ f.usage

/-- **A word by its dashes**, for a command with some options. -/
inductive Word where
  | plain
  /-- two dashes: no option stands behind them -/
  | stop
  | option (f : Flag) (attached : Option String)
  | unknown

/-- The value that stands in the word of a short option; an equals sign before it is no part of it. -/
def attachedValue? : List Char → Option String
  | [] => none
  | '=' :: value => some (String.ofList value)
  | value => some (String.ofList value)

/-- The option of a name with the value in its word, if the name is known. -/
def Word.ofFlag (f : Option Flag) (attached : Option String) : Word :=
  match f with
  | some f => .option f attached
  | none => .unknown

/-- **Takes a word apart.**  A dash on its own is a plain word, and a short option that takes no value needs none of
the letters behind it. -/
def Word.ofString (flags : List Flag) (s : String) : Word :=
  match s.toList with
  | ['-', '-'] => .stop
  | '-' :: '-' :: body =>
    let (name, attached) := match Text.splitOnce '=' body with
      | some (name, value) => (name, some (String.ofList value))
      | none => (body, none)
    .ofFlag (flags.find? fun f => f.long == String.ofList name) attached
  | '-' :: letter :: rest =>
    let f := flags.find? fun f => f.short? == some letter
    .ofFlag f (if f.any Flag.takesValue then attachedValue? rest else none)
  | _ => .plain

/-- A word that can be the value of the option before it. -/
def isValueWord (s : String) : Bool := s.toList.head? != some '-' || s == "-"

/-- Where the reading of options ends early. -/
inductive Stop where
  | help
  | fault (f : UsageFault)

/-- The options met so far with their values; one that takes none has the empty text. -/
abbrev Choices := List (Flag × String)

namespace Choices

def has (c : Choices) (f : Flag) : Bool := (c.lookup f).isSome

def note (c : Choices) (f : Flag) (value : String) : Except Stop Choices :=
  if c.has f then .error (.fault (.repeated f)) else .ok (c ++ [(f, value)])

/-- Notes an option with a value, which has to be one that it takes. -/
def noteValue (c : Choices) (f : Flag) (value : String) : Except Stop Choices :=
  if f.accepts value then c.note f value else .error (.fault (.invalidValue f value))

/-- Notes an option that takes no value; the wish for help ends the reading. -/
def noteBare (c : Choices) (f : Flag) : Except Stop Choices := if f = .help then .error .help else c.note f ""

/-- **Reads the options of a command**: a value stands in the word of its option or is the next word. -/
def read (flags : List Flag) (c : Choices) : List String → Except Stop Choices
  | [] => .ok c
  | word :: words =>
    match Word.ofString flags word with
    | .plain => .error (.fault (.unexpected word))
    | .unknown => .error (.fault (.unexpected word))
    | .stop =>
      match words with
      | [] => .ok c
      | next :: _ => .error (.fault (.unexpected next))
    | .option f attached =>
      if f.takesValue then
        match attached, words with
        | some value, words => (c.noteValue f value).bind fun c => read flags c words
        | none, [] => .error (.fault (.valueMissing f))
        | none, next :: rest =>
          if isValueWord next then (c.noteValue f next).bind fun c => read flags c rest
          else .error (.fault (.valueMissing f))
      else
        match attached with
        | some value => .error (.fault (.valueUnneeded f value))
        | none => (c.noteBare f).bind fun c => read flags c words

def marker? (c : Choices) : Option Char := (c.lookup .marker).bind readMarker?

/-- A count, zero where it is not given. -/
def count (c : Choices) (f : Flag) : Nat := ((c.lookup f).bind readCount?).getD 0

/-- **Where the template comes from**; a file and a text exclude each other. -/
def template (c : Choices) : Except UsageFault TemplateChoice :=
  match c.lookup .statement, c.lookup .template with
  | some _, some _ => .error (.conflict .statement .template)
  | some path, none => .ok (.file path c.marker?)
  | none, some text => .ok (.inline text c.marker?)
  | none, none => .ok .missing

/-- What describes a mapping; there are no values without a description. -/
def description (c : Choices) : Except UsageFault (Option DescribedBy) :=
  match c.lookup .statement, c.lookup .values with
  | some statement, values => .ok (some ⟨statement, values⟩)
  | none, none => .ok none
  | none, some _ => .error (.required .statement)

/-- The mapping; the records are required. -/
def mapJob (c : Choices) : Except UsageFault MapJob :=
  match c.lookup .input with
  | none => .error (.required .input)
  | some records =>
    match c.description with
    | .error f => .error f
    | .ok description =>
      .ok {
        records, description
        start := c.count .startRow
        size := c.count .window
        style := (c.lookup .nameStyle).bind NameStyle.ofName?
        format := ((c.lookup .format).bind OutputFormat.ofName?).getD .table
        columns := c.lookup .columns }

/-- **The command with these options.** -/
def command (c : Choices) : Verb → Except UsageFault Command
  | .render => c.template.map fun t => .render t (c.lookup .values)
  | .map => c.mapJob.map .map
  | .inspect => c.template.map fun t => .inspect t (c.has .byLength)

end Choices

/-- What the words of a command line ask for. -/
inductive Request where
  | run (c : Command)
  | help (topic : HelpTopic)
  | version
  | fault (f : UsageFault)

namespace Request

/-- What the words behind the name of a command ask for. -/
def ofVerb (v : Verb) (words : List String) : Request :=
  match Choices.read v.flags [] words with
  | .error .help => .help (.verb v)
  | .error (.fault f) => .fault f
  | .ok c =>
    match c.command v with
    | .ok command => .run command
    | .error f => .fault f

/-- What the words behind `help` ask for: at most one name. -/
def ofHelp : List String → Request
  | [] => .help .program
  | [word] =>
    match Verb.ofName? word with
    | some v => .help (.verb v)
    | none => if word == "help" then .help .help else .fault (.unknownCommand word)
  | _ :: word :: _ => .fault (.unknownCommand word)

/-- **What words ask for.**  Before the name of a command only help and the version can be asked for. -/
def ofWords : List String → Request
  | [] => .fault .noCommand
  | word :: words =>
    match word.toList with
    | '-' :: 'h' :: _ => .help .program
    | '-' :: 'V' :: _ => .version
    | '-' :: _ =>
      if word == "--help" then .help .program
      else if word == "--version" then .version
      else .fault (.unexpected word)
    | _ =>
      if word == "help" then ofHelp words
      else match Verb.ofName? word with
        | some v => ofVerb v words
        | none => .fault (.unknownCommand word)

end Request

end QueryRows
