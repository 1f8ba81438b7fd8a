import QueryRows.Text.Blank
import QueryRows.Text.Split
import QueryRows.Text.Letter
/-!
# Call — the form of a filler

A filler is written as a call: the name of an operation and, in parentheses, its arguments separated by commas.
Blanks around the name, the arguments and the whole do not count.
-/
namespace QueryRows

/-- Why a text is no call. -/
inductive CallFault where
  | missingOpen
  | missingClose
  | badName
  | nestedCall
  | emptyArgument
deriving DecidableEq

def CallFault.message : CallFault → String
  | .missingOpen => "missing '('"
  | .missingClose => "missing closing ')'"
  | .badName => "operation name is not an identifier"
  | .nestedCall => "nested calls are not supported"
  | .emptyArgument => "empty argument"

/-- A call: the name of an operation and the texts of its arguments. -/
structure Call where
  name : String
  args : List String
deriving DecidableEq

/-- **An operation's name** is a letter or underscore, then letters, numbers and underscores. -/
def isOperationName : List Char → Bool
  | [] => false
  | c :: cs =>
    (Text.isAlphabetic c || c == '_') && cs.all fun d => Text.isAlphanumeric d || d == '_'

/-- The text before a last closing parenthesis. -/
def beforeClosing? : List Char → Option (List Char)
  | [] => none
  | [c] => if c = ')' then some [] else none
  | c :: cs => (beforeClosing? cs).map (c :: ·)

/-- The arguments in the body of a call: none when it is blank, else its parts between commas, trimmed. -/
def callArguments (body : List Char) : List (List Char) :=
  if (Text.trim body).isEmpty then [] else (Text.split ',' body).map Text.trim

/-- **Reads a call.** -/
def Call.parse (text : List Char) : Except CallFault Call :=
  match Text.splitOnce '(' (Text.trim text) with
  | none => .error .missingOpen
  | some (head, tail) =>
    match beforeClosing? tail with
    | none => .error .missingClose
    | some body =>
      let name := Text.trim head
      if !isOperationName name then .error .badName
      else if body.any fun c => c == '(' || c == ')' then .error .nestedCall
      else
        let args := callArguments body
        if args.any (·.isEmpty) then .error .emptyArgument
        else .ok ⟨String.ofList name, args.map String.ofList⟩

end QueryRows
