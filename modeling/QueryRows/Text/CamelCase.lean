import QueryRows.Text.Case
import QueryRows.Text.Letter
/-!
# CamelCase — a property name as capitalised words

The words of a name are its runs of letters and digits, cut again where a lowercase letter meets an uppercase one
and before the last capital of a run of capitals that a lowercase letter follows.  `upperCamel` writes them
without separators, each with a capital first letter.
-/
namespace QueryRows
namespace Text

/-- The case of the last cased letter of the word being read. -/
inductive LastCase where
  | none
  | lower
  | upper
deriving DecidableEq

/-- The maximal runs of letters and digits; `run` holds the current one, last character first. -/
def alphanumericRuns (run : List Char) : List Char → List (List Char)
  | [] => [run.reverse]
  | c :: cs =>
    if isAlphanumeric c then alphanumericRuns (c :: run) cs else run.reverse :: alphanumericRuns [] cs

/-- **Cuts a run into words**: after a lowercase letter that an uppercase one follows, and before an uppercase
letter that stands between an uppercase and a lowercase one.  `word` holds the current word, last character
first. -/
def cutWords (last : LastCase) (word : List Char) : List Char → List (List Char)
  | [] => []
  | [c] => [(c :: word).reverse]
  | c :: next :: rest =>
    let here := if isLowercase c then .lower else if isUppercase c then .upper else last
    if here = .lower && isUppercase next then
      (c :: word).reverse :: cutWords .none [] (next :: rest)
    else if last = .upper && isUppercase c && isLowercase next then
      word.reverse :: cutWords .none [c] (next :: rest)
    else
      cutWords here (c :: word) (next :: rest)

def words (name : List Char) : List (List Char) :=
  (alphanumericRuns [] name).flatMap (cutWords .none [])

/-- The rest of a word in lower case; a sigma that ends it takes its final form. -/
def lowerWord : List Char → List Char
  | [] => []
  | [c] => if c = 'Σ' then ['ς'] else lowerChar c
  | c :: cs => lowerChar c ++ lowerWord cs

def capitalize : List Char → List Char
  | [] => []
  | c :: cs => upperChar c ++ lowerWord cs

/-- **A name as capitalised words without separators.** -/
def upperCamel (name : String) : String :=
  String.ofList ((words name.toList).flatMap capitalize)

end Text
end QueryRows
