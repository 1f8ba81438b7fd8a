import QueryRows.Yaml.Meaning
/-!
# Layout — texts as YAML scalars

A text is written plain where it reads back as itself, over several lines as a literal block, and between quotes
otherwise: single ones if that is enough, and double ones with escapes where a character would not show or would
not survive.
-/
namespace QueryRows
namespace Yaml

/-- How a scalar is written. -/
inductive ScalarStyle where
  | plain
  | single
  | double
  | literal
deriving DecidableEq

/-- Words that are kept from being read as booleans. -/
def quotedWords : List String :=
  ["y", "Y", "yes", "Yes", "YES", "n", "N", "no", "No", "NO", "true", "True", "TRUE", "false", "False", "FALSE",
   "on", "On", "ON", "off", "Off", "OFF"]

/-- A plain scalar of this text would be read as something else. -/
def needsQuotes (s : String) : Bool :=
  quotedWords.contains s || hasLeadingZero s.toList ||
    match meaning s with
    | .text => false
    | _ => true

/-- The style that a text asks for. -/
def preferredStyle (s : String) : ScalarStyle :=
  if quotedWords.contains s then .single
  else if s.toList.contains '\n' then .literal
  else if needsQuotes s then .single
  else .plain

def isPrintable (c : Char) : Bool :=
  let n := c.toNat
  n == 0x0A || (0x20 ≤ n && n ≤ 0x7E) || (0xA0 ≤ n && n ≤ 0xFFFD && n != 0xFEFF)

def endsLine (c : Char) : Bool := isBreak c || c == '\r' || c == '\x85'

/-- A blank, a line break or the end stands here. -/
def gapAhead : List Char → Bool
  | [] => true
  | c :: _ => isBlank c || endsLine c

/-- The first character of a plain scalar would be taken for an indicator. -/
def startsLikeIndicator : List Char → Bool
  | [] => false
  | c :: rest =>
    ['#', ',', '[', ']', '\x7b', '\x7d', '&', '*', '!', '|', '>', '\'', '"', '%', '@', '\x60'].contains c
      || ((c == '?' || c == ':' || c == '-') && gapAhead rest)
      || (c :: rest).take 3 == ['-', '-', '-'] || (c :: rest).take 3 == ['.', '.', '.']

/-- A colon before a gap, or a number sign behind one; `gap` says that a gap stands before the text. -/
def hasInnerIndicator (gap : Bool) : List Char → Bool
  | [] => false
  | c :: rest =>
    (c == ':' && gapAhead rest) || (c == '#' && gap) || hasInnerIndicator (isBlank c || endsLine c) rest

/-- Two neighbours stand somewhere in a text. -/
def hasNeighbours (p q : Char → Bool) : List Char → Bool
  | a :: b :: rest => (p a && q b) || hasNeighbours p q (b :: rest)
  | _ => false

/-- A space; tabs are no blanks here. -/
def isSpace (c : Char) : Bool := c == ' '

/-- Something that no style but double quotes keeps: a character that does not show, or a space at a line's end. -/
def isFragile (cs : List Char) : Bool := cs.any (!isPrintable ·) || hasNeighbours isSpace endsLine cs

def allowsPlain (cs : List Char) : Bool :=
  let edge : Char → Bool := fun c => isSpace c || endsLine c
  !(isFragile cs || cs.any endsLine || cs.head?.any edge || cs.getLast?.any edge || startsLikeIndicator cs
    || hasInnerIndicator false (cs.drop 1))

def allowsSingle (cs : List Char) : Bool := !(isFragile cs || hasNeighbours endsLine isSpace cs)

def allowsLiteral (cs : List Char) : Bool := !(isFragile cs || cs.getLast?.any isSpace)

/-- Plain where that is possible, else between single quotes, else between double ones. -/
def ScalarStyle.admitted (cs : List Char) : ScalarStyle → ScalarStyle
  | .plain => if allowsPlain cs then .plain else if allowsSingle cs then .single else .double
  | .single => if allowsSingle cs then .single else .double
  | .literal => if allowsLiteral cs then .literal else .double
  | .double => .double

def scalarIndent : List Char := [' ', ' ']

/-- A text between single quotes; `newLine` says that a line starts here.  Quotes are doubled, a new line is indented,
and the first of several line feeds is doubled, since one on its own would be read as a space. -/
def singleBody (newLine : Bool) : List Char → List Char
  | [] => if newLine then scalarIndent else []
  | c :: cs =>
    if endsLine c then (if c = '\n' && !newLine then ['\n', '\n'] else [c]) ++ singleBody true cs
    else (if newLine then scalarIndent else []) ++ (if c = '\'' then ['\'', '\''] else [c]) ++ singleBody false cs

def escapeLetter? : Char → Option Char
  | '\x00' => some '0'
  | '\x07' => some 'a'
  | '\x08' => some 'b'
  | '\t' => some 't'
  | '\n' => some 'n'
  | '\x0b' => some 'v'
  | '\x0c' => some 'f'
  | '\r' => some 'r'
  | '\x1b' => some 'e'
  | '"' => some '"'
  | '\\' => some '\\'
  | '\x85' => some 'N'
  | '\xa0' => some '_'
  | '\u2028' => some 'L'
  | '\u2029' => some 'P'
  | _ => none

/-- The escape of a character: its letter, or its code point in two, four or eight digits. -/
def escape (c : Char) : List Char :=
  match escapeLetter? c with
  | some letter => ['\\', letter]
  | none =>
    let n := c.toNat
    if n ≤ 0xFF then '\\' :: 'x' :: Text.hexDigits 'A' 2 n
    else if n ≤ 0xFFFF then '\\' :: 'u' :: Text.hexDigits 'A' 4 n
    else '\\' :: 'U' :: Text.hexDigits 'A' 8 n

def doubleBody (cs : List Char) : List Char :=
  cs.flatMap fun c => if !isPrintable c || endsLine c || c == '"' || c == '\\' then escape c else [c]

/-- The lines of a block; `newLine` says that a line starts here. -/
def literalBody (newLine : Bool) : List Char → List Char
  | [] => []
  | c :: cs =>
    if endsLine c then c :: literalBody true cs
    else (if newLine then scalarIndent else []) ++ c :: literalBody false cs

/-- What a block does with the breaks at its end. -/
def literalChomping (cs : List Char) : Chomping :=
  match cs.reverse with
  | [] => .strip
  | [last] => if endsLine last then .keep else .strip
  | last :: before :: _ => if !endsLine last then .strip else if endsLine before then .keep else .clip

/-- The header of a block: its indentation where the text starts with a blank line or space, and its sign. -/
def literalHeader (cs : List Char) : List Char :=
  (if cs.head?.any fun c => isSpace c || endsLine c then ['|', '2'] else ['|']) ++
    match literalChomping cs with
    | .strip => ['-']
    | .keep => ['+']
    | .clip => []

/-- **A text as a scalar**, up to and with the line break behind it. -/
def scalarLine (style : ScalarStyle) (cs : List Char) : List Char :=
  match style.admitted cs with
  | .plain => cs ++ ['\n']
  | .single => '\'' :: singleBody false cs ++ ['\'', '\n']
  | .double => '"' :: doubleBody cs ++ ['"', '\n']
  | .literal =>
    literalHeader cs ++ '\n' :: literalBody true cs ++ if cs.getLast?.any endsLine then [] else ['\n']

/-- A name and a text under it. -/
structure Entry where
  name : String
  style : ScalarStyle
  text : String

def Entry.ofText (name text : String) : Entry := ⟨name, preferredStyle text, text⟩

/-- The entry of a character, which is always quoted. -/
def Entry.ofChar (name : String) (c : Char) : Entry := ⟨name, .single, String.ofList [c]⟩

def Entry.line (e : Entry) : List Char := e.name.toList ++ ':' :: ' ' :: scalarLine e.style e.text.toList

/-- **A mapping of names to texts.** -/
def write (entries : List Entry) : String := String.ofList (entries.flatMap Entry.line)

end Yaml
end QueryRows
