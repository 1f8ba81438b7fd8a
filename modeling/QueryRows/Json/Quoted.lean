import QueryRows.Text.Hex
/-!
# Quoted — JSON strings

A string stands between quotation marks.  Reading takes it apart into characters and numbered code units first
(`readQuoted?`); two units that form a surrogate pair are one character, and a surrogate on its own is none
(`joinUnits?`).  Writing escapes the quotation mark, the backslash and the control characters, and nothing else.
-/
namespace QueryRows
namespace Json

/-- What a string consists of as it is written. -/
inductive QuotedItem where
  | char (c : Char)
  /-- four hexadecimal digits after `\u` -/
  | codeUnit (n : Nat)
deriving DecidableEq

def hexUnit? (a b c d : Char) : Option Nat := do
  let a ← Text.hexValue? a
  let b ← Text.hexValue? b
  let c ← Text.hexValue? c
  let d ← Text.hexValue? d
  return ((a * 16 + b) * 16 + c) * 16 + d

/-- The character that an escape of one letter stands for. -/
def escaped? : Char → Option Char
  | '"' => some '"'
  | '\\' => some '\\'
  | '/' => some '/'
  | 'b' => some '\x08'
  | 'f' => some '\x0c'
  | 'n' => some '\n'
  | 'r' => some '\r'
  | 't' => some '\t'
  | _ => none

/-- **Reads a string after its opening quotation mark**: its items, and what follows the closing one. -/
def readQuoted? : List Char → Option (List QuotedItem × List Char)
  | [] => none
  | '"' :: rest => some ([], rest)
  | '\\' :: 'u' :: a :: b :: c :: d :: rest =>
    match hexUnit? a b c d, readQuoted? rest with
    | some n, some (items, rest') => some (.codeUnit n :: items, rest')
    | _, _ => none
  | '\\' :: e :: rest =>
    match escaped? e, readQuoted? rest with
    | some c, some (items, rest') => some (.char c :: items, rest')
    | _, _ => none
  | c :: rest =>
    if c = '\\' || c.toNat < 0x20 then none
    else (readQuoted? rest).map fun p => (.char c :: p.1, p.2)

/-- The first unit of a surrogate pair. -/
def isHighSurrogate (n : Nat) : Bool := 0xD800 ≤ n && n ≤ 0xDBFF

/-- The second unit of a surrogate pair. -/
def isLowSurrogate (n : Nat) : Bool := 0xDC00 ≤ n && n ≤ 0xDFFF

/-- **The text of string items**, if every surrogate is half of a pair. -/
def joinUnits? : List QuotedItem → Option (List Char)
  | [] => some []
  | .char c :: rest => (joinUnits? rest).map (c :: ·)
  | [.codeUnit n] => if isHighSurrogate n || isLowSurrogate n then none else some [Char.ofNat n]
  | .codeUnit n :: .char c :: rest =>
    if isHighSurrogate n || isLowSurrogate n then none
    else (joinUnits? rest).map (Char.ofNat n :: c :: ·)
  | .codeUnit n :: .codeUnit m :: rest =>
    if isHighSurrogate n then
      if isLowSurrogate m then
        (joinUnits? rest).map (Char.ofNat (0x10000 + (n - 0xD800) * 0x400 + (m - 0xDC00)) :: ·)
      else none
    else if isLowSurrogate n then none
    else (joinUnits? (.codeUnit m :: rest)).map (Char.ofNat n :: ·)

/-! ### Writing -/

def writeChar (c : Char) : List Char :=
  if c = '"' then ['\\', '"']
  else if c = '\\' then ['\\', '\\']
  else if c = '\x08' then ['\\', 'b']
  else if c = '\x0c' then ['\\', 'f']
  else if c = '\n' then ['\\', 'n']
  else if c = '\r' then ['\\', 'r']
  else if c = '\t' then ['\\', 't']
  else if c.toNat < 0x20 then '\\' :: 'u' :: Text.hexDigits 'a' 4 c.toNat
  else [c]

/-- **A text as a string.** -/
def quoted (s : String) : List Char := '"' :: s.toList.flatMap writeChar ++ ['"']

end Json
end QueryRows
