/-!
# Token — the placeholders inside a segment

A placeholder is the marker followed by a name: identifiers of ASCII letters, digits and underscores, joined by
dots.  `takeName` takes the longest name a text starts with, and `cutPieces` cuts a text into placeholders and the
literal text between them.
-/
namespace QueryRows

def isIdentifierStart (c : Char) : Bool := c.isAlpha || c == '_'

def isIdentifierPart (c : Char) : Bool := c.isAlphanum || c == '_'

/-- The longest rest of a name: more characters of the current identifier, then identifiers after dots. -/
def takeNameRest : List Char → List Char × List Char
  | [] => ([], [])
  | '.' :: c :: rest =>
    if isIdentifierStart c then
      let (name, after) := takeNameRest rest
      ('.' :: c :: name, after)
    else ([], '.' :: c :: rest)
  | c :: rest =>
    if isIdentifierPart c then
      let (name, after) := takeNameRest rest
      (c :: name, after)
    else ([], c :: rest)

/-- **The longest name at the start of a text, and what follows it.** -/
def takeName? : List Char → Option (List Char × List Char)
  | c :: rest =>
    if isIdentifierStart c then
      let (name, after) := takeNameRest rest
      some (c :: name, after)
    else none
  | [] => none

theorem takeNameRest_append (cs : List Char) : (takeNameRest cs).1 ++ (takeNameRest cs).2 = cs := by
  fun_induction takeNameRest cs <;> simp_all

theorem takeName?_append {cs name after : List Char} (h : takeName? cs = some (name, after)) :
    name ++ after = cs := by
  cases cs with
  | nil => simp [takeName?] at h
  | cons c rest =>
    simp only [takeName?, Option.ite_none_right_eq_some, Option.some.injEq, Prod.mk.injEq] at h
    obtain ⟨-, rfl, rfl⟩ := h
    simp [takeNameRest_append rest]

theorem length_of_takeName? {cs name after : List Char} (h : takeName? cs = some (name, after)) :
    after.length ≤ cs.length := by
  have := congrArg List.length (takeName?_append h)
  simp at this
  omega

/-- A piece of a segment. -/
inductive Piece where
  | literal (text : List Char)
  | token (name : List Char)
deriving DecidableEq

/-- A character put in front of the literal text that the pieces start with. -/
def consLiteral (c : Char) : List Piece → List Piece
  | .literal text :: pieces => .literal (c :: text) :: pieces
  | pieces => .literal [c] :: pieces

/-- **Cuts a segment into literal text and placeholders**, from left to right. -/
def cutPieces (marker : Char) : List Char → List Piece
  | [] => []
  | c :: rest =>
    if c = marker then
      match _h : takeName? rest with
      | some (name, after) => .token name :: cutPieces marker after
      | none => consLiteral c (cutPieces marker rest)
    else consLiteral c (cutPieces marker rest)
termination_by cs => cs.length
decreasing_by
  · have := length_of_takeName? _h
    simp
    omega
  · simp
  · simp

def tokenNames (pieces : List Piece) : List String :=
  pieces.filterMap fun
    | .token name => some (String.ofList name)
    | .literal _ => none

end QueryRows
