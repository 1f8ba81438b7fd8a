import QueryRows.Text.Utf8
/-!
# Segment — the optional segments of a template text

`<[` opens an optional segment and `]>` closes it.  `cutSegments` cuts a text into its mandatory and optional
parts, or names the first delimiter that breaks the alternation of opening and closing ones, with the number of
bytes before it.
-/
namespace QueryRows

/-- What is wrong with the delimiters of a text. -/
inductive SegmentFault where
  /-- an opening delimiter that nothing closes -/
  | unclosed (byte : Nat)
  /-- a closing delimiter that nothing opens -/
  | unopened (byte : Nat)
  /-- a segment opened inside another one -/
  | nested
deriving DecidableEq

def SegmentFault.message : SegmentFault → String
  | .unclosed byte => "unclosed '<[' at byte " ++ toString byte
  | .unopened byte => "']>' without opening '<[' at byte " ++ toString byte
  | .nested => "nested '<[' segments are not supported"

/-- The two delimiters. -/
inductive Delimiter where
  | opening
  | closing
deriving DecidableEq

def Delimiter.chars : Delimiter → List Char
  | .opening => ['<', '[']
  | .closing => [']', '>']

/-- **The text before the first delimiter, the delimiter and the text after it.** -/
def firstDelimiter : List Char → List Char × Option (Delimiter × List Char)
  | [] => ([], none)
  | '<' :: '[' :: rest => ([], some (.opening, rest))
  | ']' :: '>' :: rest => ([], some (.closing, rest))
  | c :: rest =>
    let (before, found) := firstDelimiter rest
    (c :: before, found)

/-- The text can be put together again from what `firstDelimiter` finds. -/
theorem firstDelimiter_append (cs : List Char) :
    (firstDelimiter cs).1 ++ ((firstDelimiter cs).2.elim [] fun d => d.1.chars ++ d.2) = cs := by
  fun_induction firstDelimiter cs with
  | case1 => rfl
  | case2 => rfl
  | case3 => rfl
  | case4 c rest _ _ before found h ih =>
    rw [h] at ih
    simp only [List.cons_append, ih]

/-- What follows a delimiter is shorter than the text that holds it. -/
theorem length_of_firstDelimiter {cs before rest : List Char} {d : Delimiter}
    (h : firstDelimiter cs = (before, some (d, rest))) : rest.length + 2 ≤ cs.length := by
  have := congrArg List.length (firstDelimiter_append cs)
  rw [h] at this
  cases d <;> simp [Delimiter.chars] at this <;> omega

/-- A part of a template text. -/
structure SegmentText where
  isOptional : Bool
  body : List Char
deriving DecidableEq

/-- A mandatory part, left out when it is empty. -/
def mandatoryPart (body : List Char) : List SegmentText :=
  if body.isEmpty then [] else [⟨false, body⟩]

/-- **Cuts a text into its mandatory and optional parts**; `offset` bytes stand before it. -/
def cutSegmentsFrom (offset : Nat) (text : List Char) : Except SegmentFault (List SegmentText) :=
  match _h : firstDelimiter text with
  | (before, none) => .ok (mandatoryPart before)
  | (before, some (.closing, _)) => .error (.unopened (offset + Text.utf8Length before))
  | (before, some (.opening, inner)) =>
    match _h' : firstDelimiter inner with
    | (body, some (.closing, rest)) =>
      (cutSegmentsFrom (offset + Text.utf8Length before + Text.utf8Length body + 4) rest).map fun parts =>
        mandatoryPart before ++ ⟨true, body⟩ :: parts
    | (_, some (.opening, more)) =>
      if closesLater more then .error .nested else .error (.unclosed (offset + Text.utf8Length before))
    | (_, none) => .error (.unclosed (offset + Text.utf8Length before))
termination_by text.length
decreasing_by
  have h1 := length_of_firstDelimiter _h
  have h2 := length_of_firstDelimiter _h'
  omega
where
  /-- A closing delimiter stands somewhere in the text. -/
  closesLater : List Char → Bool
    | ']' :: '>' :: _ => true
    | _ :: rest => closesLater rest
    | [] => false

def cutSegments (text : List Char) : Except SegmentFault (List SegmentText) := cutSegmentsFrom 0 text

end QueryRows
