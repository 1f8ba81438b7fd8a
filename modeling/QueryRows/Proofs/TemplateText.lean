import Mathlib
import QueryRows.Template
import QueryRows.Proofs.TokenName
/-!
# TemplateText — a parsed template and the text it was read from

Writing the segments of a template back gives its text, and in every segment the placeholders are the leftmost longest
ones (`parse_leftmost_longest`): a placeholder's name cannot be made longer by what follows it, and no marker inside
literal text stands before a letter or underscore.
-/
namespace QueryRows

/-- A piece as it stands in the text. -/
def Piece.written (marker : Char) : Piece → List Char
  | .literal text => text
  | .token name => marker :: name

def writtenPieces (marker : Char) (ps : List Piece) : List Char := ps.flatMap (Piece.written marker)

/-- A part between its delimiters, if it is optional. -/
def delimited (isOptional : Bool) (body : List Char) : List Char :=
  if isOptional then Delimiter.opening.chars ++ body ++ Delimiter.closing.chars else body

def Segment.written (marker : Char) (s : Segment) : List Char := delimited s.isOptional (writtenPieces marker s.pieces)

/-- **The text of a template, written back from its segments.** -/
def Template.written (t : Template) : String := String.ofList (t.segments.flatMap (Segment.written t.marker))

/-- **A piece is the leftmost longest one before a text**: a placeholder has a name that the text cannot make longer,
and a marker in literal text has no letter or underscore behind it. -/
def Piece.LeftmostLongest (marker : Char) (following : List Char) : Piece → Prop
  | .token name => TokenName name ∧ ∀ ext, ext ≠ [] → ext <+: following → ¬ TokenName (name ++ ext)
  | .literal text => ∀ before after, text = before ++ marker :: after →
      ∀ c rest, after ++ following = c :: rest → ¬ isIdentifierStart c = true

/-! ### Pieces -/

theorem writtenPieces_cons (marker : Char) (p : Piece) (ps : List Piece) :
    writtenPieces marker (p :: ps) = p.written marker ++ writtenPieces marker ps := rfl

theorem writtenPieces_consLiteral (marker c : Char) (ps : List Piece) :
    writtenPieces marker (consLiteral c ps) = c :: writtenPieces marker ps := by
  unfold consLiteral
  split <;> rfl

/-- **Pieces written back are the text they were cut from.** -/
theorem writtenPieces_cutPieces (marker : Char) (cs : List Char) : writtenPieces marker (cutPieces marker cs) = cs := by
  fun_induction cutPieces marker cs with
  | case1 => rfl
  | case2 rest name after h ih =>
    rw [writtenPieces_cons, ih, Piece.written, List.cons_append, takeName?_append h]
  | case3 rest h ih => rw [writtenPieces_consLiteral, ih]
  | case4 c rest hc ih => rw [writtenPieces_consLiteral, ih]

/-- All pieces are leftmost longest ones before the pieces behind them. -/
def AllLeftmostLongest (marker : Char) : List Piece → Prop
  | [] => True
  | p :: ps => p.LeftmostLongest marker (writtenPieces marker ps) ∧ AllLeftmostLongest marker ps

theorem AllLeftmostLongest.of_append {marker : Char} {p : Piece} {post : List Piece} :
    ∀ {pre : List Piece}, AllLeftmostLongest marker (pre ++ p :: post) →
      p.LeftmostLongest marker (writtenPieces marker post)
  | [], h => h.1
  | _ :: _, h => AllLeftmostLongest.of_append h.2

/-- One more character of literal text, which is no marker before a letter or underscore. -/
theorem AllLeftmostLongest.consLiteral {marker c : Char} {ps : List Piece} (h : AllLeftmostLongest marker ps)
    (hc : c = marker → ∀ d rest, writtenPieces marker ps = d :: rest → ¬ isIdentifierStart d = true) :
    AllLeftmostLongest marker (consLiteral c ps) := by
  have hcut : ∀ (before text after : List Char), c :: text = before ++ marker :: after →
      (c = marker ∧ after = text) ∨ ∃ before', text = before' ++ marker :: after := by
    intro before text after hs
    cases before with
    | nil => cases hs; exact .inl ⟨rfl, rfl⟩
    | cons b before => cases hs; exact .inr ⟨before, rfl⟩
  unfold QueryRows.consLiteral
  split
  · rename_i text ps
    refine ⟨fun before after hs d rest hd => ?_, h.2⟩
    rcases hcut before text after hs with ⟨hm, rfl⟩ | ⟨before', ht⟩
    · exact hc hm d rest hd
    · exact h.1 before' after ht d rest hd
  · refine ⟨fun before after hs d rest hd => ?_, h⟩
    rcases hcut before [] after hs with ⟨hm, rfl⟩ | ⟨before', ht⟩
    · exact hc hm d rest hd
    · cases before' <;> cases ht

/-- **The pieces of a segment are the leftmost longest ones.** -/
theorem allLeftmostLongest_cutPieces (marker : Char) (cs : List Char) :
    AllLeftmostLongest marker (cutPieces marker cs) := by
  fun_induction cutPieces marker cs with
  | case1 => exact trivial
  | case2 rest name after h ih =>
    refine ⟨⟨tokenName_of_takeName? h, fun ext hne hp => ?_⟩, ih⟩
    rw [writtenPieces_cutPieces] at hp
    exact not_tokenName_of_takeName? h hne hp
  | case3 rest h ih =>
    refine ih.consLiteral fun _ => ?_
    rw [writtenPieces_cutPieces]
    exact not_start_of_takeName?_eq_none h
  | case4 c rest hc ih => exact ih.consLiteral fun hm => absurd hm hc

/-! ### Segments -/

def SegmentText.written (p : SegmentText) : List Char := delimited p.isOptional p.body

theorem flatMap_written_mandatoryPart (body : List Char) : (mandatoryPart body).flatMap SegmentText.written = body := by
  unfold mandatoryPart
  split
  · rename_i h
    exact (List.isEmpty_iff.1 h).symm
  · simp [SegmentText.written, delimited]

/-- **Parts written back are the text they were cut from.** -/
theorem flatMap_written_cutSegmentsFrom (offset : Nat) (text : List Char) :
    ∀ parts, cutSegmentsFrom offset text = .ok parts → parts.flatMap SegmentText.written = text := by
  fun_induction cutSegmentsFrom offset text with
  | case1 offset text before h =>
    intro parts hp
    cases hp
    rw [flatMap_written_mandatoryPart]
    have := firstDelimiter_append text
    rw [h] at this
    simpa using this
  | case2 => intro parts hp; cases hp
  | case3 offset text before inner h body rest h' ih =>
    intro parts hp
    cases hcut : cutSegmentsFrom (offset + Text.utf8Length before + Text.utf8Length body + 4) rest with
    | error e => rw [hcut] at hp; cases hp
    | ok parts' =>
      rw [hcut] at hp
      cases hp
      have houter := firstDelimiter_append text
      have hinner := firstDelimiter_append inner
      rw [h] at houter
      rw [h'] at hinner
      rw [List.flatMap_append, flatMap_written_mandatoryPart, List.flatMap_cons, ih parts' hcut]
      simp only [Option.elim_some] at houter hinner
      rw [← houter, ← hinner]
      simp [SegmentText.written, delimited]
  | case4 => intro parts hp; cases hp
  | case5 => intro parts hp; cases hp
  | case6 => intro parts hp; cases hp

theorem flatMap_written_cutPieces {marker : Char} {text : List Char} {parts : List SegmentText}
    (h : cutSegments text = .ok parts) :
    (parts.map fun p => Segment.mk p.isOptional (cutPieces marker p.body)).flatMap (Segment.written marker) = text := by
  have hw : (fun p : SegmentText => Segment.written marker ⟨p.isOptional, cutPieces marker p.body⟩)
      = SegmentText.written := by
    funext p
    rw [Segment.written, writtenPieces_cutPieces, SegmentText.written]
  rw [List.flatMap_map, hw]
  exact flatMap_written_cutSegmentsFrom 0 text parts h

/-- **A parsed template writes its text back, and its placeholders are the leftmost longest ones.** -/
theorem Template.parse_leftmost_longest {marker : Char} {text : String} {t : Template}
    (h : Template.parse marker text = .ok t) :
    t.written = text ∧
      ∀ s ∈ t.segments, ∀ pre p post, s.pieces = pre ++ p :: post →
        p.LeftmostLongest marker (writtenPieces marker post) := by
  unfold Template.parse at h
  split at h
  · rename_i parts hparts
    cases h
    refine ⟨?_, fun s hs pre p post hsplit => ?_⟩
    · rw [Template.written, flatMap_written_cutPieces hparts, String.ofList_toList]
    · obtain ⟨part, -, rfl⟩ := List.mem_map.1 hs
      have hall := allLeftmostLongest_cutPieces marker part.body
      simp only at hsplit
      rw [hsplit] at hall
      exact hall.of_append
  · cases h

/-- A letter may be the marker: here it starts a placeholder before `a.b1` and stands for itself before a digit. -/
theorem Template.parse_leftmost_longest_letter :
    ∃ t, Template.parse 'a' "x.<[aa.b1.]>a1" = .ok t ∧ t.written = "x.<[aa.b1.]>a1" ∧
      ∀ s ∈ t.segments, ∀ pre p post, s.pieces = pre ++ p :: post →
        p.LeftmostLongest 'a' (writtenPieces 'a' post) := by
  have h : Template.parse 'a' "x.<[aa.b1.]>a1" = .ok ⟨"x.<[aa.b1.]>a1", 'a',
      [⟨false, [.literal ['x', '.']]⟩, ⟨true, [.token ['a', '.', 'b', '1'], .literal ['.']]⟩,
        ⟨false, [.literal ['a', '1']]⟩]⟩ := by cbv
  exact ⟨_, h, Template.parse_leftmost_longest h⟩

end QueryRows
