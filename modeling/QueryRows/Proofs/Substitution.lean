import Mathlib.Data.List.Basic
import Mathlib.Data.List.Find
import QueryRows.Proofs.FirstOccurrences
import QueryRows.Proofs.Quoting
/-!
# Substitution — what a source can change in the text of a template

A substitution fails only for a placeholder outside optional segments, the first one that the source has nothing for
(`failure?_renderSegments`), and writes the segments in order otherwise (`Template.FilledBy`).  So two sources that
agree on the placeholders outside optional segments fail alike or write the same text around the optional segments,
each of which depends on its own placeholders alone (`Template.substitute_of_agree`).
-/
namespace QueryRows

def Lookup.isMissing : Lookup → Bool
  | .missing => true
  | .found _ _ => false

namespace Segment

/-- The placeholders of a segment that need a value: none of them if the segment is optional. -/
def mandatoryTokens (s : Segment) : List String := if s.isOptional then [] else tokenNames s.pieces

/-- A placeholder of the segment has no value, or a null that stands for none. -/
def LacksValue (source : Source) (s : Segment) : Prop :=
  ∃ name ∈ tokenNames s.pieces, source name = .missing ∨ source name = .found .null true

end Segment

namespace Template

/-- **The placeholders outside optional segments**, in text order. -/
def mandatoryTokens (t : Template) : List String := t.segments.flatMap Segment.mandatoryTokens

/-- **The first placeholder outside optional segments that a source has nothing for.** -/
def firstMissing? (t : Template) (source : Source) : Option String :=
  t.mandatoryTokens.find? fun name => (source name).isMissing

/-- **What a source makes of a template**: the failure for the first placeholder outside optional segments that it has
nothing for, or the segments in order, each of them in full unless it is optional and lacks a value. -/
structure FilledBy (t : Template) (source : Source) : Prop where
  error : ∀ name, t.firstMissing? source = some name → t.substitute source = .error (.missingValue name)
  ok : t.firstMissing? source = none →
    t.substitute source = .ok (String.ofList (t.segments.flatMap (Segment.rendered source)))
  mandatory : ∀ s ∈ t.segments, s.isOptional = false → s.rendered source = s.pieces.flatMap (Piece.rendered source)
  written : ∀ s ∈ t.segments, s.isOptional = true → ¬ s.LacksValue source →
    s.rendered source = s.pieces.flatMap (Piece.rendered source)
  leftOut : ∀ s ∈ t.segments, s.isOptional = true → s.LacksValue source → s.rendered source = []

/-- **Two sources fill a template alike** but for its optional segments: they fail for the same placeholder or both
write the same mandatory segments, and an optional one differs only where its own placeholders do. -/
structure FilledAlike (t : Template) (s₁ s₂ : Source) : Prop where
  first : t.FilledBy s₁
  second : t.FilledBy s₂
  firstMissing?_eq : t.firstMissing? s₁ = t.firstMissing? s₂
  mandatory : ∀ s ∈ t.segments, s.isOptional = false → s.rendered s₁ = s.rendered s₂
  optional : ∀ s ∈ t.segments, (∀ name ∈ tokenNames s.pieces, s₁ name = s₂ name) → s.rendered s₁ = s.rendered s₂

end Template

/-! ### Where a substitution fails -/

namespace Template

variable {source : Source}

theorem failure?_renderMandatory : ∀ ps : List Piece, failure? (renderMandatory source ps) =
    ((tokenNames ps).find? fun name => (source name).isMissing).map .missingValue
  | [] => rfl
  | .literal text :: ps => by
    rw [renderMandatory, failure?_map, failure?_renderMandatory ps]
    rfl
  | .token name :: ps => by
    have hnames : tokenNames (.token name :: ps) = String.ofList name :: tokenNames ps := rfl
    rw [renderMandatory, hnames, List.find?_cons]
    cases source (String.ofList name) with
    | missing => rfl
    | found v nullable =>
      simp only [failure?_map, failure?_renderMandatory ps]
      rfl

theorem failure?_renderSegment (s : Segment) : failure? (renderSegment source s) =
    (s.mandatoryTokens.find? fun name => (source name).isMissing).map .missingValue := by
  unfold renderSegment Segment.mandatoryTokens
  split
  · -- an optional segment has no placeholder to fail for
    rfl
  · exact failure?_renderMandatory s.pieces

/-- **Segments fail for the first mandatory placeholder** that the source has nothing for, and for no other reason. -/
theorem failure?_renderSegments : ∀ segments : List Segment, failure? (renderSegments source segments) =
    ((segments.flatMap Segment.mandatoryTokens).find? fun name => (source name).isMissing).map .missingValue
  | [] => rfl
  | s :: rest => by
    have hmore (text : List Char) :
        failure? (do let more ← renderSegments source rest; return text ++ more) =
          failure? (renderSegments source rest) := by cases renderSegments source rest <;> rfl
    rw [renderSegments, failure?_bind _ hmore, failure?_renderSegment, failure?_renderSegments rest, List.flatMap_cons,
      List.find?_append, Option.map_or]

end Template

/-! ### What a segment depends on -/

theorem mem_tokenNames {ps : List Piece} {name : String} :
    name ∈ tokenNames ps ↔ ∃ cs, .token cs ∈ ps ∧ String.ofList cs = name := by
  rw [tokenNames, List.mem_filterMap]
  constructor
  · rintro ⟨p, hp, hname⟩
    cases p with
    | literal text => cases hname
    | token cs => exact ⟨cs, hp, Option.some.inj hname⟩
  · rintro ⟨cs, hcs, rfl⟩
    exact ⟨.token cs, hcs, rfl⟩

theorem Piece.hasValue_token_eq_false {source : Source} {cs : List Char} : (Piece.token cs).hasValue source = false ↔
    source (String.ofList cs) = .missing ∨ source (String.ofList cs) = .found .null true := by
  rw [Piece.hasValue]
  cases source (String.ofList cs) with
  | missing => simp only [true_or]
  | found v nullable => cases v <;> cases nullable <;> simp [Value.isNull]

namespace Segment

variable {source s₁ s₂ : Source} {s : Segment}

theorem lacksValue_iff : s.LacksValue source ↔ s.pieces.all (Piece.hasValue source) = false := by
  rw [List.all_eq_false, LacksValue]
  constructor
  · rintro ⟨name, hname, hlookup⟩
    obtain ⟨cs, hcs, rfl⟩ := mem_tokenNames.1 hname
    exact ⟨.token cs, hcs, Bool.eq_false_iff.1 (Piece.hasValue_token_eq_false.2 hlookup)⟩
  · rintro ⟨p, hp, hvalue⟩
    cases p with
    | literal text => exact absurd rfl hvalue
    | token cs => exact ⟨_, mem_tokenNames.2 ⟨cs, hp, rfl⟩, Piece.hasValue_token_eq_false.1 (Bool.eq_false_iff.2 hvalue)⟩

theorem rendered_of_lacksValue (ho : s.isOptional = true) (h : s.LacksValue source) : s.rendered source = [] := by
  rw [rendered, isWritten, ho, lacksValue_iff.1 h]
  rfl

theorem rendered_of_not_lacksValue (h : ¬ s.LacksValue source) :
    s.rendered source = s.pieces.flatMap (Piece.rendered source) := by
  rw [lacksValue_iff, Bool.not_eq_false] at h
  rw [rendered, isWritten, h, Bool.or_true, if_pos rfl]

theorem rendered_of_mandatory (ho : s.isOptional = false) :
    s.rendered source = s.pieces.flatMap (Piece.rendered source) := by
  rw [rendered, isWritten, ho, Bool.not_false, Bool.true_or, if_pos rfl]

/-- **A segment depends on its own placeholders alone.** -/
theorem rendered_congr (h : ∀ name ∈ tokenNames s.pieces, s₁ name = s₂ name) : s.rendered s₁ = s.rendered s₂ := by
  have hpiece : ∀ p ∈ s.pieces, p.rendered s₁ = p.rendered s₂ ∧ p.hasValue s₁ = p.hasValue s₂ := by
    intro p hp
    cases p with
    | literal text => exact ⟨rfl, rfl⟩
    | token cs =>
      rw [Piece.rendered, Piece.rendered, Piece.hasValue, Piece.hasValue, h _ (mem_tokenNames.2 ⟨cs, hp, rfl⟩)]
      exact ⟨rfl, rfl⟩
  have hall : s.pieces.all (Piece.hasValue s₁) = s.pieces.all (Piece.hasValue s₂) := by
    rw [Bool.eq_iff_iff, List.all_eq_true, List.all_eq_true]
    exact forall₂_congr fun p hp => by rw [(hpiece p hp).2]
  rw [rendered, rendered, isWritten, isWritten, hall, List.flatMap_congr fun p hp => (hpiece p hp).1]

end Segment

/-! ### Substitution -/

namespace Template

variable {s₁ s₂ : Source}

theorem filledBy (t : Template) (source : Source) : t.FilledBy source := by
  have hfailure : failure? (renderSegments source t.segments) = (t.firstMissing? source).map .missingValue :=
    failure?_renderSegments t.segments
  refine ⟨fun name hname => ?_, fun hnone => ?_, fun s _ ho => Segment.rendered_of_mandatory ho,
    fun s _ _ => Segment.rendered_of_not_lacksValue, fun s _ => Segment.rendered_of_lacksValue⟩
  · rw [hname] at hfailure
    rw [substitute, error_of_failure? hfailure]
    rfl
  · rw [hnone] at hfailure
    obtain ⟨text, htext⟩ := ok_of_failure? hfailure
    rw [substitute, htext, eq_of_renderSegments htext]
    rfl

theorem agree_of_mandatory {t : Template} (h : ∀ name ∈ t.mandatoryTokens, s₁ name = s₂ name) {s : Segment}
    (hs : s ∈ t.segments) (ho : s.isOptional = false) : ∀ name ∈ tokenNames s.pieces, s₁ name = s₂ name := by
  intro name hname
  refine h name (List.mem_flatMap.2 ⟨s, hs, ?_⟩)
  rw [Segment.mandatoryTokens, ho]
  exact hname

theorem mem_tokens {t : Template} {name : String} : name ∈ t.tokens ↔ ∃ s ∈ t.segments, name ∈ tokenNames s.pieces := by
  rw [tokens_eq, List.mem_eraseDups, List.mem_flatMap]

theorem mem_tokens_of_mandatory {t : Template} {name : String} (h : name ∈ t.mandatoryTokens) : name ∈ t.tokens := by
  obtain ⟨s, hs, hname⟩ := List.mem_flatMap.1 h
  unfold Segment.mandatoryTokens at hname
  split at hname
  · cases hname
  · exact mem_tokens.2 ⟨s, hs, hname⟩

theorem filledAlike {t : Template} (h : ∀ name ∈ t.mandatoryTokens, s₁ name = s₂ name) : t.FilledAlike s₁ s₂ := by
  refine ⟨t.filledBy s₁, t.filledBy s₂, List.find?_congr fun name hname => by rw [h name hname], fun s hs ho => ?_,
    fun s _ hown => Segment.rendered_congr hown⟩
  exact Segment.rendered_congr (agree_of_mandatory h hs ho)

/-- **Sources that agree outside the optional segments of a template fill it alike**, and sources that agree on all its
placeholders make the same of it. -/
theorem substitute_of_agree (t : Template) (s₁ s₂ : Source) :
    ((∀ name ∈ t.mandatoryTokens, s₁ name = s₂ name) → t.FilledAlike s₁ s₂) ∧
      ((∀ name ∈ t.tokens, s₁ name = s₂ name) → t.substitute s₁ = t.substitute s₂) := by
  refine ⟨filledAlike, fun hall => ?_⟩
  have halike : t.FilledAlike s₁ s₂ := filledAlike fun name hname => hall name (mem_tokens_of_mandatory hname)
  have hsegments : ∀ s ∈ t.segments, s.rendered s₁ = s.rendered s₂ := fun s hs =>
    halike.optional s hs fun name hname => hall name (mem_tokens.2 ⟨s, hs, hname⟩)
  cases hmissing : t.firstMissing? s₁ with
  | some name => rw [halike.first.error name hmissing, halike.second.error name (halike.firstMissing?_eq ▸ hmissing)]
  | none =>
    rw [halike.first.ok hmissing, halike.second.ok (halike.firstMissing?_eq ▸ hmissing), List.flatMap_congr hsegments]

/-- One source has a null that stands for none and nothing for `c`; a getter that is never null keeps the segment of
`c`; and a value that no placeholder asks for changes nothing. -/
theorem substitute_of_agree_null :
    let first := entriesSource [("a", .text "x"), ("b", .null)]
    let second : Source := fun name => if name = "c" then .found .null false else first name
    let third := entriesSource [("a", .text "x"), ("b", .null), ("d", .text "y")]
    ∃ t, parse '#' "#a<[, #b]><[; #c]>" = .ok t ∧ (∀ name ∈ t.mandatoryTokens, first name = second name) ∧
      t.FilledAlike first second ∧ t.substitute first = .ok "x" ∧ t.substitute second = .ok "x; null" ∧
      (∀ name ∈ t.tokens, first name = third name) ∧ t.substitute first = t.substitute third := by
  intro first second third
  have hparse : parse '#' "#a<[, #b]><[; #c]>" = .ok
      ⟨"#a<[, #b]><[; #c]>", '#', [⟨false, [.token ['a']]⟩, ⟨true, [.literal [',', ' '], .token ['b']]⟩,
        ⟨true, [.literal [';', ' '], .token ['c']]⟩]⟩ := ok_of_toOption (by decide +kernel)
  refine ⟨_, hparse, ?_⟩
  have hmandatory : ∀ name ∈ ["a"], first name = second name := List.forall_mem_singleton.2 rfl
  have hall : ∀ name ∈ ["a", "b", "c"], first name = third name := by
    intro name hname
    simp only [List.mem_cons, List.not_mem_nil, or_false] at hname
    rcases hname with rfl | rfl | rfl <;> rfl
  exact ⟨hmandatory, (substitute_of_agree _ first second).1 hmandatory, by rfl, by rfl, hall,
    (substitute_of_agree _ first third).2 hall⟩

end Template

end QueryRows
