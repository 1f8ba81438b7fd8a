import QueryRows.Template
import QueryRows.Proofs.PlainText
import QueryRows.Proofs.Results
/-!
# Quoting — values between single quotes

A text is read as outside or inside a single-quoted literal, where a backslash inside takes the meaning of the next
character away (`Quoting`).  In a template whose placeholders all stand inside literals, and whose optional segments
leave the reading as they found it, no value that is substituted ends the literal it stands in
(`substitute_keepsQuoting`).  The name of an enumeration constant is written as it is, so it must not hold a quote or
backslash itself (`not_keepsQuoting_of_quoted_name`).
-/
namespace QueryRows

/-- **Where a reader of query text is.** -/
inductive Quoting where
  | outside
  | inside
  /-- inside, right behind a backslash -/
  | escape
deriving DecidableEq

namespace Quoting

def step : Quoting → Char → Quoting
  | .outside, c => if c = '\'' then .inside else .outside
  | .inside, c => if c = '\\' then .escape else if c = '\'' then .outside else .inside
  | .escape, _ => .inside

/-- Where the reader is after a text. -/
def scan (q : Quoting) (cs : List Char) : Quoting := cs.foldl step q

/-- Where the reader is after a piece of a template; a placeholder is passed over. -/
def passPiece (q : Quoting) : Piece → Quoting
  | .literal text => q.scan text
  | .token _ => q

def pass (q : Quoting) (ps : List Piece) : Quoting := ps.foldl passPiece q

/-- Every placeholder stands inside a literal. -/
def tokensInside : Quoting → List Piece → Bool
  | _, [] => true
  | q, .literal text :: ps => tokensInside (q.scan text) ps
  | q, .token _ :: ps => q = .inside && tokensInside q ps

/-- **Segments are well quoted** when every placeholder stands inside a literal and every optional segment leaves the
reader where it was. -/
def wellQuoted : Quoting → List Segment → Bool
  | _, [] => true
  | q, s :: rest =>
    q.tokensInside s.pieces && (!s.isOptional || q.pass s.pieces = q) && wellQuoted (q.pass s.pieces) rest

end Quoting

def Template.isWellQuoted (t : Template) : Bool := Quoting.wellQuoted .outside t.segments

/-! ### What is written -/

/-- The text that a piece becomes. -/
def Piece.rendered (source : Source) : Piece → List Char
  | .literal text => text
  | .token name =>
    match source (String.ofList name) with
    | .found v _ => renderValue v
    | .missing => []

/-- A placeholder for which the source has something to write in an optional segment. -/
def Piece.hasValue (source : Source) : Piece → Bool
  | .literal _ => true
  | .token name =>
    match source (String.ofList name) with
    | .missing => false
    | .found v nullable => !(v.isNull && nullable)

/-- A segment is written unless it is optional and a placeholder in it has no value. -/
def Segment.isWritten (source : Source) (s : Segment) : Bool := !s.isOptional || s.pieces.all (Piece.hasValue source)

def Segment.rendered (source : Source) (s : Segment) : List Char :=
  if s.isWritten source then s.pieces.flatMap (Piece.rendered source) else []

/-- The text in front of a piece: the segments before its own, and the pieces before it. -/
def renderedBefore (source : Source) (pre : List Segment) (before : List Piece) : List Char :=
  pre.flatMap (Segment.rendered source) ++ before.flatMap (Piece.rendered source)

/-- The pieces of segments, one after the other. -/
def allPieces (segments : List Segment) : List Piece := segments.flatMap (·.pieces)

theorem allPieces_cons (s : Segment) (rest : List Segment) : allPieces (s :: rest) = s.pieces ++ allPieces rest := rfl

theorem renderedBefore_append_singleton (source : Source) (pre : List Segment) (before : List Piece) (p : Piece) :
    renderedBefore source pre (before ++ [p]) = renderedBefore source pre before ++ p.rendered source := by
  rw [renderedBefore, renderedBefore, List.flatMap_append, List.flatMap_singleton, List.append_assoc]

/-- **A text with the values of a source keeps the quoting of its template**: after every segment and after every
written piece the reader of the text is where the reader of the template is, right after a value it is inside a
literal, and nowhere in a value it is outside. -/
structure Template.KeepsQuoting (t : Template) (source : Source) (text : List Char) : Prop where
  rendered : text = t.segments.flatMap (Segment.rendered source)
  segments : ∀ pre post, t.segments = pre ++ post →
    Quoting.outside.scan (pre.flatMap (Segment.rendered source)) = Quoting.outside.pass (allPieces pre)
  pieces : ∀ pre s post before p after, t.segments = pre ++ s :: post → s.isWritten source = true →
    s.pieces = before ++ p :: after →
      renderedBefore source pre (before ++ [p]) <+: text ∧
        Quoting.outside.scan (renderedBefore source pre (before ++ [p])) =
          Quoting.outside.pass (allPieces pre ++ (before ++ [p]))
  values : ∀ pre s post before name after, t.segments = pre ++ s :: post → s.isWritten source = true →
    s.pieces = before ++ .token name :: after →
      Quoting.outside.scan (renderedBefore source pre (before ++ [.token name])) = .inside ∧
        ∀ part, part <+: (Piece.token name).rendered source →
          Quoting.outside.scan (renderedBefore source pre before ++ part) ≠ .outside

/-- The constants that a source gives to the placeholders of a template have names without backslashes and quotes. -/
def Template.NamesPlain (t : Template) (source : Source) : Prop :=
  ∀ s ∈ t.segments, ∀ name, .token name ∈ s.pieces →
    ∀ e nullable, source (String.ofList name) = .found (.enumeration e) nullable → Plain e.name.toList

/-! ### Text that stays inside -/

namespace Quoting

theorem scan_append (q : Quoting) (as bs : List Char) : q.scan (as ++ bs) = (q.scan as).scan bs := List.foldl_append

theorem pass_append (q : Quoting) (as bs : List Piece) : q.pass (as ++ bs) = (q.pass as).pass bs := List.foldl_append

theorem step_inside_of_plain {c : Char} (h : needsEscape c = false) : step .inside c = .inside := by
  unfold needsEscape at h
  rw [Bool.or_eq_false_iff, beq_eq_false_iff_ne, beq_eq_false_iff_ne] at h
  rw [step, if_neg h.1, if_neg h.2]

end Quoting

/-- **A text that stays inside a literal**: it ends there, and no part of it leads outside. -/
structure StaysInside (cs : List Char) : Prop where
  scan_eq : Quoting.inside.scan cs = .inside
  never_outside : ∀ part, part <+: cs → Quoting.inside.scan part ≠ .outside

namespace StaysInside

theorem nil : StaysInside [] := ⟨rfl, fun part h => by
  rw [List.prefix_nil.1 h]
  decide⟩

theorem append {as bs : List Char} (ha : StaysInside as) (hb : StaysInside bs) : StaysInside (as ++ bs) := by
  refine ⟨by rw [Quoting.scan_append, ha.scan_eq, hb.scan_eq], fun part hp => ?_⟩
  rcases List.prefix_or_prefix_of_prefix hp (List.prefix_append as bs) with h | ⟨more, rfl⟩
  · exact ha.never_outside part h
  · rw [Quoting.scan_append, ha.scan_eq]
    exact hb.never_outside more ((List.prefix_append_right_inj as).1 hp)

theorem singleton {c : Char} (hc : needsEscape c = false) : StaysInside [c] := by
  refine ⟨Quoting.step_inside_of_plain hc, fun part hp => ?_⟩
  rcases List.prefix_cons_iff.1 hp with rfl | ⟨part', rfl, hp'⟩
  · decide
  · rw [List.prefix_nil.1 hp', Quoting.scan, List.foldl_cons, List.foldl_nil, Quoting.step_inside_of_plain hc]
    decide

/-- A backslash and any character behind it lead back inside. -/
theorem escaped (c : Char) : StaysInside ['\\', c] := by
  refine ⟨rfl, fun part hp => ?_⟩
  rcases List.prefix_cons_iff.1 hp with rfl | ⟨part', rfl, hp'⟩
  · decide
  · rcases List.prefix_cons_iff.1 hp' with rfl | ⟨part'', rfl, hp''⟩
    · decide
    · rw [List.prefix_nil.1 hp'']
      exact fun h => nomatch h

theorem of_plain : ∀ {cs : List Char}, Plain cs → StaysInside cs
  | [], _ => nil
  | _ :: _, h => (singleton (plain_cons.1 h).1).append (of_plain (plain_cons.1 h).2)

theorem escapeLiteral (cs : List Char) : StaysInside (escapeLiteral cs) := by
  fun_induction QueryRows.escapeLiteral cs with
  | case1 => exact nil
  | case2 c cs hc ih => exact (escaped c).append ih
  | case3 c cs hc ih => exact (singleton (Bool.eq_false_iff.2 hc)).append ih

/-- **Every value stays inside**, if the name it may be is plain. -/
theorem renderValue {v : Value} (h : ∀ e, v = .enumeration e → Plain e.name.toList) : StaysInside (renderValue v) := by
  cases v with
  | text s => exact escapeLiteral _
  | bytes bs => exact escapeLiteral _
  | null => exact of_plain (by decide)
  | enumeration e => exact of_plain (h e rfl)
  | int n => exact of_plain (plain_display (v := .int n) rfl)
  | long n => exact of_plain (plain_display (v := .long n) rfl)
  | short n => exact of_plain (plain_display (v := .short n) rfl)
  | byte n => exact of_plain (plain_display (v := .byte n) rfl)
  | float x => exact of_plain (plain_display (v := .float x) rfl)
  | decimal d => exact of_plain (plain_display (v := .decimal d) rfl)
  | boolean b => exact of_plain (plain_display (v := .boolean b) rfl)
  | date d => exact of_plain (plain_display (v := .date d) rfl)
  | datetime t => exact of_plain (plain_display (v := .datetime t) rfl)

end StaysInside

/-! ### What a substitution writes -/

namespace Template

variable {source : Source}

theorem eq_of_renderMandatory : ∀ {ps : List Piece} {text : List Char},
    renderMandatory source ps = .ok text → text = ps.flatMap (Piece.rendered source)
  | [], _, h => by
    cases h
    rfl
  | .literal l :: ps, text, h => by
    obtain ⟨rest, hr, rfl⟩ := map_eq_ok h
    rw [List.flatMap_cons, ← eq_of_renderMandatory hr, Piece.rendered]
  | .token name :: ps, text, h => by
    rw [renderMandatory] at h
    cases hs : source (String.ofList name) with
    | missing =>
      rw [hs] at h
      cases h
    | found v nullable =>
      rw [hs] at h
      obtain ⟨rest, hr, rfl⟩ := map_eq_ok h
      rw [List.flatMap_cons, ← eq_of_renderMandatory hr, Piece.rendered, hs]

theorem renderOptional?_eq : ∀ ps : List Piece, renderOptional? source ps =
    if ps.all (Piece.hasValue source) then some (ps.flatMap (Piece.rendered source)) else none
  | [] => rfl
  | .literal l :: ps => by
    rw [renderOptional?, renderOptional?_eq ps, List.all_cons, Piece.hasValue, Bool.true_and, List.flatMap_cons,
      Piece.rendered]
    split <;> rfl
  | .token name :: ps => by
    rw [renderOptional?, renderOptional?_eq ps, List.all_cons, Piece.hasValue, List.flatMap_cons, Piece.rendered]
    cases hs : source (String.ofList name) with
    | missing => rfl
    | found v nullable =>
      cases v with
      | null =>
        cases nullable with
        | true => rfl
        | false => cases ps.all (Piece.hasValue source) <;> rfl
      | _ => cases ps.all (Piece.hasValue source) <;> rfl

theorem eq_of_renderSegment {s : Segment} {text : List Char} (h : renderSegment source s = .ok text) :
    text = s.rendered source := by
  unfold renderSegment at h
  unfold Segment.rendered Segment.isWritten
  cases ho : s.isOptional with
  | true =>
    rw [ho, if_pos rfl, renderOptional?_eq] at h
    cases h
    rw [Bool.not_true, Bool.false_or]
    split <;> rfl
  | false =>
    rw [ho, if_neg Bool.false_ne_true] at h
    rw [Bool.not_false, Bool.true_or, if_pos rfl]
    exact eq_of_renderMandatory h

theorem eq_of_renderSegments : ∀ {segments : List Segment} {text : List Char},
    renderSegments source segments = .ok text → text = segments.flatMap (Segment.rendered source)
  | [], _, h => by
    cases h
    rfl
  | s :: rest, text, h => by
    obtain ⟨first, hs, h⟩ := bind_eq_ok h
    obtain ⟨more, hr, h⟩ := bind_eq_ok h
    cases h
    rw [List.flatMap_cons, eq_of_renderSegment hs, eq_of_renderSegments hr]

/-- **A substituted text is its segments as they are rendered.** -/
theorem toList_of_substitute {t : Template} {text : String} (h : t.substitute source = .ok text) :
    text.toList = t.segments.flatMap (Segment.rendered source) := by
  obtain ⟨cs, hr, rfl⟩ := map_eq_ok h
  rw [String.toList_ofList, eq_of_renderSegments hr]

end Template

/-! ### Reading a rendered text beside its template -/

/-- The placeholders among pieces are rendered to text that stays inside a literal. -/
def TokensStayInside (source : Source) (ps : List Piece) : Prop :=
  ∀ name, .token name ∈ ps → StaysInside ((Piece.token name).rendered source)

theorem Template.NamesPlain.staysInside {t : Template} {source : Source} (h : t.NamesPlain source) {s : Segment}
    (hs : s ∈ t.segments) : TokensStayInside source s.pieces := by
  intro name hname
  rw [Piece.rendered]
  cases hl : source (String.ofList name) with
  | missing => exact .nil
  | found v nullable => exact .renderValue fun e he => h s hs name hname e nullable (he ▸ hl)

namespace Quoting

variable {source : Source}

theorem tokensInside_append : ∀ (q : Quoting) (as bs : List Piece),
    q.tokensInside (as ++ bs) = (q.tokensInside as && (q.pass as).tokensInside bs)
  | _, [], _ => rfl
  | q, .literal text :: as, bs => tokensInside_append (q.scan text) as bs
  | q, .token name :: as, bs => by
    rw [List.cons_append, tokensInside, tokensInside, tokensInside_append q as bs, Bool.and_assoc]
    rfl

theorem wellQuoted_append : ∀ (q : Quoting) (as bs : List Segment),
    q.wellQuoted (as ++ bs) = (q.wellQuoted as && (q.pass (allPieces as)).wellQuoted bs)
  | _, [], _ => rfl
  | q, s :: as, bs => by
    rw [List.cons_append, wellQuoted, wellQuoted, wellQuoted_append, allPieces_cons, pass_append, Bool.and_assoc (_ && _)]

/-- **The pieces of a segment lead the reader of the text where they lead the reader of the template.** -/
theorem scan_rendered : ∀ {q : Quoting} {ps : List Piece}, q.tokensInside ps = true → TokensStayInside source ps →
    q.scan (ps.flatMap (Piece.rendered source)) = q.pass ps
  | _, [], _, _ => rfl
  | q, .literal text :: ps, hq, hv => by
    rw [List.flatMap_cons, Piece.rendered, scan_append]
    exact scan_rendered hq fun name hn => hv name (.tail _ hn)
  | q, .token name :: ps, hq, hv => by
    rw [tokensInside, Bool.and_eq_true, decide_eq_true_iff] at hq
    obtain ⟨rfl, hps⟩ := hq
    rw [List.flatMap_cons, scan_append, (hv name (.head _)).scan_eq]
    exact scan_rendered hps fun name hn => hv name (.tail _ hn)

/-- **So do segments**, also where an optional one is left out. -/
theorem scan_rendered_segments : ∀ {q : Quoting} {segments : List Segment}, q.wellQuoted segments = true →
    (∀ s ∈ segments, TokensStayInside source s.pieces) →
      q.scan (segments.flatMap (Segment.rendered source)) = q.pass (allPieces segments)
  | _, [], _, _ => rfl
  | q, s :: rest, hq, hv => by
    rw [wellQuoted, Bool.and_eq_true, Bool.and_eq_true, Bool.or_eq_true, decide_eq_true_iff] at hq
    obtain ⟨⟨hs, hopt⟩, hrest⟩ := hq
    have hseg : q.scan (s.rendered source) = q.pass s.pieces := by
      unfold Segment.rendered
      split
      · exact scan_rendered hs (hv s (.head _))
      · rename_i hw
        rcases hopt with ho | ho
        · exact absurd (by rw [Segment.isWritten, ho, Bool.true_or]) hw
        · exact ho.symm
    rw [List.flatMap_cons, scan_append, hseg, allPieces_cons, pass_append]
    exact scan_rendered_segments hrest fun s hs => hv s (.tail _ hs)

end Quoting

namespace Template

section Reading

variable {t : Template} {source : Source} (hq : t.isWellQuoted = true)
  (hv : ∀ s ∈ t.segments, TokensStayInside source s.pieces)
include hq hv

/-- The segments in front of others lead the two readers to one place, and the others are well quoted from there. -/
theorem scan_front {pre post : List Segment} (hs : t.segments = pre ++ post) :
    Quoting.outside.scan (pre.flatMap (Segment.rendered source)) = Quoting.outside.pass (allPieces pre) ∧
      (Quoting.outside.pass (allPieces pre)).wellQuoted post = true := by
  unfold isWellQuoted at hq
  rw [hs, Quoting.wellQuoted_append, Bool.and_eq_true] at hq
  exact ⟨Quoting.scan_rendered_segments hq.1 fun s hm => hv s (hs ▸ List.mem_append_left _ hm), hq.2⟩

/-- So do the pieces in front of others, and there the others have their placeholders inside literals. -/
theorem scan_within {pre post : List Segment} {s : Segment} {before after : List Piece}
    (hs : t.segments = pre ++ s :: post) (hp : s.pieces = before ++ after) :
    Quoting.outside.scan (renderedBefore source pre before) = Quoting.outside.pass (allPieces pre ++ before) ∧
      (Quoting.outside.pass (allPieces pre ++ before)).tokensInside after = true := by
  obtain ⟨hscan, hwell⟩ := scan_front hq hv hs
  rw [Quoting.wellQuoted, Bool.and_eq_true, Bool.and_eq_true, hp, Quoting.tokensInside_append, Bool.and_eq_true]
    at hwell
  have hmem : s ∈ t.segments := hs ▸ List.mem_append_right _ (.head _)
  have hbefore : TokensStayInside source before := fun name hname =>
    hv s hmem name (hp ▸ List.mem_append_left _ hname)
  rw [renderedBefore, Quoting.scan_append, hscan, Quoting.pass_append]
  exact ⟨Quoting.scan_rendered hwell.1.1.1 hbefore, hwell.1.1.2⟩

/-- A value that is substituted starts inside a literal and stays there. -/
theorem scan_value {pre post : List Segment} {s : Segment} {before after : List Piece} {name : List Char}
    (hs : t.segments = pre ++ s :: post) (hp : s.pieces = before ++ .token name :: after) :
    Quoting.outside.scan (renderedBefore source pre before) = .inside ∧
      StaysInside ((Piece.token name).rendered source) := by
  obtain ⟨hscan, hinside⟩ := scan_within hq hv hs hp
  rw [Quoting.tokensInside, Bool.and_eq_true, decide_eq_true_iff] at hinside
  have hmem : s ∈ t.segments := hs ▸ List.mem_append_right _ (.head _)
  exact ⟨hscan.trans hinside.1, hv s hmem name (hp ▸ List.mem_append_right _ (.head _))⟩

end Reading

/-- What stands in front of a piece and the piece itself are the start of the rendered text. -/
theorem renderedBefore_prefix {t : Template} {source : Source} {pre post : List Segment} {s : Segment}
    {before after : List Piece} (hs : t.segments = pre ++ s :: post) (hw : s.isWritten source = true)
    (hp : s.pieces = before ++ after) :
    renderedBefore source pre before <+: t.segments.flatMap (Segment.rendered source) := by
  refine ⟨after.flatMap (Piece.rendered source) ++ post.flatMap (Segment.rendered source), ?_⟩
  rw [hs, List.flatMap_append, List.flatMap_cons, Segment.rendered, if_pos hw, hp, List.flatMap_append, renderedBefore]
  simp only [List.append_assoc]

/-- **No substituted value ends the literal it stands in.** -/
theorem substitute_keepsQuoting {t : Template} {source : Source} {text : String} (hq : t.isWellQuoted = true)
    (hn : t.NamesPlain source) (h : t.substitute source = .ok text) : t.KeepsQuoting source text.toList := by
  have htext := toList_of_substitute h
  have hv : ∀ s ∈ t.segments, TokensStayInside source s.pieces := fun s hs => hn.staysInside hs
  refine ⟨htext, fun pre post hs => (scan_front hq hv hs).1, ?_, ?_⟩
  · intro pre s post before p after hs hw hp
    have hp' : s.pieces = (before ++ [p]) ++ after := by rw [hp, List.append_assoc, List.singleton_append]
    exact ⟨htext ▸ renderedBefore_prefix hs hw hp', (scan_within hq hv hs hp').1⟩
  · intro pre s post before name after hs hw hp
    obtain ⟨hscan, hvalue⟩ := scan_value hq hv hs hp
    rw [renderedBefore_append_singleton, Quoting.scan_append, hscan]
    refine ⟨hvalue.scan_eq, fun part hpart => ?_⟩
    rw [Quoting.scan_append, hscan]
    exact hvalue.never_outside part hpart

/-- Named values whose constants have plain names give plain names. -/
theorem namesPlain_entriesSource (t : Template) {entries : List (String × Value)}
    (h : ∀ p ∈ entries, ∀ e, p.2 = .enumeration e → Plain e.name.toList) : t.NamesPlain (entriesSource entries) := by
  intro s _ name _ e nullable hf
  unfold entriesSource lookupEntry at hf
  split at hf
  · rename_i v hv
    obtain ⟨front, back, rfl, -⟩ := List.lookup_eq_some_iff.1 hv
    cases hf
    exact h _ (List.mem_append_right _ (.head _)) e rfl
  · split at hf
    · rename_i p hp
      simp only [Lookup.found.injEq] at hf
      exact h p (List.mem_of_find?_eq_some hp) e hf.1
    · cases hf

/-- Text, bytes and a constant between quotes, and an optional segment that is left out. -/
theorem substitute_keepsQuoting_text : ∃ t source text,
    parse '#' "x = '#a' <[or y = '#b' ]>or z = '#c.#d'" = .ok t ∧
      source = entriesSource [("a", .text "O'B\\"), ("c", .bytes [39]), ("D", .enumeration ⟨"Status", "ACTIVE", 0⟩)] ∧
      t.isWellQuoted = true ∧ t.NamesPlain source ∧ t.substitute source = .ok text ∧
      text = "x = 'O\\'B\\\\' or z = '\\'.ACTIVE'" ∧ t.KeepsQuoting source text.toList := by
  have hparse : parse '#' "x = '#a' <[or y = '#b' ]>or z = '#c.#d'" = .ok
      ⟨"x = '#a' <[or y = '#b' ]>or z = '#c.#d'", '#',
        [⟨false, [.literal "x = '".toList, .token ['a'], .literal "' ".toList]⟩,
          ⟨true, [.literal "or y = '".toList, .token ['b'], .literal "' ".toList]⟩,
          ⟨false, [.literal "or z = '".toList, .token ['c'], .literal ['.'], .token ['d'], .literal ['\'']]⟩]⟩ :=
    ok_of_toOption (by decide +kernel)
  have hnames (t : Template) : t.NamesPlain (entriesSource
      [("a", .text "O'B\\"), ("c", .bytes [39]), ("D", .enumeration ⟨"Status", "ACTIVE", 0⟩)]) := by
    refine namesPlain_entriesSource t fun p hp e he => ?_
    simp only [List.mem_cons, List.not_mem_nil, or_false] at hp
    rcases hp with rfl | rfl | rfl
    · cases he
    · cases he
    · cases he
      decide
  exact ⟨_, _, _, hparse, rfl, by decide +kernel, hnames _, by rfl, rfl,
    substitute_keepsQuoting (by decide +kernel) (hnames _) (by rfl)⟩

/-- **A quote in the name of a constant ends the literal**: between quotes, the name `a'b` leaves the reader outside
right behind it, although the template is well quoted. -/
theorem not_keepsQuoting_of_quoted_name : ∃ t source text,
    parse '#' "'#k'" = .ok t ∧ source = entriesSource [("k", .enumeration ⟨"Kind", "a'b", 0⟩)] ∧
      t.isWellQuoted = true ∧ t.substitute source = .ok text ∧ text = "'a'b'" ∧
      ¬ t.KeepsQuoting source text.toList := by
  have hparse : parse '#' "'#k'" = .ok ⟨"'#k'", '#', [⟨false, [.literal ['\''], .token ['k'], .literal ['\'']]⟩]⟩ :=
    ok_of_toOption (by decide +kernel)
  refine ⟨_, _, _, hparse, rfl, by decide +kernel, by rfl, rfl, fun h => ?_⟩
  have hinside := (h.values [] _ [] [.literal ['\'']] ['k'] [.literal ['\'']] rfl rfl rfl).1
  exact absurd hinside (by decide +kernel)

end Template

end QueryRows
