import QueryRows.Proofs.FirstOccurrences
import QueryRows.Proofs.TemplateText
/-!
# TokenOrder — the placeholders of a template, as they come up and the longest first

The names of all placeholders of a template stand in its text one behind the other (`standIn_occurrences`), those of
optional segments among the others.  The distinct ones are listed in the order in which they first come up, and once
more sorted by length, in a way that leaves names of one length in that order; either list is the only one of its kind
(`firstsOf_iff`, `Template.longestFirst_iff`).  So a name in the sorted list stands behind no prefix of itself
(`Template.tokens_ordered`).
-/
namespace QueryRows

/-- Names stand in a text one behind the other, each of them behind the marker, with any text around them. -/
inductive StandIn (marker : Char) : List String → List Char → Prop
  | nil (text : List Char) : StandIn marker [] text
  | cons (before : List Char) {name : String} {names : List String} {after : List Char} :
    StandIn marker names after → StandIn marker (name :: names) (before ++ marker :: (name.toList ++ after))

namespace Template

/-- The names of all placeholders, in text order. -/
def occurrences (t : Template) : List String := t.segments.flatMap fun s => tokenNames s.pieces

/-- **The placeholders sorted by length**: the longest first, and those of one length as they first come up. -/
structure LongestFirst (t : Template) (names : List String) : Prop where
  perm : names.Perm t.tokens
  longest : names.Pairwise fun a b => b.utf8ByteSize ≤ a.utf8ByteSize
  stable : names.Pairwise fun a b =>
    a.utf8ByteSize = b.utf8ByteSize → t.occurrences.idxOf a < t.occurrences.idxOf b

end Template

/-! ### Names in a text -/

namespace StandIn

variable {marker : Char} {names names' : List String} {text text' : List Char}

theorem prepend (h : StandIn marker names text) (before : List Char) : StandIn marker names (before ++ text) := by
  cases h with
  | nil => exact .nil _
  | cons gap h =>
    rw [← List.append_assoc]
    exact .cons (before ++ gap) h

theorem append (h : StandIn marker names text) (h' : StandIn marker names' text') :
    StandIn marker (names ++ names') (text ++ text') := by
  induction h with
  | nil text => exact h'.prepend text
  | cons before _ ih =>
    rw [List.append_assoc, List.cons_append, List.cons_append, List.append_assoc]
    exact .cons before ih

theorem flatMap {β : Type} {names : β → List String} {text : β → List Char} {bs : List β}
    (h : ∀ b ∈ bs, StandIn marker (names b) (text b)) : StandIn marker (bs.flatMap names) (bs.flatMap text) := by
  induction bs with
  | nil => exact .nil _
  | cons b bs ih =>
    rw [List.forall_mem_cons] at h
    exact h.1.append (ih h.2)

end StandIn

theorem standIn_tokenNames (marker : Char) (ps : List Piece) :
    StandIn marker (tokenNames ps) (writtenPieces marker ps) := by
  induction ps with
  | nil => exact .nil _
  | cons p ps ih =>
    cases p with
    | literal text => exact ih.prepend text
    | token name =>
      have hcons : StandIn marker (String.ofList name :: tokenNames ps)
          (marker :: ((String.ofList name).toList ++ writtenPieces marker ps)) := .cons [] ih
      rw [String.toList_ofList] at hcons
      exact hcons

theorem Segment.standIn_tokenNames (marker : Char) (s : Segment) :
    StandIn marker (tokenNames s.pieces) (s.written marker) := by
  have hpieces := QueryRows.standIn_tokenNames marker s.pieces
  unfold Segment.written delimited
  split
  · have hall := (hpieces.prepend Delimiter.opening.chars).append (.nil Delimiter.closing.chars)
    rwa [List.append_nil] at hall
  · exact hpieces

/-! ### The length of names -/

/-- A name is longer in bytes than a proper prefix of it. -/
theorem utf8ByteSize_lt_of_prefix {a b : String} (h : a.toList <+: b.toList) (hne : a ≠ b) :
    a.utf8ByteSize < b.utf8ByteSize := by
  obtain ⟨rest, hrest⟩ := h
  have hb : b = a ++ String.ofList rest := by
    rw [← String.ofList_toList (s := b), ← hrest, String.ofList_append, String.ofList_toList]
  have hpos : (String.ofList rest).utf8ByteSize ≠ 0 := by
    intro hzero
    rw [String.utf8ByteSize_eq_zero_iff] at hzero
    rw [hzero, String.append_empty] at hb
    exact hne hb.symm
  rw [hb, String.utf8ByteSize_append]
  omega

/-- A name may stand before one that is no longer. -/
def mayPrecede (a b : String) : Bool := b.utf8ByteSize ≤ a.utf8ByteSize

theorem mayPrecede_iff {a b : String} : mayPrecede a b = true ↔ b.utf8ByteSize ≤ a.utf8ByteSize := decide_eq_true_iff

theorem mayPrecede_trans (a b c : String) (hab : mayPrecede a b = true) (hbc : mayPrecede b c = true) :
    mayPrecede a c = true := by
  rw [mayPrecede_iff] at hab hbc ⊢
  omega

theorem mayPrecede_total (a b : String) : (mayPrecede a b || mayPrecede b a) = true := by
  rw [Bool.or_eq_true, mayPrecede_iff, mayPrecede_iff]
  omega

/-! ### The placeholders of a template -/

namespace Template

variable {t : Template} {names : List String}

/-- **The names of the placeholders stand in the text in this order.** -/
theorem standIn_occurrences {marker : Char} {text : String} (h : parse marker text = .ok t) :
    StandIn marker t.occurrences text.toList := by
  unfold parse at h
  split at h
  · rename_i parts hparts
    cases h
    have hstand : ∀ segments : List Segment, StandIn marker (segments.flatMap fun s => tokenNames s.pieces)
        (segments.flatMap (Segment.written marker)) := fun _ => .flatMap fun s _ => s.standIn_tokenNames marker
    have hall := hstand (parts.map fun p => ⟨p.isOptional, cutPieces marker p.body⟩)
    rwa [flatMap_written_cutPieces hparts] at hall
  · cases h

theorem firstsOf_tokens (t : Template) : FirstsOf t.occurrences t.tokens := firstsOf_iff.2 t.tokens_eq

theorem tokensByLength_eq (t : Template) : t.tokensByLength = t.tokens.mergeSort mayPrecede := rfl

/-- Names of one length are left in their order. -/
theorem filter_tokensByLength (t : Template) (n : Nat) :
    t.tokensByLength.filter (·.utf8ByteSize = n) = t.tokens.filter (·.utf8ByteSize = n) := by
  rw [tokensByLength_eq]
  have hsorted : (t.tokens.filter (·.utf8ByteSize = n)).Pairwise fun a b => mayPrecede a b = true := by
    refine List.pairwise_of_forall_mem_list fun a ha b hb => ?_
    simp only [List.mem_filter, decide_eq_true_eq] at ha hb
    rw [mayPrecede_iff]
    omega
  have hsub : (t.tokens.filter (·.utf8ByteSize = n)).Sublist (t.tokens.mergeSort mayPrecede) :=
    List.sublist_mergeSort mayPrecede_trans mayPrecede_total hsorted List.filter_sublist
  have hfilter := hsub.filter (·.utf8ByteSize = n)
  rw [List.filter_filter] at hfilter
  simp only [Bool.and_self] at hfilter
  have hlength := ((List.mergeSort_perm t.tokens mayPrecede).filter (·.utf8ByteSize = n)).length_eq
  exact (hfilter.eq_of_length hlength.symm).symm

theorem longestFirst_tokensByLength (t : Template) : t.LongestFirst t.tokensByLength := by
  refine ⟨List.mergeSort_perm _ _, ?_, List.pairwise_iff_forall_sublist.2 fun {a b} hab hsize => ?_⟩
  · exact (List.pairwise_mergeSort mayPrecede_trans mayPrecede_total t.tokens).imp mayPrecede_iff.1
  · -- among the names of their length, which the sort leaves as they are, the two stand in the order of `tokens`
    have hpair : [a, b].Sublist (t.tokensByLength.filter (·.utf8ByteSize = b.utf8ByteSize)) := by
      have hfilter := hab.filter (·.utf8ByteSize = b.utf8ByteSize)
      simpa [hsize] using hfilter
    rw [filter_tokensByLength] at hpair
    exact List.pairwise_iff_forall_sublist.1 t.firstsOf_tokens.ordered (hpair.trans List.filter_sublist)

/-- **The placeholders are sorted in one way only.** -/
theorem longestFirst_iff : t.LongestFirst names ↔ names = t.tokensByLength := by
  refine ⟨fun h => ?_, fun h => h ▸ t.longestFirst_tokensByLength⟩
  have hsorted := t.longestFirst_tokensByLength
  refine (h.perm.trans hsorted.perm.symm).eq_of_pairwise (fun a b _ _ hab hba => ?_) (h.longest.and h.stable)
    (hsorted.longest.and hsorted.stable)
  have hsize : a.utf8ByteSize = b.utf8ByteSize := by omega
  have hlt := hab.2 hsize
  have hgt := hba.2 hsize.symm
  omega

theorem LongestFirst.not_prefix (h : t.LongestFirst names) :
    names.Pairwise fun a b => ¬ a.toList <+: b.toList := by
  have hnodup : names.Nodup := h.perm.nodup_iff.2 t.firstsOf_tokens.nodup
  refine (h.longest.and hnodup).imp fun {a b} hab hprefix => ?_
  have hlt := utf8ByteSize_lt_of_prefix hprefix hab.2
  omega

/-- **The names of all placeholders stand in the text in their order, the distinct ones are listed as they first come
up, and sorted by length in the one way that leaves names of one length in that order**, so that no name stands behind a
prefix of it. -/
theorem tokens_ordered {marker : Char} {text : String} (h : parse marker text = .ok t) :
    StandIn marker t.occurrences text.toList ∧ t.tokens.Nodup ∧
      (∀ names, FirstsOf t.occurrences names ↔ names = t.tokens) ∧
      (∀ names, t.LongestFirst names ↔ names = t.tokensByLength) ∧
      t.tokensByLength.Pairwise fun a b => ¬ a.toList <+: b.toList := by
  refine ⟨standIn_occurrences h, t.firstsOf_tokens.nodup, fun names => ?_, fun names => longestFirst_iff,
    t.longestFirst_tokensByLength.not_prefix⟩
  rw [firstsOf_iff, tokens_eq]
  exact Iff.rfl

/-- `ab` comes up again in an optional segment, `a` is a prefix of both other names that begin with it, and `e` stays
before `a`. -/
theorem tokens_ordered_repeated :
    let text := "#ab<[ #a.b, #ab]>#cd<[#e]>#a"
    ∃ t, parse '#' text = .ok t ∧ t.occurrences = ["ab", "a.b", "ab", "cd", "e", "a"] ∧
      t.tokens = ["ab", "a.b", "cd", "e", "a"] ∧ t.tokensByLength = ["a.b", "ab", "cd", "e", "a"] ∧
      StandIn '#' t.occurrences text.toList ∧ t.tokens.Nodup ∧
      (∀ names, FirstsOf t.occurrences names ↔ names = t.tokens) ∧
      (∀ names, t.LongestFirst names ↔ names = t.tokensByLength) ∧
      t.tokensByLength.Pairwise fun a b => ¬ a.toList <+: b.toList := by
  intro text
  have hparse : parse '#' text = .ok ⟨text, '#',
      [⟨false, [.token ['a', 'b']]⟩,
        ⟨true, [.literal [' '], .token ['a', '.', 'b'], .literal [',', ' '], .token ['a', 'b']]⟩,
        ⟨false, [.token ['c', 'd']]⟩, ⟨true, [.token ['e']]⟩, ⟨false, [.token ['a']]⟩]⟩ := by cbv
  exact ⟨_, hparse, by rfl, by decide +kernel, by cbv, tokens_ordered hparse⟩

end Template

end QueryRows
