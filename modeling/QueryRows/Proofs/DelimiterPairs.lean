import QueryRows.Template
import QueryRows.Proofs.Results
/-!
# DelimiterPairs — the texts whose delimiters come in pairs

A text is a template exactly when its delimiters, read from left to right, are opening ones each followed by a closing
one; otherwise the fault is the first delimiter that breaks a pair, after all complete pairs before it
(`parse_pairs`).  The delimiters are looked for at every place of the text (`delimiters`), while the scanner jumps from
one to the next and starts again behind each pair; both find the same ones because no two of them overlap
(`delimiters_eq`).
-/
namespace QueryRows

/-- The delimiter that a text starts with, if it starts with one. -/
def delimiterAt? (text : List Char) : Option Delimiter :=
  [Delimiter.opening, .closing].find? fun d => d.chars.isPrefixOf text

/-- **The delimiters of a text at all its places**, each with the number of bytes before it; `byte` bytes stand before
the text. -/
def delimiters (byte : Nat) : List Char → List (Nat × Delimiter)
  | [] => []
  | c :: rest => ((delimiterAt? (c :: rest)).map (byte, ·)).toList ++ delimiters (byte + c.utf8Size) rest

/-- Delimiters that come in so many pairs, an opening one and then a closing one. -/
inductive Paired : Nat → List (Nat × Delimiter) → Prop
  | nil : Paired 0 []
  | cons {n a b : Nat} {ds : List (Nat × Delimiter)} :
    Paired n ds → Paired (n + 1) ((a, .opening) :: (b, .closing) :: ds)

/-- **The first delimiter that breaks a pair**, after pairs that are complete. -/
inductive FirstFault : List (Nat × Delimiter) → SegmentFault → Prop
  /-- a closing delimiter comes next -/
  | unopened {n byte : Nat} {ds rest : List (Nat × Delimiter)} :
    Paired n ds → FirstFault (ds ++ (byte, .closing) :: rest) (.unopened byte)
  /-- an opening delimiter comes next, and no closing one later -/
  | unclosed {n byte : Nat} {ds rest : List (Nat × Delimiter)} :
    Paired n ds → (∀ d ∈ rest, d.2 = .opening) → FirstFault (ds ++ (byte, .opening) :: rest) (.unclosed byte)
  /-- an opening delimiter comes next, and another one before the closing one -/
  | nested {n byte inner close : Nat} {ds rest : List (Nat × Delimiter)} :
    Paired n ds → (close, .closing) ∈ rest →
      FirstFault (ds ++ (byte, .opening) :: (inner, .opening) :: rest) .nested

/-! ### Delimiters in order -/

/-- The number of pairs, or what breaks the first one that is not complete. -/
def countPairs : List (Nat × Delimiter) → Except SegmentFault Nat
  | [] => .ok 0
  | (byte, .closing) :: _ => .error (.unopened byte)
  | (_, .opening) :: (_, .closing) :: ds => (countPairs ds).map (· + 1)
  | (byte, .opening) :: ds => .error (if ds.any (·.2 = .closing) then .nested else .unclosed byte)

theorem countPairs_append {n : Nat} {ds rest : List (Nat × Delimiter)} (h : Paired n ds) :
    countPairs (ds ++ rest) = (countPairs rest).map (· + n) := by
  induction h with
  | nil => cases h : countPairs rest <;> simp [h, Except.map]
  | cons _ ih =>
    rw [List.cons_append, List.cons_append, countPairs, ih]
    cases countPairs rest <;> rfl

theorem paired_of_countPairs {ds : List (Nat × Delimiter)} {n : Nat} (h : countPairs ds = .ok n) : Paired n ds := by
  fun_induction countPairs ds generalizing n with
  | case1 =>
    cases h
    exact .nil
  | case2 => cases h
  | case3 a b ds ih =>
    cases hds : countPairs ds with
    | error e => simp [hds, Except.map] at h
    | ok k =>
      rw [hds] at h
      cases h
      exact .cons (ih hds)
  | case4 => cases h

theorem countPairs_eq_ok_iff {ds : List (Nat × Delimiter)} {n : Nat} : countPairs ds = .ok n ↔ Paired n ds := by
  refine ⟨paired_of_countPairs, fun h => ?_⟩
  have : countPairs (ds ++ []) = (countPairs []).map (· + n) := countPairs_append h
  rw [List.append_nil] at this
  rw [this]
  simp [countPairs, Except.map]

theorem FirstFault.cons {a b : Nat} {ds : List (Nat × Delimiter)} {fault : SegmentFault} (h : FirstFault ds fault) :
    FirstFault ((a, .opening) :: (b, .closing) :: ds) fault := by
  cases h with
  | unopened hpairs => exact .unopened hpairs.cons
  | unclosed hpairs hrest => exact .unclosed hpairs.cons hrest
  | nested hpairs hrest => exact .nested hpairs.cons hrest

theorem firstFault_of_countPairs {ds : List (Nat × Delimiter)} {fault : SegmentFault}
    (h : countPairs ds = .error fault) : FirstFault ds fault := by
  fun_induction countPairs ds generalizing fault with
  | case1 => cases h
  | case2 byte rest =>
    cases h
    exact .unopened .nil
  | case3 a b ds ih =>
    cases hds : countPairs ds with
    | error e =>
      rw [hds] at h
      cases h
      exact (ih hds).cons
    | ok k => simp [hds, Except.map] at h
  | case4 byte ds hnext =>
    cases h
    split
    · rename_i hany
      obtain ⟨⟨close, d⟩, hmem, hd⟩ := List.any_eq_true.1 hany
      obtain rfl : d = .closing := by simpa using hd
      cases ds with
      | nil => cases hmem
      | cons next rest =>
        obtain ⟨inner, _ | _⟩ := next
        · exact .nested .nil ((List.mem_cons.1 hmem).resolve_left (by simp))
        · exact (hnext inner rest rfl).elim
    · rename_i hany
      refine .unclosed .nil fun d hd => ?_
      have hclosing : d.2 ≠ .closing := by simpa using fun hc => hany (List.any_eq_true.2 ⟨d, hd, by simpa using hc⟩)
      cases hk : d.2 with
      | opening => rfl
      | closing => exact absurd hk hclosing

theorem countPairs_eq_error_iff {ds : List (Nat × Delimiter)} {fault : SegmentFault} :
    countPairs ds = .error fault ↔ FirstFault ds fault := by
  refine ⟨firstFault_of_countPairs, fun h => ?_⟩
  cases h with
  | unopened hpairs =>
    rw [countPairs_append hpairs]
    rfl
  | @unclosed n byte ds rest hpairs hrest =>
    have hnone : rest.any (·.2 = .closing) = false := List.any_eq_false.2 fun d hd => by simp [hrest d hd]
    rw [countPairs_append hpairs]
    cases rest with
    | nil => rfl
    | cons next rest =>
      obtain ⟨inner, _ | _⟩ := next
      · rw [countPairs, hnone]
        · rfl
        · simp
      · simp at hnone
  | @nested n byte inner close ds rest hpairs hclose =>
    have hany : ((inner, Delimiter.opening) :: rest).any (·.2 = .closing) = true :=
      List.any_eq_true.2 ⟨_, List.mem_cons_of_mem _ hclose, rfl⟩
    rw [countPairs_append hpairs, countPairs, hany]
    · rfl
    · simp

/-! ### The delimiters that the scanner meets -/

theorem delimiters_cons (byte : Nat) (c : Char) (rest : List Char) :
    delimiters byte (c :: rest) =
      ((delimiterAt? (c :: rest)).map (byte, ·)).toList ++ delimiters (byte + c.utf8Size) rest := rfl

/-- **A text starts with a delimiter** when it is that delimiter and more text. -/
theorem delimiterAt?_eq_some_iff {text : List Char} {d : Delimiter} :
    delimiterAt? text = some d ↔ ∃ rest, text = d.chars ++ rest := by
  constructor
  · intro h
    have hprefix := List.find?_some h
    obtain ⟨rest, hrest⟩ := List.isPrefixOf_iff_prefix.1 hprefix
    exact ⟨rest, hrest.symm⟩
  · rintro ⟨rest, rfl⟩
    cases d <;> rfl

theorem delimiterAt?_eq_none {c : Char} {rest : List Char} (hopen : ∀ rest', c = '<' → rest = '[' :: rest' → False)
    (hclose : ∀ rest', c = ']' → rest = '>' :: rest' → False) : delimiterAt? (c :: rest) = none := by
  cases h : delimiterAt? (c :: rest) with
  | none => rfl
  | some d =>
    obtain ⟨more, hmore⟩ := delimiterAt?_eq_some_iff.1 h
    cases d <;> cases hmore
    · exact (hopen more rfl rfl).elim
    · exact (hclose more rfl rfl).elim

/-- **Looking at every place and jumping to the first delimiter find the same ones.** -/
theorem delimiters_eq (text : List Char) : ∀ byte : Nat, delimiters byte text =
    match firstDelimiter text with
    | (_, none) => []
    | (before, some (d, rest)) =>
      (byte + Text.utf8Length before, d) :: delimiters (byte + Text.utf8Length before + 2) rest := by
  fun_induction firstDelimiter text with
  | case1 => exact fun _ => rfl
  | case2 rest =>
    intro byte
    rfl
  | case3 rest =>
    intro byte
    rfl
  | case4 c rest hopen hclose before found h ih =>
    intro byte
    rw [delimiters_cons, delimiterAt?_eq_none hopen hclose, Option.map_none, Option.toList_none, List.nil_append, ih, h]
    cases found with
    | none => rfl
    | some p => simp only [Text.utf8Length, Nat.add_assoc]

theorem closesLater_eq (text : List Char) : ∀ byte : Nat,
    cutSegmentsFrom.closesLater text = (delimiters byte text).any (·.2 = .closing) := by
  fun_induction cutSegmentsFrom.closesLater text with
  | case1 rest => exact fun _ => rfl
  | case2 c rest hclose ih =>
    intro byte
    rw [ih (byte + c.utf8Size), delimiters_cons, List.any_append]
    cases h : delimiterAt? (c :: rest) with
    | none => rfl
    | some d =>
      cases d with
      | opening => rfl
      | closing =>
        obtain ⟨more, hmore⟩ := delimiterAt?_eq_some_iff.1 h
        cases hmore
        exact (hclose more rfl rfl).elim
  | case3 => exact fun _ => rfl

/-! ### Cutting a text -/

theorem countP_mandatoryPart (body : List Char) : (mandatoryPart body).countP (·.isOptional) = 0 := by
  unfold mandatoryPart
  split <;> rfl

/-- **Cutting a text counts its pairs**, or fails for what breaks the first one that is not complete. -/
theorem cutSegmentsFrom_eq (offset : Nat) (text : List Char) :
    (cutSegmentsFrom offset text).map (fun parts => parts.countP (·.isOptional)) =
      countPairs (delimiters offset text) := by
  fun_induction cutSegmentsFrom offset text with
  | case1 offset text before h =>
    rw [delimiters_eq, h]
    simp only [Except.map, countP_mandatoryPart, countPairs]
  | case2 offset text before rest h =>
    rw [delimiters_eq, h]
    rfl
  | case3 offset text before inner h body rest h' ih =>
    have hbyte : offset + Text.utf8Length before + 2 + Text.utf8Length body + 2 =
        offset + Text.utf8Length before + Text.utf8Length body + 4 := by omega
    rw [delimiters_eq, h]
    simp only
    rw [delimiters_eq, h']
    simp only
    rw [countPairs, hbyte, ← ih]
    cases cutSegmentsFrom (offset + Text.utf8Length before + Text.utf8Length body + 4) rest with
    | error e => rfl
    | ok parts =>
      simp only [Except.map, List.countP_append, countP_mandatoryPart, List.countP_cons_of_pos, Nat.zero_add]
  | case4 offset text before inner h body more h' hlater =>
    rw [delimiters_eq, h]
    simp only
    rw [delimiters_eq, h']
    simp only
    rw [countPairs, List.any_cons, ← closesLater_eq, hlater]
    · rfl
    · simp
  | case5 offset text before inner h body more h' hlater =>
    rw [delimiters_eq, h]
    simp only
    rw [delimiters_eq, h']
    simp only
    rw [countPairs, List.any_cons, ← closesLater_eq, Bool.eq_false_iff.2 hlater]
    · rfl
    · simp
  | case6 offset text before inner h body h' =>
    rw [delimiters_eq, h]
    simp only
    rw [delimiters_eq, h']
    rfl

theorem Template.optionalCount_of_parse (marker : Char) (text : String) :
    (Template.parse marker text).map Template.optionalCount =
      (countPairs (delimiters 0 text.toList)).mapError .malformed := by
  have hcut := cutSegmentsFrom_eq 0 text.toList
  unfold Template.parse cutSegments
  cases hparts : cutSegmentsFrom 0 text.toList with
  | error fault =>
    rw [hparts] at hcut
    rw [← hcut]
    rfl
  | ok parts =>
    rw [hparts] at hcut
    rw [← hcut]
    simp only [Except.map, Template.optionalCount, List.countP_eq_length_filter, List.filter_map, List.length_map]
    rfl

/-- **A text is a template exactly when its delimiters come in pairs**, and has as many optional segments as there are
pairs; the fault of any other text is the first delimiter that breaks a pair. -/
theorem Template.parse_pairs (marker : Char) (text : String) :
    (∀ n, (∃ t, Template.parse marker text = .ok t ∧ t.optionalCount = n) ↔ Paired n (delimiters 0 text.toList)) ∧
      ∀ e, Template.parse marker text = .error e ↔
        ∃ fault, e = .malformed fault ∧ FirstFault (delimiters 0 text.toList) fault := by
  simp only [← countPairs_eq_ok_iff, ← countPairs_eq_error_iff]
  have hcount := Template.optionalCount_of_parse marker text
  cases hparse : Template.parse marker text with
  | error e =>
    cases hpairs : countPairs (delimiters 0 text.toList) with
    | error fault =>
      rw [hparse, hpairs] at hcount
      cases hcount
      exact ⟨fun n => by simp, fun e => by simp [eq_comm]⟩
    | ok n =>
      rw [hparse, hpairs] at hcount
      cases hcount
  | ok t =>
    cases hpairs : countPairs (delimiters 0 text.toList) with
    | error fault =>
      rw [hparse, hpairs] at hcount
      cases hcount
    | ok n =>
      rw [hparse, hpairs] at hcount
      cases hcount
      exact ⟨fun n => by simp, fun e => by simp⟩

example : Template.parse '#' "é<[>]>]>" = .error (.malformed (.unopened 7)) := by cbv

end QueryRows
