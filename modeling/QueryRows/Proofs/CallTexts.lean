import Mathlib.Data.List.Forall2
import QueryRows.Fill.Compile
import QueryRows.Proofs.Results
import QueryRows.Proofs.Trimming
/-!
# CallTexts — which texts are calls

A filler is read as a call exactly when it is one but for blanks: the name of an operation, then between parentheses
that hold no other the arguments between commas, none of them blank (`parse_eq_ok_iff`).  A name is a letter or
underscore with letters, numbers and underscores behind it, so it has no blanks of its own, and however blanks are put
around it, the arguments and the whole, a call that is written out is read back (`isCall_of_written`).
-/
namespace QueryRows

open Text (isBlank isAlphabetic isAlphanumeric trim Padded)

/-- A letter or underscore, then letters, numbers and underscores. -/
def OperationName : List Char → Prop
  | [] => False
  | c :: cs => (isAlphabetic c = true ∨ c = '_') ∧ ∀ d ∈ cs, isAlphanumeric d = true ∨ d = '_'

/-- **The arguments in the body of a call**: none if it is blank, else its parts between commas without the blanks around
them, of which none is blank. -/
inductive ArgumentsOf : List Char → List String → Prop
  | none {body : List Char} : (∀ c ∈ body, isBlank c = true) → ArgumentsOf body []
  | some {parts : List (List Char)} : parts ≠ [] → (∀ part ∈ parts, ',' ∉ part) → (∀ part ∈ parts, trim part ≠ []) →
      ArgumentsOf ([','].intercalate parts) (parts.map fun part => String.ofList (trim part))

/-- **A text is a call** of an operation with arguments. -/
def IsCall (text : List Char) (call : Call) : Prop :=
  ∃ head body, trim text = head ++ '(' :: (body ++ [')']) ∧ '(' ∉ head ∧ trim head = call.name.toList ∧
    OperationName call.name.toList ∧ '(' ∉ body ∧ ')' ∉ body ∧ ArgumentsOf body call.args

/-! ### Reading a call -/

theorem isOperationName_iff {cs : List Char} : isOperationName cs = true ↔ OperationName cs := by
  cases cs <;> simp [isOperationName, OperationName]

theorem beforeClosing?_eq_some_iff {body : List Char} : ∀ {cs : List Char},
    beforeClosing? cs = some body ↔ cs = body ++ [')']
  | [] => by simp [beforeClosing?]
  | [c] => by
    by_cases h : c = ')'
    · subst h
      cases body <;> simp [beforeClosing?]
    · cases body <;> simp [beforeClosing?, h]
  | c :: d :: cs => by
    rw [beforeClosing?, Option.map_eq_some_iff]
    · constructor
      · rintro ⟨rest, hrest, rfl⟩
        rw [beforeClosing?_eq_some_iff.1 hrest, List.cons_append]
      · intro h
        cases body with
        | nil => cases h
        | cons b body =>
          obtain ⟨rfl, hrest⟩ := List.cons.inj h
          exact ⟨body, beforeClosing?_eq_some_iff.2 hrest, rfl⟩
    · rintro ⟨⟩

theorem any_parenthesis_eq_false {body : List Char} :
    (body.any fun c => c == '(' || c == ')') = false ↔ '(' ∉ body ∧ ')' ∉ body := by
  simp only [List.any_eq_false, Bool.or_eq_true, beq_iff_eq, not_or]
  constructor
  · exact fun h => ⟨fun hm => (h _ hm).1 rfl, fun hm => (h _ hm).2 rfl⟩
  · rintro ⟨hopen, hclose⟩ c hc
    exact ⟨fun heq => hopen (heq ▸ hc), fun heq => hclose (heq ▸ hc)⟩

theorem callArguments_iff {body : List Char} {args : List String} :
    (callArguments body).any (·.isEmpty) = false ∧ (callArguments body).map String.ofList = args ↔
      ArgumentsOf body args := by
  unfold callArguments
  by_cases hblank : trim body = []
  · have hall := Text.trim_eq_nil_iff.1 hblank
    simp only [hblank, List.isEmpty_nil, if_true, List.any_nil, List.map_nil, true_and]
    constructor
    · rintro rfl
      exact .none hall
    · intro h
      cases h with
      | none => rfl
      | @some parts hne hcomma hfull =>
        -- the first part would be blank as the whole is
        cases parts with
        | nil => exact absurd rfl hne
        | cons part parts =>
          have hpart : ∀ c ∈ part, isBlank c = true := fun c hc => hall c (by cases parts <;> simp [hc])
          exact absurd (Text.trim_eq_nil_iff.2 hpart) (hfull part List.mem_cons_self)
  · have hfull : (trim body).isEmpty = false := by simpa using hblank
    simp only [hfull, Bool.false_eq_true, if_false, List.any_map, List.any_eq_false, Function.comp_apply,
      List.isEmpty_iff, List.map_map]
    constructor
    · rintro ⟨hparts, rfl⟩
      have h := ArgumentsOf.some (Text.split_ne_nil ',' body) (Text.not_mem_of_mem_split ',' body) hparts
      rwa [Text.intercalate_split] at h
    · intro h
      cases h with
      | none hall => exact absurd (Text.trim_eq_nil_iff.2 hall) hblank
      | @some parts hne hcomma hparts =>
        rw [Text.split_intercalate hne hcomma]
        exact ⟨hparts, rfl⟩

/-- **A text is read as a call exactly when it is one.** -/
theorem parse_eq_ok_iff {text : List Char} {call : Call} : Call.parse text = .ok call ↔ IsCall text call := by
  unfold Call.parse
  constructor
  · intro h
    split at h
    · cases h
    rename_i head tail hopen
    split at h
    · cases h
    rename_i body hclose
    obtain ⟨htrim, hhead⟩ := Text.splitOnce_eq_some_iff.1 hopen
    rw [beforeClosing?_eq_some_iff.1 hclose] at htrim
    dsimp only at h
    split at h
    · cases h
    rename_i hname
    split at h
    · cases h
    rename_i hparens
    split at h
    · cases h
    rename_i hargs
    cases h
    have hname : OperationName (trim head) := isOperationName_iff.1 (by simpa using hname)
    obtain ⟨hnoOpen, hnoClose⟩ := any_parenthesis_eq_false.1 (Bool.eq_false_iff.2 hparens)
    refine ⟨head, body, htrim, hhead, String.toList_ofList.symm, by rwa [String.toList_ofList], hnoOpen, hnoClose, ?_⟩
    exact callArguments_iff.1 ⟨Bool.eq_false_iff.2 hargs, rfl⟩
  · rintro ⟨head, body, htrim, hhead, hname, hop, hnoOpen, hnoClose, hargs⟩
    have hopen := Text.splitOnce_eq_some_iff.2 ⟨htrim, hhead⟩
    have hclose : beforeClosing? (body ++ [')']) = some body := beforeClosing?_eq_some_iff.2 rfl
    have hparens := any_parenthesis_eq_false.2 ⟨hnoOpen, hnoClose⟩
    obtain ⟨hempty, hmap⟩ := callArguments_iff.2 hargs
    simp only [hopen, hclose, hname, isOperationName_iff.2 hop, hparens, hempty, hmap, Bool.not_true, Bool.false_eq_true,
      if_false, String.ofList_toList]

/-! ### Writing a call -/

/-- A text that may stand as an argument. -/
structure IsArgument (arg : String) : Prop where
  trimmed : trim arg.toList = arg.toList
  ne_nil : arg.toList ≠ []
  no_comma : ',' ∉ arg.toList
  no_open : '(' ∉ arg.toList
  no_close : ')' ∉ arg.toList

/-- Arguments written one after the other, with blanks around each; no argument at all may be written as blanks. -/
inductive WritesArguments : List String → List Char → Prop
  | none {body : List Char} : (∀ c ∈ body, isBlank c = true) → WritesArguments [] body
  | some {args : List String} {parts : List (List Char)} : args ≠ [] →
      List.Forall₂ (fun arg part => Padded arg.toList part) args parts → WritesArguments args ([','].intercalate parts)

/-- **A call written out**, with blanks around its name, its arguments and the whole. -/
def WritesCall (call : Call) (text : List Char) : Prop :=
  ∃ head body, Padded call.name.toList head ∧ WritesArguments call.args body ∧
    Padded (head ++ '(' :: (body ++ [')'])) text

/-- The code points of the blanks. -/
def blankPoints : List Nat :=
  List.range' 9 5 ++ [0x20, 0x85, 0xA0, 0x1680] ++ List.range' 0x2000 11 ++ [0x2028, 0x2029, 0x202F, 0x205F, 0x3000]

theorem mem_blankPoints {c : Char} (h : isBlank c = true) : c.toNat ∈ blankPoints := by
  simp only [isBlank, Bool.or_eq_true, Bool.and_eq_true, decide_eq_true_eq, beq_iff_eq] at h
  simp only [blankPoints, List.mem_append, List.mem_range'_1, List.mem_cons, List.not_mem_nil, or_false]
  omega

/-- **No letter or number is a blank.** -/
theorem isBlank_of_isAlphanumeric {c : Char} (h : isAlphanumeric c = true) : isBlank c = false := by
  have hnone : ∀ n ∈ blankPoints, isAlphanumeric (Char.ofNat n) = false := by decide +kernel
  by_contra hblank
  have hpoint := hnone c.toNat (mem_blankPoints (by simpa using hblank))
  rw [Char.ofNat_toNat, h] at hpoint
  cases hpoint

theorem isAlphanumeric_of_isAlphabetic {c : Char} (h : isAlphabetic c = true) : isAlphanumeric c = true := by
  unfold isAlphabetic at h
  unfold isAlphanumeric
  split at h
  · rename_i hascii
    simp [hascii, Char.isAlphanum, h]
  · rename_i hascii
    simp [hascii, h]

theorem OperationName.part {cs : List Char} (h : OperationName cs) :
    ∀ c ∈ cs, isAlphanumeric c = true ∨ c = '_' := by
  cases cs with
  | nil => exact h.elim
  | cons d ds =>
    intro c hc
    rcases List.mem_cons.1 hc with rfl | hc
    · exact h.1.imp_left isAlphanumeric_of_isAlphabetic
    · exact h.2 c hc

theorem OperationName.not_blank {cs : List Char} (h : OperationName cs) : ∀ c ∈ cs, isBlank c = false := by
  intro c hc
  rcases h.part c hc with hc | rfl
  · exact isBlank_of_isAlphanumeric hc
  · decide

theorem OperationName.no_open {cs : List Char} (h : OperationName cs) : '(' ∉ cs := by
  intro hc
  rcases h.part _ hc with hc | hc
  · exact absurd hc (by decide)
  · exact absurd hc (by decide)

theorem mem_of_mem_padded {cs padded : List Char} {c : Char} (h : Padded cs padded) (hc : c ∈ padded) :
    isBlank c = true ∨ c ∈ cs := by
  obtain ⟨front, back, hfront, hback, rfl⟩ := h
  rw [List.mem_append, List.mem_append] at hc
  rcases hc with (hc | hc) | hc
  · exact .inl (hfront c hc)
  · exact .inr hc
  · exact .inl (hback c hc)

theorem not_mem_of_padded {cs padded : List Char} {c : Char} (h : Padded cs padded) (hblank : isBlank c = false)
    (hc : c ∉ cs) : c ∉ padded := by
  intro hm
  rcases mem_of_mem_padded h hm with hb | hm
  · rw [hblank] at hb
    cases hb
  · exact hc hm

theorem IsArgument.of_padded {arg : String} {part : List Char} (harg : IsArgument arg) (h : Padded arg.toList part) :
    (',' ∉ part ∧ '(' ∉ part ∧ ')' ∉ part) ∧ trim part ≠ [] ∧ String.ofList (trim part) = arg := by
  have htrim : trim part = arg.toList := by rw [h.trim_eq, harg.trimmed]
  refine ⟨⟨?_, ?_, ?_⟩, by rw [htrim]; exact harg.ne_nil, by rw [htrim, String.ofList_toList]⟩
  · exact not_mem_of_padded h (by decide) harg.no_comma
  · exact not_mem_of_padded h (by decide) harg.no_open
  · exact not_mem_of_padded h (by decide) harg.no_close

theorem parts_of_written {args : List String} {parts : List (List Char)}
    (h : List.Forall₂ (fun arg part => Padded arg.toList part) args parts) (hargs : ∀ arg ∈ args, IsArgument arg) :
    (∀ part ∈ parts, (',' ∉ part ∧ '(' ∉ part ∧ ')' ∉ part) ∧ trim part ≠ []) ∧
      parts.map (fun part => String.ofList (trim part)) = args := by
  induction h with
  | nil => simp
  | @cons arg part args parts hpadded hrest ih =>
    obtain ⟨hmarks, hfull, harg⟩ := (hargs arg List.mem_cons_self).of_padded hpadded
    obtain ⟨hparts, hmap⟩ := ih fun a ha => hargs a (List.mem_cons_of_mem arg ha)
    exact ⟨List.forall_mem_cons.2 ⟨⟨hmarks, hfull⟩, hparts⟩, by rw [List.map_cons, harg, hmap]⟩

theorem argumentsOf_of_written {args : List String} {body : List Char} (h : WritesArguments args body)
    (hargs : ∀ arg ∈ args, IsArgument arg) : '(' ∉ body ∧ ')' ∉ body ∧ ArgumentsOf body args := by
  cases h with
  | none hblank =>
    have hnot : ∀ c, isBlank c = false → c ∉ body := fun c hc hm => by
      rw [hblank c hm] at hc
      cases hc
    exact ⟨hnot _ (by decide), hnot _ (by decide), .none hblank⟩
  | @some _ parts hne hwritten =>
    obtain ⟨hparts, hmap⟩ := parts_of_written hwritten hargs
    have hsome : parts ≠ [] := by
      rintro rfl
      exact hne hmap.symm
    refine ⟨fun hm => ?_, fun hm => ?_, ?_⟩
    · rcases Text.mem_of_mem_intercalate hm with hc | ⟨part, hpart, hc⟩
      · exact absurd hc (by decide)
      · exact (hparts part hpart).1.2.1 hc
    · rcases Text.mem_of_mem_intercalate hm with hc | ⟨part, hpart, hc⟩
      · exact absurd hc (by decide)
      · exact (hparts part hpart).1.2.2 hc
    · rw [← hmap]
      exact .some hsome (fun part hpart => (hparts part hpart).1.1) fun part hpart => (hparts part hpart).2

/-- **A call that is written out is one**, wherever the blanks are. -/
theorem isCall_of_written {call : Call} {text : List Char} (hname : OperationName call.name.toList)
    (hargs : ∀ arg ∈ call.args, IsArgument arg) (h : WritesCall call text) : IsCall text call := by
  obtain ⟨head, body, ⟨front, back, hfront, hback, rfl⟩, hbody, before, after, hbefore, hafter, rfl⟩ := h
  obtain ⟨hnoOpen, hnoClose, harguments⟩ := argumentsOf_of_written hbody hargs
  -- the blanks before the name go with those before the call
  have hname_padded : Padded call.name.toList (call.name.toList ++ back) := ⟨[], back, by simp, hback, by simp⟩
  have hcall : Padded (call.name.toList ++ back ++ '(' :: (body ++ [')']))
      (before ++ (front ++ call.name.toList ++ back ++ '(' :: (body ++ [')'])) ++ after) :=
    ⟨before ++ front, after, List.forall_mem_append.2 ⟨hbefore, hfront⟩, hafter, by simp⟩
  have hself : trim (call.name.toList ++ back ++ '(' :: (body ++ [')'])) =
      call.name.toList ++ back ++ '(' :: (body ++ [')']) := by
    refine Text.trim_eq_self_of_ends (fun c hc => ?_) fun c hc => ?_
    · obtain ⟨d, ds, hd⟩ : ∃ d ds, call.name.toList = d :: ds := by
        cases hs : call.name.toList with
        | nil => rw [hs] at hname; exact hname.elim
        | cons d ds => exact ⟨d, ds, rfl⟩
      have hdc : d = c := by simpa [hd] using hc
      exact hname.not_blank c (by simp [hd, hdc])
    · have hlast : call.name.toList ++ back ++ '(' :: (body ++ [')']) = (call.name.toList ++ back ++ '(' :: body) ++ [')'] := by
        simp
      rw [hlast, List.getLast?_concat] at hc
      cases hc
      decide
  refine ⟨call.name.toList ++ back, body, by rw [hcall.trim_eq, hself],
    not_mem_of_padded hname_padded (by decide) hname.no_open, ?_, hname, hnoOpen, hnoClose, harguments⟩
  rw [hname_padded.trim_eq, Text.trim_eq_self hname.not_blank]

theorem parseFiller_eq_ok_iff {spec : String} {call : Call} :
    parseFiller spec = .ok call ↔ IsCall spec.toList call := by
  rw [← parse_eq_ok_iff, parseFiller]
  cases Call.parse spec.toList <;> simp

theorem parseFiller_of_not_isCall {spec : String} (h : ∀ call, ¬ IsCall spec.toList call) :
    ∃ fault, parseFiller spec = .error (.invalidSpec spec fault) := by
  unfold parseFiller
  cases hp : Call.parse spec.toList with
  | error fault => exact ⟨fault, rfl⟩
  | ok call => exact absurd (parse_eq_ok_iff.1 hp) (h call)

/-- **Fillers are calls.**  A filler is read as a call exactly when it is one; every call of an operation with arguments
that is written out, with blanks around its name, its arguments and the whole, is read back; and every other filler is
refused as no valid call, by itself and for tables and rows alike. -/
theorem fillers_readBack :
    (∀ spec call, parseFiller spec = .ok call ↔ IsCall spec.toList call) ∧
    (∀ spec call, OperationName call.name.toList → (∀ arg ∈ call.args, IsArgument arg) →
      WritesCall call spec.toList → parseFiller spec = .ok call) ∧
    ∀ spec, (∀ call, ¬ IsCall spec.toList call) → ∃ fault, parseFiller spec = .error (.invalidSpec spec fault) ∧
      (∀ table row, compileTableFiller spec table row = .error (.invalidSpec spec fault)) ∧
      ∀ row, compileRowFiller spec row = .error (.invalidSpec spec fault) := by
  refine ⟨fun spec call => parseFiller_eq_ok_iff, fun spec call hname hargs h => ?_, fun spec h => ?_⟩
  · exact parseFiller_eq_ok_iff.2 (isCall_of_written hname hargs h)
  · obtain ⟨fault, hfault⟩ := parseFiller_of_not_isCall h
    refine ⟨fault, hfault, fun table row => ?_, fun row => ?_⟩
    · rw [compileTableFiller, hfault]
      rfl
    · rw [compileRowFiller, hfault]
      rfl

/-- Blanks in every place of a call with a letter beyond ASCII, and a parenthesis too many. -/
theorem fillers_readBack_put :
    OperationName "pút".toList ∧ (∀ arg ∈ ["row.id", "row"], IsArgument arg) ∧
      WritesCall ⟨"pút", ["row.id", "row"]⟩ "\tpút ( row.id,row\n) ".toList ∧
      parseFiller "\tpút ( row.id,row\n) " = .ok ⟨"pút", ["row.id", "row"]⟩ ∧
      ∃ fault, parseFiller "put(row))" = .error (.invalidSpec "put(row))" fault) := by
  have hname : OperationName "pút".toList := isOperationName_iff.1 (by decide +kernel)
  have hargs : ∀ arg ∈ ["row.id", "row"], IsArgument arg := by
    intro arg harg
    simp only [List.mem_cons, List.not_mem_nil, or_false] at harg
    rcases harg with rfl | rfl
    · exact ⟨by decide, by decide, by decide, by decide, by decide⟩
    · exact ⟨by decide, by decide, by decide, by decide, by decide⟩
  have hwrites : WritesCall ⟨"pút", ["row.id", "row"]⟩ "\tpút ( row.id,row\n) ".toList := by
    have hnil : [].all isBlank = true := rfl
    have htab : ['\t'].all isBlank = true := rfl
    have hspace : [' '].all isBlank = true := rfl
    have hfeed : ['\n'].all isBlank = true := rfl
    have hparts : List.Forall₂ (fun (arg : String) part => Padded arg.toList part) ["row.id", "row"]
        [" row.id".toList, "row\n".toList] :=
      .cons (Text.padded_of_all hspace hnil _) (.cons (Text.padded_of_all hnil hfeed _) .nil)
    exact ⟨"\tpút ".toList, " row.id,row\n".toList, Text.padded_of_all htab hspace _, .some (by decide) hparts,
      Text.padded_of_all hnil hspace "\tpút ( row.id,row\n)".toList⟩
  obtain ⟨hiff, hread, hrefused⟩ := fillers_readBack
  refine ⟨hname, hargs, hwrites, hread _ _ hname hargs hwrites, ?_⟩
  obtain ⟨fault, hfault, -⟩ := hrefused "put(row))" fun call hcall => by
    rw [← hiff] at hcall
    have hfails : parseFiller "put(row))" = .error (.invalidSpec "put(row))" .nestedCall) := by rfl
    rw [hfails] at hcall
    cases hcall
  exact ⟨fault, hfault⟩

end QueryRows
