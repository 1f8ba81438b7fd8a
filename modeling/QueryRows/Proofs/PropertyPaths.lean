import QueryRows.Fill.Path
import QueryRows.Template.ObjectSource
import QueryRows.Class.Builder
import QueryRows.Proofs.TokenName
import QueryRows.Proofs.Trimming
/-!
# PropertyPaths — a placeholder answers what the path of its name reads

A path is resolved on a class first and read from an object later; a placeholder walks through class and object at
once.  Both go the same way (`Class.Leads`, `reach?`), so where the path resolves the placeholder answers what it reads,
and where it does not the placeholder has no answer, unless an absent object ends the walk before
(`objectSource_agrees`).
-/
namespace QueryRows

/-- **Names lead through a class**: each of them names a single nested property of the class that those before it lead
to. -/
inductive Class.Leads : Class → List String → List (Nested Class) → Class → Prop
  | here {c : Class} : Leads c [] [] c
  | into {c d : Class} {name : String} {names : List String} {n : Nested Class} {hops : List (Nested Class)} :
    c.nested? name = some n → n.isCollection = false → Leads n.type names hops d →
      Leads c (name :: names) (n :: hops) d

/-- The object that hops lead to, if there is one at each of them. -/
def reach? : List (Nested Class) → Obj → Option Obj
  | [], o => some o
  | n :: hops, o => (n.read? o).bind (reach? hops)

/-- **The walk meets an absent object**: the hops before one of them lead to an object without it. -/
def HopAbsent (hops : List (Nested Class)) (o : Obj) : Prop :=
  ∃ before n after x, hops = before ++ n :: after ∧ reach? before o = some x ∧ n.read? x = none

/-- A segment with `rest` behind it does not resolve on a class: as the last one it names no getter, and before others
it names no single nested property. -/
def Class.Refuses (c : Class) (name : String) (rest : List String) : Prop :=
  if rest = [] then c.gettersFor name = [] else ∀ n, c.nested? name = some n → n.isCollection = true

/-- **Segments stop after hops**: those lead to a class on which the next segment does not resolve. -/
def Class.StopsAfter (c : Class) (segments : List String) (hops : List (Nested Class)) : Prop :=
  ∃ names name rest d, segments = names ++ name :: rest ∧ c.Leads names hops d ∧ d.Refuses name rest

/-- **What a path answers from an object**: the value it reads, which counts as the getter's unless a hop is absent, or
nothing when it cannot be read. -/
structure FieldPath.AnsweredBy (p : FieldPath) (o : Obj) (answer : Lookup) : Prop where
  present : ∀ v, p.read o = .ok v → ¬ HopAbsent p.hops o → answer = .found v p.getter.nullable
  absent : ∀ v, p.read o = .ok v → HopAbsent p.hops o → answer = .found v true
  missing : ∀ e, p.read o = .error e → answer = .missing

/-- The segments of a placeholder's name. -/
def segmentsOf (token : String) : List String := (Text.split '.' token.toList).map String.ofList

/-! ### The segments of a name -/

theorem mem_of_mem_split {sep c : Char} : ∀ {cs part : List Char}, part ∈ Text.split sep cs → c ∈ part → c ∈ cs
  | [], part, hpart, hc => by
    rw [Text.split, List.mem_singleton] at hpart
    rwa [hpart] at hc
  | d :: cs, part, hpart, hc => by
    rw [Text.split] at hpart
    split at hpart
    · rcases List.mem_cons.1 hpart with rfl | hpart
      · cases hc
      · exact List.mem_cons_of_mem d (mem_of_mem_split hpart hc)
    · split at hpart
      · rename_i hnil
        exact absurd hnil (Text.split_ne_nil sep cs)
      · rename_i first parts hsplit
        rcases List.mem_cons.1 hpart with rfl | hpart
        · rcases List.mem_cons.1 hc with rfl | hc
          · exact List.mem_cons_self
          · exact List.mem_cons_of_mem d (mem_of_mem_split (by rw [hsplit]; exact List.mem_cons_self) hc)
        · exact List.mem_cons_of_mem d (mem_of_mem_split (by rw [hsplit]; exact List.mem_cons_of_mem first hpart) hc)

theorem toNat_of_isIdentifierPart {c : Char} (h : isIdentifierPart c = true) :
    (((65 ≤ c.toNat ∧ c.toNat ≤ 90) ∨ (97 ≤ c.toNat ∧ c.toNat ≤ 122)) ∨ (48 ≤ c.toNat ∧ c.toNat ≤ 57)) ∨ c = '_' := by
  change (((decide (c.val ≥ 65 ∧ c.val ≤ 90) || (decide (c.val ≥ 97) && decide (c.val ≤ 122))) ||
    (decide (c.val ≥ 48) && decide (c.val ≤ 57))) || c == '_') = true at h
  simp only [Bool.or_eq_true, Bool.and_eq_true, decide_eq_true_eq, ge_iff_le, UInt32.le_iff_toNat_le, beq_iff_eq] at h
  exact h

theorem isBlank_of_isIdentifierPart {c : Char} (h : isIdentifierPart c = true) : Text.isBlank c = false := by
  rcases toNat_of_isIdentifierPart h with h | rfl
  · simp only [Text.isBlank, Bool.or_eq_false_iff, Bool.and_eq_false_iff, decide_eq_false_iff_not, beq_eq_false_iff_ne]
    omega
  · rfl

theorem TokenName.part_or_dot {name : List Char} (h : TokenName name) :
    ∀ c ∈ name, isIdentifierPart c = true ∨ c = '.' := by
  induction h with
  | identifier hid => exact fun c hc => .inl (hid.part_of_mem c hc)
  | dotted hid _ ih =>
    intro c hc
    rcases List.mem_append.1 hc with hc | hc
    · exact .inl (hid.part_of_mem c hc)
    · rcases List.mem_cons.1 hc with rfl | hc
      · exact .inr rfl
      · exact ih c hc

/-- **Without blanks there is nothing to trim**: a path has the segments of a placeholder. -/
theorem pathSegments_of_no_blank {path : String} (h : ∀ c ∈ path.toList, Text.isBlank c = false) :
    pathSegments path = segmentsOf path := by
  refine List.map_congr_left fun part hpart => ?_
  rw [Text.trim_eq_self fun c hc => h c (mem_of_mem_split hpart hc)]

/-- **A name has no blanks to trim**, so its path has the segments of its placeholder. -/
theorem pathSegments_eq {token : String} (h : TokenName token.toList) : pathSegments token = segmentsOf token := by
  refine pathSegments_of_no_blank fun c hc => ?_
  rcases h.part_or_dot c hc with hc | rfl
  · exact isBlank_of_isIdentifierPart hc
  · rfl

/-! ### Walking -/

theorem reach?_eq_none_iff : ∀ {hops : List (Nested Class)} {o : Obj}, reach? hops o = none ↔ HopAbsent hops o
  | [], o => by
    constructor
    · intro h
      cases h
    · rintro ⟨before, n, after, x, hhops, -⟩
      cases before <;> cases hhops
  | n :: hops, o => by
    rw [reach?]
    constructor
    · intro h
      cases hread : n.read? o with
      | none => exact ⟨[], n, hops, o, rfl, rfl, hread⟩
      | some x =>
        rw [hread, Option.bind_some] at h
        obtain ⟨before, m, after, y, rfl, hbefore, hm⟩ := reach?_eq_none_iff.1 h
        exact ⟨n :: before, m, after, y, rfl, by rw [reach?, hread, Option.bind_some, hbefore], hm⟩
    · rintro ⟨before, m, after, x, hhops, hbefore, hm⟩
      cases before with
      | nil =>
        cases hhops
        cases hbefore
        rw [hm, Option.bind_none]
      | cons b before =>
        cases hhops
        rw [reach?] at hbefore
        obtain ⟨y, hy, hbefore⟩ := Option.bind_eq_some_iff.1 hbefore
        rw [hy, Option.bind_some]
        exact reach?_eq_none_iff.2 ⟨before, m, after, x, rfl, hbefore, hm⟩

theorem readThrough_eq (g : Getter) : ∀ (hops : List (Nested Class)) (o : Obj),
    readThrough g hops o = match reach? hops o with
      | some x => g.read x
      | none => .ok .null
  | [], _ => rfl
  | n :: hops, o => by
    rw [readThrough, reach?]
    cases n.read? o with
    | none => rfl
    | some x => exact readThrough_eq g hops x

/-- **A placeholder follows the hops**, up to the first one that is absent. -/
theorem Class.Leads.lookupProperty_eq {c d : Class} {names : List String} {hops : List (Nested Class)}
    (h : c.Leads names hops d) (name : String) (rest : List String) : ∀ o : Obj,
    lookupProperty c o (names ++ name :: rest) = match reach? hops o with
      | some x => lookupProperty d x (name :: rest)
      | none => .found .null true := by
  induction h with
  | here => exact fun _ => rfl
  | @into c d hop names n hops hnested hsingle _ ih =>
    intro o
    have hmore : names ++ name :: rest ≠ [] := by simp
    rw [List.cons_append, lookupProperty, reach?]
    · simp only [hnested, hsingle, Bool.false_eq_true, if_false]
      cases n.read? o with
      | none => rfl
      | some x => exact ih x
    · exact hmore

/-- **Segments resolve along hops** to a getter of the class that these lead to. -/
theorem leads_of_resolveSegments : ∀ {segments : List String} {c : Class} {hops : List (Nested Class)} {g : Getter},
    resolveSegments c segments = some (hops, g) →
      ∃ names name d, segments = names ++ [name] ∧ c.Leads names hops d ∧ (d.gettersFor name).head? = some g
  | [], _, _, _, h => by cases h
  | [name], c, hops, g, h => by
    obtain ⟨g', hg, heq⟩ := Option.map_eq_some_iff.1 h
    cases heq
    exact ⟨[], name, c, rfl, .here, hg⟩
  | hop :: next :: rest, c, hops, g, h => by
    rw [resolveSegments] at h
    · split at h
      · cases h
      · rename_i n hnested
        split at h
        · cases h
        · rename_i hsingle
          obtain ⟨⟨hops', g'⟩, hrest, heq⟩ := Option.map_eq_some_iff.1 h
          cases heq
          obtain ⟨names, name, d, hsegments, hleads, hg⟩ := leads_of_resolveSegments hrest
          exact ⟨hop :: names, name, d, by rw [hsegments]; rfl, .into hnested (by simpa using hsingle) hleads, hg⟩
    · simp

/-- **Segments that do not resolve stop** at one of them. -/
theorem stopsAfter_of_resolveSegments : ∀ {segments : List String} {c : Class}, segments ≠ [] →
    resolveSegments c segments = none → ∃ hops, c.StopsAfter segments hops
  | [], _, hne, _ => absurd rfl hne
  | [name], c, _, h => by
    rw [resolveSegments, Option.map_eq_none_iff, List.head?_eq_none_iff] at h
    exact ⟨[], [], name, [], c, rfl, .here, h⟩
  | hop :: next :: rest, c, _, h => by
    rw [resolveSegments] at h
    · have hstop (hrefuses : ∀ n, c.nested? hop = some n → n.isCollection = true) :
          ∃ hops, c.StopsAfter (hop :: next :: rest) hops := ⟨[], [], hop, next :: rest, c, rfl, .here, hrefuses⟩
      split at h
      · rename_i hnested
        exact hstop fun n hn => by rw [hnested] at hn; cases hn
      · rename_i n hnested
        split at h
        · rename_i hcollection
          exact hstop fun m hm => by rw [hnested] at hm; cases hm; exact hcollection
        · rename_i hsingle
          rw [Option.map_eq_none_iff] at h
          obtain ⟨hops, names, name, rest', d, hsegments, hleads, hrefuses⟩ :=
            stopsAfter_of_resolveSegments (List.cons_ne_nil _ _) h
          exact ⟨n :: hops, hop :: names, name, rest', d, by rw [hsegments]; rfl,
            .into hnested (by simpa using hsingle) hleads, hrefuses⟩
    · simp

theorem Class.Refuses.lookupProperty_eq {c : Class} {name : String} {rest : List String} (h : c.Refuses name rest)
    (o : Obj) : lookupProperty c o (name :: rest) = .missing := by
  cases rest with
  | nil =>
    rw [Refuses, if_pos rfl] at h
    simp [lookupProperty, h]
  | cons next rest =>
    rw [Refuses, if_neg (List.cons_ne_nil _ _)] at h
    cases hnested : c.nested? name with
    | none => simp [lookupProperty, hnested]
    | some n => simp [lookupProperty, hnested, h n hnested]

theorem lookupProperty_of_getter {c : Class} {name : String} {g : Getter} (h : (c.gettersFor name).head? = some g)
    (o : Obj) : lookupProperty c o [name] = match g.read o with
      | .ok v => .found v g.nullable
      | .error _ => .missing := by
  cases hread : g.read o <;> simp [lookupProperty, h, hread]

/-! ### Placeholders and paths -/

/-- **Where the path of a name resolves, its placeholder answers what the path reads.** -/
theorem answeredBy_of_resolve? {c : Class} {token : String} {p : FieldPath} (h : TokenName token.toList)
    (hp : FieldPath.resolve? c token = some p) (o : Obj) : p.AnsweredBy o (objectSource c o token) := by
  rw [FieldPath.resolve?, pathSegments_eq h] at hp
  obtain ⟨⟨hops, g⟩, hresolve, rfl⟩ := Option.map_eq_some_iff.1 hp
  obtain ⟨names, name, d, hsegments, hleads, hg⟩ := leads_of_resolveSegments hresolve
  have hanswer : objectSource c o token = lookupProperty c o (names ++ [name]) := by rw [← hsegments]; rfl
  have hread : FieldPath.read ⟨token, hops, g⟩ o = readThrough g hops o := rfl
  rw [hanswer, hleads.lookupProperty_eq name []]
  rw [readThrough_eq] at hread
  cases hreach : reach? hops o with
  | none =>
    rw [hreach] at hread
    have habsent : HopAbsent hops o := reach?_eq_none_iff.1 hreach
    refine ⟨fun v _ hpresent => absurd habsent hpresent, fun v hv _ => ?_, fun e he => ?_⟩
    · rw [hread] at hv
      cases hv
      rfl
    · rw [hread] at he
      cases he
  | some x =>
    rw [hreach] at hread
    have hpresent : ¬ HopAbsent hops o := fun habsent => by rw [reach?_eq_none_iff.2 habsent] at hreach; cases hreach
    simp only at hread ⊢
    rw [lookupProperty_of_getter hg, ← hread]
    exact ⟨fun v hv _ => by rw [hv], fun v _ habsent => absurd habsent hpresent, fun e he => by rw [he]⟩

/-- **Where a name stops, its placeholder has no answer**, unless the walk meets an absent object before. -/
theorem lookupProperty_of_stopsAfter {c : Class} {segments : List String} {hops : List (Nested Class)}
    (h : c.StopsAfter segments hops) (o : Obj) :
    (HopAbsent hops o → lookupProperty c o segments = .found .null true) ∧
      (¬ HopAbsent hops o → lookupProperty c o segments = .missing) := by
  obtain ⟨names, name, rest, d, rfl, hleads, hrefuses⟩ := h
  rw [hleads.lookupProperty_eq name rest, ← reach?_eq_none_iff]
  cases reach? hops o with
  | none => exact ⟨fun _ => rfl, fun hpresent => absurd rfl hpresent⟩
  | some x => exact ⟨fun habsent => (Option.some_ne_none x habsent).elim, fun _ => hrefuses.lookupProperty_eq x⟩

theorem segmentsOf_ne_nil (token : String) : segmentsOf token ≠ [] := by
  simp [segmentsOf, Text.split_ne_nil]

/-- **A placeholder agrees with the path of its name.**  Where the path resolves, the placeholder answers what it reads:
the value, as one that is never null where the getter says so and every hop is present, or nothing where it cannot be
read.  Where the path does not resolve, its segments stop somewhere, and the placeholder is a null that stands for none
when an object on the way there is absent, and missing otherwise. -/
theorem objectSource_agrees (c : Class) (o : Obj) {token : String} (h : TokenName token.toList) :
    (∀ p, FieldPath.resolve? c token = some p → p.AnsweredBy o (objectSource c o token)) ∧
      (FieldPath.resolve? c token = none →
        (∃ hops, c.StopsAfter (segmentsOf token) hops) ∧
        ∀ hops, c.StopsAfter (segmentsOf token) hops →
          (HopAbsent hops o → objectSource c o token = .found .null true) ∧
            (¬ HopAbsent hops o → objectSource c o token = .missing)) := by
  refine ⟨fun p hp => answeredBy_of_resolve? h hp o, fun hnone => ⟨?_, fun hops hstop => ?_⟩⟩
  · rw [FieldPath.resolve?, pathSegments_eq h, Option.map_eq_none_iff] at hnone
    exact stopsAfter_of_resolveSegments (segmentsOf_ne_nil token) hnone
  · exact lookupProperty_of_stopsAfter hstop o

/-! ### Persons and their homes -/

def townClass : Class := (Class.ofEntity "Town" 1).withGetter "name" .text false "name" (.text "Ur")

def personClass : Class :=
  ((Class.ofEntity "Person" 0).withNested "home" townClass (.entity 1) (.single 0)).withNested "visits" townClass
    (.entity 1) (.collection .list 0)

def homeHop : Nested Class := ⟨"home", townClass, .entity 0, .entity 1, .single 0⟩

/-- A person with a home, in a town whose name is never null. -/
def settledPerson : Obj := .entity ((Entity.blank 0).setOne 0 townClass.instantiate)

/-- The name of a home is its town's, or a null while there is no home.  A mayor, whom no town has, is missing, but for
a person without a home it is a null as well. -/
theorem objectSource_agrees_home :
    TokenName "home.name".toList ∧ TokenName "home.mayor".toList ∧
      ¬ HopAbsent [homeHop] settledPerson ∧ HopAbsent [homeHop] personClass.instantiate ∧
      (∃ p, FieldPath.resolve? personClass "home.name" = some p ∧ p.hops = [homeHop] ∧
        p.read settledPerson = .ok (.text "Ur") ∧
        objectSource personClass settledPerson "home.name" = .found (.text "Ur") false ∧
        p.read personClass.instantiate = .ok .null ∧
        objectSource personClass personClass.instantiate "home.name" = .found .null true) ∧
      FieldPath.resolve? personClass "home.mayor" = none ∧
      personClass.StopsAfter (segmentsOf "home.mayor") [homeHop] ∧
      objectSource personClass settledPerson "home.mayor" = .missing ∧
      objectSource personClass personClass.instantiate "home.mayor" = .found .null true := by
  have hname : TokenName "home.name".toList :=
    tokenName_of_takeName? (by rfl : takeName? "home.name".toList = some ("home.name".toList, []))
  have hmayor : TokenName "home.mayor".toList :=
    tokenName_of_takeName? (by rfl : takeName? "home.mayor".toList = some ("home.mayor".toList, []))
  have hhere : ¬ HopAbsent [homeHop] settledPerson := fun habsent => by cases reach?_eq_none_iff.2 habsent
  have hnowhere : HopAbsent [homeHop] personClass.instantiate := reach?_eq_none_iff.1 rfl
  have hnone : FieldPath.resolve? personClass "home.mayor" = none := by rfl
  have hstop : personClass.StopsAfter (segmentsOf "home.mayor") [homeHop] :=
    ⟨["home"], "mayor", [], townClass, rfl, .into rfl rfl .here, rfl⟩
  refine ⟨hname, hmayor, hhere, hnowhere, ⟨_, rfl, rfl, rfl, ?_, rfl, ?_⟩, hnone, hstop, ?_, ?_⟩
  · exact ((objectSource_agrees personClass settledPerson hname).1 _ rfl).present _ rfl hhere
  · exact ((objectSource_agrees personClass personClass.instantiate hname).1 _ rfl).absent _ rfl hnowhere
  · exact (((objectSource_agrees personClass settledPerson hmayor).2 hnone).2 _ hstop).2 hhere
  · exact (((objectSource_agrees personClass personClass.instantiate hmayor).2 hnone).2 _ hstop).1 hnowhere

end QueryRows
