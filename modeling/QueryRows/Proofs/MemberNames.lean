import QueryRows.Class.Builder
import QueryRows.Fill.Compile
import QueryRows.Proofs.PropertyPaths
/-!
# MemberNames — members are found by the key of their property

A setter is kept under its property's name in capitalised words, and looked up by a key without case and underscores.
Cutting a name into words loses its separators alone (`flatten_words`) and capitalising a word changes case alone, so
both names have one key (`memberKey_upperCamel`), and every spelling of a property with that key finds its setter and
its getter.  A field is looked up segment by segment (`compileFieldPlan_eq`), hence by the keys of its segments.
-/
namespace QueryRows

namespace Text

/-! ### Words -/

theorem flatten_alphanumericRuns : ∀ (cs run : List Char),
    (alphanumericRuns run cs).flatten = run.reverse ++ cs.filter isAlphanumeric
  | [], run => by simp [alphanumericRuns]
  | c :: cs, run => by
    unfold alphanumericRuns
    split
    · rename_i hc
      rw [flatten_alphanumericRuns cs (c :: run), List.reverse_cons, List.filter_cons_of_pos hc, List.append_assoc,
        List.singleton_append]
    · rename_i hc
      rw [List.flatten_cons, flatten_alphanumericRuns cs [], List.filter_cons_of_neg hc, List.reverse_nil,
        List.nil_append]

/-- Cutting keeps every character, from the first one of the current word on. -/
theorem flatten_cutWords (last : LastCase) (word cs : List Char) (h : cs ≠ []) :
    (cutWords last word cs).flatten = word.reverse ++ cs := by
  fun_induction cutWords last word cs with
  | case1 => exact absurd rfl h
  | case2 last word c => simp
  | case3 last word c next rest here hcut ih =>
    rw [List.flatten_cons, ih (List.cons_ne_nil _ _), List.reverse_cons, List.reverse_nil, List.nil_append,
      List.append_assoc, List.singleton_append]
  | case4 last word c next rest here hcut hcut' ih =>
    rw [List.flatten_cons, ih (List.cons_ne_nil _ _), List.reverse_singleton, List.singleton_append]
  | case5 last word c next rest here hcut hcut' ih =>
    rw [ih (List.cons_ne_nil _ _), List.reverse_cons, List.append_assoc, List.singleton_append]

/-- **The words of a name are its letters and digits**, in their order. -/
theorem flatten_words (name : List Char) : (words name).flatten = name.filter isAlphanumeric := by
  have hcut : ∀ run : List Char, (cutWords .none [] run).flatten = run := by
    intro run
    cases run with
    | nil => rfl
    | cons c cs => exact flatten_cutWords .none [] (c :: cs) (List.cons_ne_nil c cs)
  have hruns := flatten_alphanumericRuns name []
  rw [List.reverse_nil, List.nil_append] at hruns
  rw [← hruns, words]
  induction alphanumericRuns [] name with
  | nil => rfl
  | cons run runs ih => rw [List.flatMap_cons, List.flatten_append, hcut, ih, List.flatten_cons]

/-! ### ASCII characters in both cases -/

/-- The upper and the lower case of an ASCII character are ASCII, have the lower case of the character, and are
underscores only where it is one. -/
theorem asciiCases : ∀ n < 128, [(Char.ofNat n).toUpper, (Char.ofNat n).toLower].all fun d =>
    d.toNat < 128 ∧ d.toLower = (Char.ofNat n).toLower ∧ (d = '_' ↔ Char.ofNat n = '_') := by
  decide

theorem lowerChar_of_ascii {c : Char} (h : c.toNat < 128) : lowerChar c = [c.toLower] := if_pos h

theorem upperChar_of_ascii {c : Char} (h : c.toNat < 128) : upperChar c = [c.toUpper] := if_pos h

end Text

/-! ### Keys -/

/-- The key of a name that is given by its characters. -/
def keyOf (cs : List Char) : List Char := (cs.filter (· ≠ '_')).flatMap Text.lowerChar

theorem keyOf_append (cs ds : List Char) : keyOf (cs ++ ds) = keyOf cs ++ keyOf ds := by
  simp only [keyOf, List.filter_append, List.flatMap_append]

theorem keyOf_cons (c : Char) (cs : List Char) : keyOf (c :: cs) = keyOf [c] ++ keyOf cs := keyOf_append [c] cs

theorem memberKey_append (a b : String) : memberKey (a ++ b) = memberKey a ++ memberKey b := by
  have happend := keyOf_append a.toList b.toList
  rwa [← String.toList_append] at happend

/-- The case of an ASCII character does not count. -/
theorem keyOf_otherCase {c d : Char} (h : c.toNat < 128) (hd : d ∈ [c.toUpper, c.toLower]) : keyOf [d] = keyOf [c] := by
  have hcases := Text.asciiCases c.toNat h
  rw [Char.ofNat_toNat] at hcases
  obtain ⟨hascii, hlower, hunderscore⟩ := of_decide_eq_true (List.all_eq_true.1 hcases d hd)
  by_cases hu : c = '_'
  · rw [hunderscore.2 hu, hu]
  · have hu' : d ≠ '_' := fun he => hu (hunderscore.1 he)
    simp [keyOf, hu, hu', Text.lowerChar_of_ascii h, Text.lowerChar_of_ascii hascii, hlower]

theorem keyOf_toUpper {c : Char} (h : c.toNat < 128) : keyOf [c.toUpper] = keyOf [c] :=
  keyOf_otherCase h List.mem_cons_self

theorem keyOf_toLower {c : Char} (h : c.toNat < 128) : keyOf [c.toLower] = keyOf [c] :=
  keyOf_otherCase h (List.mem_cons_of_mem _ List.mem_cons_self)

theorem keyOf_lowerWord : ∀ {cs : List Char}, (∀ c ∈ cs, c.toNat < 128) → keyOf (Text.lowerWord cs) = keyOf cs
  | [], _ => rfl
  | [c], h => by
    have hc := h c List.mem_cons_self
    have hsigma : c ≠ 'Σ' := fun he => by
      rw [he] at hc
      exact absurd hc (by decide)
    rw [Text.lowerWord, if_neg hsigma, Text.lowerChar_of_ascii hc, keyOf_toLower hc]
  | c :: next :: cs, h => by
    obtain ⟨hc, hcs⟩ := List.forall_mem_cons.1 h
    rw [Text.lowerWord, Text.lowerChar_of_ascii hc, keyOf_append, keyOf_toLower hc, keyOf_lowerWord hcs,
      ← keyOf_cons]
    exact List.cons_ne_nil _ _

theorem keyOf_capitalize {cs : List Char} (h : ∀ c ∈ cs, c.toNat < 128) : keyOf (Text.capitalize cs) = keyOf cs := by
  cases cs with
  | nil => rfl
  | cons c cs =>
    obtain ⟨hc, hcs⟩ := List.forall_mem_cons.1 h
    rw [Text.capitalize, Text.upperChar_of_ascii hc, keyOf_append, keyOf_toUpper hc, keyOf_lowerWord hcs, ← keyOf_cons]

theorem keyOf_flatMap_capitalize : ∀ {ws : List (List Char)}, (∀ w ∈ ws, ∀ c ∈ w, c.toNat < 128) →
    keyOf (ws.flatMap Text.capitalize) = keyOf ws.flatten
  | [], _ => rfl
  | w :: ws, h => by
    obtain ⟨hw, hws⟩ := List.forall_mem_cons.1 h
    rw [List.flatMap_cons, List.flatten_cons, keyOf_append, keyOf_append, keyOf_capitalize hw,
      keyOf_flatMap_capitalize hws]

theorem ascii_of_isIdentifierPart {c : Char} (h : isIdentifierPart c = true) : c.toNat < 128 := by
  rcases toNat_of_isIdentifierPart h with h | rfl
  · omega
  · decide

theorem isAlphanumeric_of_isIdentifierPart {c : Char} (h : isIdentifierPart c = true) :
    Text.isAlphanumeric c = decide (c ≠ '_') := by
  rw [Text.isAlphanumeric, if_pos (ascii_of_isIdentifierPart h)]
  by_cases hu : c = '_'
  · rw [hu]
    rfl
  · simpa [isIdentifierPart, hu] using h

/-- **A property's name in capitalised words has the key of the property**: no character of it is lost, added or moved
but underscores, which do not count. -/
theorem memberKey_upperCamel {property : String} (h : ∀ c ∈ property.toList, isIdentifierPart c = true) :
    memberKey (Text.upperCamel property) = memberKey property := by
  have hwords : ∀ w ∈ Text.words property.toList, ∀ c ∈ w, c.toNat < 128 := by
    intro w hw c hc
    have hmem : c ∈ (Text.words property.toList).flatten := List.mem_flatten.2 ⟨w, hw, hc⟩
    rw [Text.flatten_words] at hmem
    exact ascii_of_isIdentifierPart (h c (List.mem_filter.1 hmem).1)
  have hkept : (property.toList.filter Text.isAlphanumeric) = property.toList.filter (· ≠ '_') :=
    List.filter_congr fun c hc => isAlphanumeric_of_isIdentifierPart (h c hc)
  calc memberKey (Text.upperCamel property)
      = keyOf ((Text.words property.toList).flatMap Text.capitalize) := by
        rw [Text.upperCamel, memberKey, String.toList_ofList, keyOf]
    _ = keyOf (property.toList.filter (· ≠ '_')) := by
        rw [keyOf_flatMap_capitalize hwords, Text.flatten_words, hkept]
    _ = memberKey property := by rw [keyOf, List.filter_filter, memberKey]; simp

/-! ### Members of a class that is built on -/

/-- **A class is built on to another one**, member by member. -/
inductive Class.BuildsTo : Class → Class → Prop
  | done {c : Class} : BuildsTo c c
  | method {c d : Class} {name : String} {params : List Kind}
      {run : Entity Obj → List (Arg Obj) → Except InvokeError (Entity Obj)} :
    BuildsTo c d → BuildsTo c (d.withMethod name params run)
  | getter {c d : Class} {property : String} {kind : Kind} {nullable : Bool} {field : String} {default : Value} :
    BuildsTo c d → BuildsTo c (d.withGetter property kind nullable field default)
  | nested {c d : Class} {property : String} {type : Class} {element : ObjectType} {slot : Slot} :
    BuildsTo c d → BuildsTo c (d.withNested property type element slot)

/-- A member that is there stays there. -/
theorem Class.BuildsTo.members {c d : Class} (h : c.BuildsTo d) :
    (∀ m ∈ c.methods, m ∈ d.methods) ∧ ∀ g ∈ c.getters, g ∈ d.getters := by
  induction h with
  | done => exact ⟨fun _ hm => hm, fun _ hg => hg⟩
  | method _ ih => exact ⟨fun m hm => List.mem_append_left _ (ih.1 m hm), ih.2⟩
  | getter _ ih => exact ⟨ih.1, fun g hg => List.mem_append_left _ (ih.2 g hg)⟩
  | nested _ ih => exact ih

theorem sameMember_iff {a b : String} : sameMember a b = true ↔ memberKey a = memberKey b := beq_iff_eq

/-- Names behind a common word are the same when they are the same by themselves. -/
theorem sameMember_append_left (word a b : String) : sameMember (word ++ a) (word ++ b) = sameMember a b := by
  rw [Bool.eq_iff_iff, sameMember_iff, sameMember_iff, memberKey_append, memberKey_append]
  exact ⟨List.append_cancel_left, fun h => by rw [h]⟩

/-! ### Fields by their segments -/

theorem splitOnce_eq (sep : Char) : ∀ cs : List Char, Text.splitOnce sep cs = match Text.split sep cs with
    | part :: next :: parts => some (part, [sep].intercalate (next :: parts))
    | _ => none
  | [] => rfl
  | c :: cs => by
    have ih := splitOnce_eq sep cs
    have hjoin := Text.intercalate_split sep cs
    rw [Text.splitOnce, Text.split, ih]
    split
    · cases hs : Text.split sep cs with
      | nil => exact absurd hs (Text.split_ne_nil sep cs)
      | cons part parts =>
        rw [hs] at hjoin
        simp [hjoin]
    · cases hs : Text.split sep cs with
      | nil => exact absurd hs (Text.split_ne_nil sep cs)
      | cons part parts => cases parts <;> rfl

/-- **The plan of a field by its segments**: one segment names a setter of the row, two name a setter of a nested
object, and more have no plan. -/
theorem compileFieldPlan_eq (field : String) (row : Class) : compileFieldPlan field row = match segmentsOf field with
    | [property] => (setterFor? row property).map fun m => ⟨m, [.value], none⟩
    | [head, property] =>
      (row.nested? head).bind fun n => (setterFor? n.type property).map fun m => ⟨m, [.value], some n⟩
    | _ => none := by
  have hjoin := Text.intercalate_split '.' field.toList
  have hdots := Text.not_mem_of_mem_split '.' field.toList
  rw [compileFieldPlan, splitOnce_eq, segmentsOf]
  cases hs : Text.split '.' field.toList with
  | nil => exact absurd hs (Text.split_ne_nil '.' field.toList)
  | cons head parts =>
    rw [hs] at hjoin hdots
    cases parts with
    | nil =>
      have hfield : String.ofList head = field := by rw [← String.ofList_toList (s := field), ← hjoin]; simp
      simp [hfield]
    | cons property rest =>
      cases rest with
      | nil =>
        have hproperty : '.' ∉ property := hdots property (by simp)
        simp only [List.map_cons, List.map_nil, List.intercalate_singleton]
        cases row.nested? (String.ofList head) with
        | none => rfl
        | some n => simp [hproperty]
      | cons next rest =>
        simp only [List.map_cons]
        cases row.nested? (String.ofList head) with
        | none => rfl
        | some n => simp

theorem nested?_congr {head head' : String} (h : memberKey head = memberKey head') (row : Class) :
    row.nested? head = row.nested? head' := by
  simp only [Class.nested?, sameMember, h]

theorem setterFor?_congr {property property' : String} (h : memberKey property = memberKey property') (c : Class) :
    setterFor? c property = setterFor? c property' := by
  simp only [setterFor?, Class.methodsNamed, sameMember, memberKey_append, h]

/-- **Fields whose segments have the same keys have the same plan**, or none. -/
theorem compileFieldPlan_congr {field field' : String}
    (h : (segmentsOf field).map memberKey = (segmentsOf field').map memberKey) (row : Class) :
    compileFieldPlan field row = compileFieldPlan field' row := by
  have hlength := congrArg List.length h
  rw [List.length_map, List.length_map] at hlength
  rw [compileFieldPlan_eq, compileFieldPlan_eq]
  match hs : segmentsOf field, hs' : segmentsOf field' with
  | [], [] => rfl
  | [property], [property'] =>
    rw [hs, hs'] at h
    simp only [setterFor?_congr (List.cons.inj h).1]
  | [head, property], [head', property'] =>
    rw [hs, hs'] at h
    obtain ⟨hhead, hrest⟩ := List.cons.inj h
    simp only [nested?_congr hhead, setterFor?_congr (List.cons.inj hrest).1]
  | _ :: _ :: _ :: _, _ :: _ :: _ :: _ => rfl
  | [], _ :: _ | _ :: _, [] | [_], _ :: _ :: _ | _ :: _ :: _, [_] | [_, _], _ :: _ :: _ :: _
  | _ :: _ :: _ :: _, [_, _] => simp [hs, hs'] at hlength

/-! ### Setters, getters and fields by their keys -/

theorem mem_methodsNamed_setter {c : Class} {m : Method} {property : String} (hm : m ∈ c.methods)
    (hname : m.name = Class.setterName property) (harity : m.arity = 1)
    (h : ∀ ch ∈ property.toList, isIdentifierPart ch = true) (spelling : String) :
    m ∈ c.methodsNamed ("set" ++ spelling) 1 ↔ memberKey spelling = memberKey property := by
  rw [Class.methodsNamed, List.mem_filter, hname, Class.setterName, sameMember_append_left, Bool.and_eq_true,
    sameMember_iff, memberKey_upperCamel h, beq_iff_eq, eq_comm (a := memberKey property)]
  exact ⟨fun hfound => hfound.2.2, fun hkey => ⟨hm, harity, hkey⟩⟩

theorem mem_gettersFor {c : Class} {g : Getter} {property : String} (hg : g ∈ c.getters)
    (hname : g.name = Class.getterName property) (h : ∀ ch ∈ property.toList, isIdentifierPart ch = true)
    (spelling : String) : g ∈ c.gettersFor spelling ↔ memberKey spelling = memberKey property := by
  rw [Class.gettersFor, List.mem_filter, hname, Class.getterName, sameMember_append_left, sameMember_iff,
    memberKey_upperCamel h, eq_comm (a := memberKey property)]
  exact ⟨fun hfound => hfound.2, fun hkey => ⟨hg, hkey⟩⟩

/-- **Setters, getters and fields go by keys.**  The setter and the getter of a property of ASCII letters, digits and
underscores are kept under its name in capitalised words; in the class and in every class that it is built on to,
exactly the spellings with the property's key find them.  Two fields with segments of the same keys have the same
plan. -/
theorem Class.members_by_key (c : Class) :
    (∀ (property : String) (kind : Kind), (∀ ch ∈ property.toList, isIdentifierPart ch = true) →
      (∀ (type : FieldType) (field : String), ∃ m : Method,
        (c.withSetter property kind type field).methods = c.methods ++ [m] ∧
          m.name = "set" ++ Text.upperCamel property ∧
          ∀ d, (c.withSetter property kind type field).BuildsTo d → ∀ spelling : String,
            m ∈ d.methodsNamed ("set" ++ spelling) 1 ↔ memberKey spelling = memberKey property) ∧
      ∀ (nullable : Bool) (field : String) (default : Value), ∃ g : Getter,
        (c.withGetter property kind nullable field default).getters = c.getters ++ [g] ∧
          g.name = "get" ++ Text.upperCamel property ∧
          ∀ d, (c.withGetter property kind nullable field default).BuildsTo d → ∀ spelling : String,
            g ∈ d.gettersFor spelling ↔ memberKey spelling = memberKey property) ∧
    ∀ field field' : String, (segmentsOf field).map memberKey = (segmentsOf field').map memberKey →
      compileFieldPlan field c = compileFieldPlan field' c := by
  refine ⟨fun property kind h => ⟨fun type field => ?_, fun nullable field default => ?_⟩,
    fun field field' h => compileFieldPlan_congr h c⟩
  · refine ⟨_, rfl, rfl, fun d hd spelling => ?_⟩
    have hm := hd.members.1 _ (List.mem_append_right c.methods (List.mem_singleton_self _))
    exact mem_methodsNamed_setter hm rfl rfl h spelling
  · refine ⟨_, rfl, rfl, fun d hd spelling => ?_⟩
    have hg := hd.members.2 _ (List.mem_append_right c.getters (List.mem_singleton_self _))
    exact mem_gettersFor hg rfl h spelling

/-! ### Pages of a site -/

def pageClass : Class := (Class.ofEntity "Page" 0).withSetter "XMLHttp_id2" .long ⟨.long, true⟩ "id"

def siteClass : Class := (Class.ofEntity "Site" 1).withNested "homePage" pageClass (.entity 0) (.single 0)

/-- A run of capitals, an underscore and a digit: the setter is kept as three words, found by another spelling also when
a getter has come behind it, and reached through a nested property by fields of two spellings. -/
theorem Class.members_by_key_page :
    let titled := pageClass.withGetter "title" .text true "title" .null
    (∀ ch ∈ "XMLHttp_id2".toList, isIdentifierPart ch = true) ∧ pageClass.BuildsTo titled ∧
      memberKey "xml_HTTPID2" = memberKey "XMLHttp_id2" ∧
      (∃ m, pageClass.methods = [m] ∧ m.name = "setXmlHttpId2" ∧ m ∈ titled.methodsNamed ("set" ++ "xml_HTTPID2") 1) ∧
      (compileFieldPlan "home_page.XMLHttp_ID2" siteClass).isSome ∧
      compileFieldPlan "home_page.XMLHttp_ID2" siteClass = compileFieldPlan "HOMEPAGE.xmlhttpid2" siteClass := by
  intro titled
  have hproperty : ∀ ch ∈ "XMLHttp_id2".toList, isIdentifierPart ch = true := List.all_eq_true.1 (by decide)
  have hbuilds : pageClass.BuildsTo titled := .getter .done
  have hkey : memberKey "xml_HTTPID2" = memberKey "XMLHttp_id2" := by decide +kernel
  have hwords : "set" ++ Text.upperCamel "XMLHttp_id2" = "setXmlHttpId2" := by decide +kernel
  have hplan : (compileFieldPlan "home_page.XMLHttp_ID2" siteClass).isSome := by decide +kernel
  obtain ⟨m, hmethods, hname, hfound⟩ :=
    (((Class.ofEntity "Page" 0).members_by_key).1 "XMLHttp_id2" .long hproperty).1 ⟨.long, true⟩ "id"
  refine ⟨hproperty, hbuilds, hkey, ⟨m, hmethods, hname.trans hwords, (hfound titled hbuilds _).2 hkey⟩, hplan, ?_⟩
  exact siteClass.members_by_key.2 _ _ (by decide +kernel)

end QueryRows
