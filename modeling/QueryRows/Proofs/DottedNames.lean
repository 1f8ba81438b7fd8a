import Mathlib
import QueryRows.Statement.Values
import QueryRows.Text.Split
/-!
# DottedNames — the values in nested mappings go by the paths to them

Every value of a file that is no mapping has a path of names, and its entry stands under these names with points
between them.  As long as no name has a point in it, different paths have different names, so the entries are these
values and no others; else the last of the values of one name stays, and the others are as if they were not there
(`readValues_flattens`).
-/
namespace QueryRows

/-- The names on a path with points between them. -/
def dotted (path : List String) : String := ".".intercalate path

/-- None of the names has a point in it. -/
def WithoutPoints (path : List String) : Prop := ∀ key ∈ path, '.' ∉ key.toList

namespace Json

def isObject : Json → Bool
  | .object _ => true
  | _ => false

/-- **The value at a path**: for every name, the member of that name of an object. -/
def at? : Json → List String → Option Json
  | j, [] => some j
  | .object members, key :: keys => (members.lookup key).bind (·.at? keys)
  | _, _ :: _ => none

/-- The value at a path, if it is no object. -/
def leafAt? (j : Json) (path : List String) : Option Json := (j.at? path).filter (!·.isObject)

mutual

/-- **The values that are no objects**, with their paths, in the order in which the members are gone through. -/
def leaves : Json → List (List String × Json)
  | .object members => leavesOf members
  | j => [([], j)]

def leavesOf : List (String × Json) → List (List String × Json)
  | [] => []
  | (key, j) :: rest => j.leaves.map (fun l => (key :: l.1, l.2)) ++ leavesOf rest

end

/-- The members of an object, and of the objects in it, are sorted by name, one under each name. -/
inductive Sorted : Json → Prop
  | object {members : List (String × Json)} : SortedByName members → (∀ m ∈ members, m.2.Sorted) →
      Sorted (.object members)
  | leaf {j : Json} : j.isObject = false → j.Sorted

/-- The names in an object, and in the objects in it, have no point in them. -/
inductive Undotted : Json → Prop
  | object {members : List (String × Json)} : (∀ m ∈ members, '.' ∉ m.1.toList) → (∀ m ∈ members, m.2.Undotted) →
      Undotted (.object members)
  | leaf {j : Json} : j.isObject = false → j.Undotted

end Json

/-- The last of the values of a name. -/
def lastOfName (name : String) (leaves : List (List String × Json)) : Option Json :=
  (leaves.filter fun l => dotted l.1 == name).getLast?.map (·.2)

/-- **Entries for values with paths**: one for every name of theirs, with the last value of that name. -/
structure LastOfEach (leaves : List (List String × Json)) (values : List (String × Value)) : Prop where
  sorted : SortedByName values
  lookup : ∀ name, values.lookup name = (lastOfName name leaves).map Value.ofJson

/-- **Entries for the values in an object that are no objects**: one for each of them, under the names on its path, and
no others. -/
structure Json.ByPath (o : Json) (values : List (String × Value)) : Prop where
  lookup : ∀ path ≠ [], WithoutPoints path → values.lookup (dotted path) = (o.leafAt? path).map Value.ofJson
  only : ∀ e ∈ values, ∃ path j, path ≠ [] ∧ WithoutPoints path ∧ o.leafAt? path = some j ∧
    e = (dotted path, Value.ofJson j)
  length : values.length = o.leaves.length

/-! ### Names and paths -/

theorem split_dotted {path : List String} (hne : path ≠ []) (h : WithoutPoints path) :
    Text.split '.' (dotted path).toList = path.map String.toList := by
  rw [dotted, String.toList_intercalate]
  refine Text.split_intercalate (by simpa using hne) fun part hpart => ?_
  obtain ⟨key, hkey, rfl⟩ := List.mem_map.1 hpart
  exact h key hkey

/-- **Different paths have different names**, as long as no name on them has a point in it. -/
theorem eq_of_dotted_eq {path path' : List String} (hne : path ≠ []) (hne' : path' ≠ []) (h : WithoutPoints path)
    (h' : WithoutPoints path') (heq : dotted path = dotted path') : path = path' := by
  have hmap : path.map String.toList = path'.map String.toList := by
    rw [← split_dotted hne h, ← split_dotted hne' h', heq]
  exact (List.map_inj_right fun _ _ => String.toList_inj.1).1 hmap

/-- The name of what stands in a member begins with the member's own name. -/
theorem dotted_cons_cons (name key : String) (path : List String) :
    dotted ((name ++ "." ++ key) :: path) = dotted (name :: key :: path) := by
  rw [← String.toList_inj, dotted, dotted, String.toList_intercalate, String.toList_intercalate]
  cases path <;> simp [List.intercalate_cons_cons]

/-- The entry of a value with a path. -/
def entryOf (l : List String × Json) : String × Value := (dotted l.1, Value.ofJson l.2)

mutual

theorem flattenMember_eq (name : String) : ∀ j : Json,
    flattenMember name j = j.leaves.map fun l => entryOf (name :: l.1, l.2)
  | .object members => flattenMembers_some name members
  | .null | .bool _ | .whole _ | .float _ | .string _ | .array _ => rfl

theorem flattenMembers_some (name : String) : ∀ members : List (String × Json),
    flattenMembers (some name) members = (Json.leavesOf members).map fun l => entryOf (name :: l.1, l.2)
  | [] => rfl
  | (key, j) :: rest => by
    rw [flattenMembers, flattenMember_eq (name ++ "." ++ key) j, flattenMembers_some name rest, Json.leavesOf,
      List.map_append, List.map_map]
    simp only [entryOf, dotted_cons_cons, Function.comp_def]

end

/-- **Flattening gives every value that is no object the name of its path**, in the order of the paths. -/
theorem flattenMembers_none : ∀ members : List (String × Json),
    flattenMembers none members = (Json.leavesOf members).map entryOf
  | [] => rfl
  | (key, j) :: rest => by
    rw [flattenMembers, flattenMember_eq, flattenMembers_none rest, Json.leavesOf, List.map_append, List.map_map]
    rfl

/-! ### Values that are no objects -/

namespace Json

theorem leaves_of_not_isObject {j : Json} (h : j.isObject = false) : j.leaves = [([], j)] := by
  cases j with
  | object members => cases h
  | _ => rfl

theorem leafAt?_of_not_isObject {j : Json} (h : j.isObject = false) (path : List String) :
    j.leafAt? path = if path = [] then some j else none := by
  cases path with
  | nil => simp [leafAt?, at?, h]
  | cons key keys => cases j with
    | object members => cases h
    | _ => rfl

theorem leafAt?_object_nil (members : List (String × Json)) : (object members).leafAt? [] = none := rfl

theorem leafAt?_object_cons (members : List (String × Json)) (key : String) (keys : List String) :
    (object members).leafAt? (key :: keys) = (members.lookup key).bind (·.leafAt? keys) := by
  rw [leafAt?, at?]
  cases members.lookup key <;> rfl

theorem mem_leavesOf {path : List String} {leaf : Json} : ∀ {members : List (String × Json)},
    (path, leaf) ∈ leavesOf members ↔ ∃ key j keys, (key, j) ∈ members ∧ (keys, leaf) ∈ j.leaves ∧ path = key :: keys
  | [] => by simp [leavesOf]
  | (key, j) :: rest => by
    simp only [leavesOf, List.mem_append, List.mem_map, @mem_leavesOf path leaf rest, List.mem_cons, Prod.mk.injEq]
    constructor
    · rintro (⟨l, hl, rfl, rfl⟩ | ⟨key', j', keys, hmem, hleaf, hpath⟩)
      · exact ⟨key, j, l.1, .inl ⟨rfl, rfl⟩, hl, rfl⟩
      · exact ⟨key', j', keys, .inr hmem, hleaf, hpath⟩
    · rintro ⟨key', j', keys, ⟨rfl, rfl⟩ | hmem, hleaf, rfl⟩
      · exact .inl ⟨_, hleaf, rfl, rfl⟩
      · exact .inr ⟨key', j', keys, hmem, hleaf, rfl⟩

/-- **The values listed are those at the paths**, where no object has two members of one name. -/
theorem Sorted.mem_leaves_iff {j : Json} (h : j.Sorted) {path : List String} {leaf : Json} :
    (path, leaf) ∈ j.leaves ↔ j.leafAt? path = some leaf := by
  induction h generalizing path with
  | leaf hj =>
    rw [leaves_of_not_isObject hj, leafAt?_of_not_isObject hj]
    simp [eq_comm]
  | @object members hsorted _ ih =>
    rw [leaves, mem_leavesOf]
    cases path with
    | nil =>
      -- the object itself is at the empty path, and no path in it is empty
      rw [leafAt?_object_nil]
      simp
    | cons key keys =>
      rw [leafAt?_object_cons, Option.bind_eq_some_iff]
      constructor
      · rintro ⟨key', j, keys', hmem, hleaf, hpath⟩
        cases hpath
        exact ⟨j, (mem_iff_lookup hsorted.nodup).1 hmem, (ih _ hmem).1 hleaf⟩
      · rintro ⟨j, hlookup, hleaf⟩
        have hmem := (mem_iff_lookup hsorted.nodup).2 hlookup
        exact ⟨key, j, keys, hmem, (ih _ hmem).2 hleaf, rfl⟩

theorem pairwise_leavesOf : ∀ {members : List (String × Json)}, SortedByName members →
    (∀ m ∈ members, m.2.leaves.Pairwise fun a b => a.1 < b.1) → (leavesOf members).Pairwise fun a b => a.1 < b.1
  | [], _, _ => .nil
  | (key, j) :: rest, hsorted, h => by
    obtain ⟨hfirst, hrest⟩ := List.pairwise_cons.1 hsorted
    rw [List.forall_mem_cons] at h
    rw [leavesOf, List.pairwise_append, List.pairwise_map]
    refine ⟨h.1.imp fun hlt => List.cons_lt_cons_iff.2 (.inr ⟨rfl, hlt⟩), pairwise_leavesOf hrest h.2, ?_⟩
    intro a ha b hb
    obtain ⟨l, -, rfl⟩ := List.mem_map.1 ha
    obtain ⟨key', j', keys, hmem, -, hpath⟩ := mem_leavesOf.1 hb
    rw [hpath]
    exact List.cons_lt_cons_iff.2 (.inl (hfirst _ hmem))

/-- **The values are gone through in the order of their paths.** -/
theorem Sorted.pairwise_leaves {j : Json} (h : j.Sorted) : j.leaves.Pairwise fun a b => a.1 < b.1 := by
  induction h with
  | leaf hj =>
    rw [leaves_of_not_isObject hj]
    exact List.pairwise_singleton ..
  | object hsorted _ ih => exact pairwise_leavesOf hsorted ih

/-- **In an object without points, the paths to values have names without points.** -/
theorem Undotted.withoutPoints {j : Json} (h : j.Undotted) {path : List String} {leaf : Json}
    (hmem : (path, leaf) ∈ j.leaves) : WithoutPoints path := by
  induction h generalizing path with
  | leaf hj =>
    rw [leaves_of_not_isObject hj, List.mem_singleton] at hmem
    cases hmem
    exact fun key hkey => (nomatch hkey)
  | object hkeys _ ih =>
    obtain ⟨key, j, keys, hmember, hleaf, rfl⟩ := mem_leavesOf.1 hmem
    exact List.forall_mem_cons.2 ⟨hkeys _ hmember, ih _ hmember hleaf⟩

theorem ne_nil_of_mem_leavesOf {members : List (String × Json)} {path : List String} {leaf : Json}
    (h : (path, leaf) ∈ leavesOf members) : path ≠ [] := by
  obtain ⟨key, j, keys, -, -, rfl⟩ := mem_leavesOf.1 h
  exact List.cons_ne_nil key keys

end Json

/-! ### What is read -/

namespace Yaml

mutual

/-- **Objects that are read from nodes are sorted.** -/
theorem sorted_of_toJson? : ∀ {node : Node} {j : Json}, node.toJson? = some j → j.Sorted
  | .mapping members, j, h => by
    rw [Node.toJson?, Option.map_eq_some_iff] at h
    obtain ⟨ms, hms, rfl⟩ := h
    exact .object (sortedByName_sortEntries ms) fun m hm => sorted_of_membersToJson? hms m (mem_of_mem_sortEntries hm)
  | .sequence elements, j, h => by
    rw [Node.toJson?, Option.map_eq_some_iff] at h
    obtain ⟨js, -, rfl⟩ := h
    exact .leaf rfl
  | .scalar true text, j, h => by
    rw [Node.toJson?, plainJson?] at h
    split at h
    · cases h
      exact .leaf rfl
    · cases h
      exact .leaf rfl
    · split at h
      · cases h
        exact .leaf rfl
      · cases h
    · cases h
      split <;> exact .leaf rfl
    · cases h
      exact .leaf rfl
  | .scalar false text, j, h => by
    cases h
    exact .leaf rfl

theorem sorted_of_membersToJson? : ∀ {members : List (Node × Node)} {ms : List (String × Json)},
    membersToJson? members = some ms → ∀ m ∈ ms, m.2.Sorted
  | [], ms, h => by
    cases h
    exact fun m hm => (nomatch hm)
  | (key, node) :: rest, ms, h => by
    rw [membersToJson?] at h
    split at h
    · rename_i k j js hkey hj hjs
      cases h
      exact List.forall_mem_cons.2 ⟨sorted_of_toJson? hj, sorted_of_membersToJson? hjs⟩
    · cases h

end

end Yaml

/-! ### Entries -/

theorem lastOfEach_sortEntries (leaves : List (List String × Json)) :
    LastOfEach leaves (sortEntries (leaves.map entryOf)) := by
  refine ⟨sortedByName_sortEntries _, fun name => ?_⟩
  rw [lookup_sortEntries, List.filter_map, List.getLast?_map, Option.map_map, lastOfName, Option.map_map]
  rfl

theorem lastOfName_append (name : String) (leaves later : List (List String × Json)) :
    lastOfName name (leaves ++ later) = (lastOfName name later).or (lastOfName name leaves) := by
  rw [lastOfName, List.filter_append, List.getLast?_append, Option.map_or]
  rfl

theorem lastOfName_cons_of_ne {name : String} {l : List String × Json} (h : dotted l.1 ≠ name)
    (later : List (List String × Json)) : lastOfName name (l :: later) = lastOfName name later := by
  rw [lastOfName, List.filter_cons_of_neg (by simpa using h), lastOfName]

theorem exists_lastOfName_cons {name : String} {l : List String × Json} (h : dotted l.1 = name)
    (later : List (List String × Json)) : ∃ j, lastOfName name (l :: later) = some j := by
  rw [lastOfName, List.filter_cons_of_pos (by simpa using h), List.getLast?_cons]
  exact ⟨_, rfl⟩

/-- **Of two values of one name the later one stays, and the earlier one might as well not be there.** -/
theorem LastOfEach.without_earlier {before between after : List (List String × Json)} {l l' : List String × Json}
    {values : List (String × Value)} (h : LastOfEach (before ++ l :: between ++ l' :: after) values)
    (hname : dotted l.1 = dotted l'.1) : LastOfEach (before ++ between ++ l' :: after) values := by
  refine ⟨h.sorted, fun name => ?_⟩
  rw [h.lookup, lastOfName_append, lastOfName_append name (before ++ between)]
  by_cases hl : dotted l'.1 = name
  · -- the later value is found before either of the lists in front of it is looked at
    obtain ⟨j, hj⟩ := exists_lastOfName_cons hl after
    rw [hj, Option.some_or, Option.some_or]
  · have hearlier : dotted l.1 ≠ name := hname ▸ hl
    rw [lastOfName_append name before, lastOfName_cons_of_ne hearlier, lastOfName_append name before]

/-- **The values in an object without points have entries of their own.** -/
theorem Json.Sorted.byPath {members : List (String × Json)} (hsorted : (Json.object members).Sorted)
    (h : (Json.object members).Undotted) : (Json.object members).ByPath (nestedValues members) := by
  have hpath : ∀ l ∈ Json.leavesOf members, l.1 ≠ [] ∧ WithoutPoints l.1 := fun l hl =>
    ⟨Json.ne_nil_of_mem_leavesOf hl, h.withoutPoints hl⟩
  have hnodup : (((Json.leavesOf members).map entryOf).map (·.1)).Nodup := by
    rw [List.map_map]
    refine List.pairwise_map.2 (hsorted.pairwise_leaves.imp_of_mem fun {a b} ha hb hlt heq => ?_)
    have hab := eq_of_dotted_eq (hpath a ha).1 (hpath b hb).1 (hpath a ha).2 (hpath b hb).2 heq
    exact List.lt_irrefl b.1 (hab ▸ hlt)
  have hperm := perm_sortEntries hnodup
  rw [nestedValues, flattenMembers_none]
  refine ⟨fun path hne hpoints => Option.ext fun v => ?_, fun e he => ?_, ?_⟩
  · rw [← mem_iff_lookup (sortedByName_sortEntries _).nodup, hperm.mem_iff, List.mem_map, Option.map_eq_some_iff]
    constructor
    · rintro ⟨l, hl, heq⟩
      obtain ⟨hname, rfl⟩ := Prod.mk.inj heq
      have := eq_of_dotted_eq (hpath l hl).1 hne (hpath l hl).2 hpoints hname
      exact ⟨l.2, hsorted.mem_leaves_iff.1 (this ▸ hl), rfl⟩
    · rintro ⟨j, hj, rfl⟩
      exact ⟨(path, j), hsorted.mem_leaves_iff.2 hj, rfl⟩
  · obtain ⟨l, hl, rfl⟩ := List.mem_map.1 (hperm.mem_iff.1 he)
    exact ⟨l.1, l.2, (hpath l hl).1, (hpath l hl).2, hsorted.mem_leaves_iff.1 hl, rfl⟩
  · rw [hperm.length_eq, List.length_map]
    rfl

/-- **An object is flattened to values**: as long as no name has a point in it, an entry for each value that is no object,
under the names on its path.  Else, in the order of the paths, the last value of a name has the entry, and the other
entries are as they would be without the earlier ones. -/
structure Json.FlattensTo (j : Json) (values : List (String × Value)) : Prop where
  byPath : j.Undotted → j.ByPath values
  mem_leaves : ∀ path leaf, (path, leaf) ∈ j.leaves ↔ j.leafAt? path = some leaf
  ordered : j.leaves.Pairwise fun a b => a.1 < b.1
  last : LastOfEach j.leaves values
  without_earlier : ∀ before l between l' after, j.leaves = before ++ l :: between ++ l' :: after →
    dotted l.1 = dotted l'.1 → LastOfEach (before ++ between ++ l' :: after) values

/-- **Every sorted object is flattened to its values.** -/
theorem Json.Sorted.flattensTo {members : List (String × Json)} (hsorted : (Json.object members).Sorted) :
    (Json.object members).FlattensTo (nestedValues members) := by
  have hlast : LastOfEach (Json.object members).leaves (nestedValues members) := by
    rw [nestedValues, flattenMembers_none]
    exact lastOfEach_sortEntries _
  refine ⟨hsorted.byPath, fun path leaf => hsorted.mem_leaves_iff, hsorted.pairwise_leaves, hlast,
    fun before l between l' after hleaves hname => ?_⟩
  rw [hleaves] at hlast
  exact hlast.without_earlier hname

/-- **The values of a file with a mapping are the values at the paths of its object.**  Every sorted object is flattened to
its values, objects that are decoded from a text are sorted, and it is their values that are read. -/
theorem readValues_flattens :
    (∀ {members : List (String × Json)}, (Json.object members).Sorted →
      (Json.object members).FlattensTo (nestedValues members)) ∧
    ∀ {text : String} {node : Yaml.Node} {members : List (String × Json)}, Yaml.parse? text = some (some node) →
      node.toJson? = some (.object members) → (Json.object members).Sorted ∧ ∃ values, readValues text = .ok values ∧
        values = nestedValues members ∧ (Json.object members).FlattensTo values := by
  refine ⟨fun hsorted => hsorted.flattensTo, fun {text node members} hnode hmembers => ?_⟩
  have hsorted := Yaml.sorted_of_toJson? hmembers
  have hread : readValues text = .ok (nestedValues members) := by
    rw [readValues, hnode]
    simp only [hmembers]
  exact ⟨hsorted, nestedValues members, hread, rfl, hsorted.flattensTo⟩

/-- A mapping with nothing in it has no entry; and of two values that are called `a.b`, the one at the path `a`, `b`
goes before the one at the path `a.b`. -/
theorem readValues_flattens_orders :
    let text := "order: \x7bid: 7, none: \x7b\x7d, of: x\x7d\n"
    let members : List (String × Json) :=
      [("order", .object [("id", .whole 7), ("none", .object []), ("of", .string "x")])]
    let clash := "a.b: 2\na: \x7bb: 1, c: 3\x7d\n"
    let clashing : List (String × Json) := [("a", .object [("b", .whole 1), ("c", .whole 3)]), ("a.b", .whole 2)]
    (∃ node values, Yaml.parse? text = some (some node) ∧ node.toJson? = some (.object members) ∧
      (Json.object members).Undotted ∧ readValues text = .ok values ∧ (Json.object members).ByPath values ∧
      values.length = 2 ∧ values.lookup "order.id" = some (.long 7)) ∧
    ∃ node values, Yaml.parse? clash = some (some node) ∧ node.toJson? = some (.object clashing) ∧
      readValues clash = .ok values ∧ values.lookup "a.b" = some (.long 2) ∧
      LastOfEach [(["a", "c"], .whole 3), (["a.b"], .whole 2)] values := by
  intro text members clash clashing
  constructor
  · let node : Yaml.Node := .mapping [(.scalar true "order", .mapping [(.scalar true "id", .scalar true "7"),
      (.scalar true "none", .mapping []), (.scalar true "of", .scalar true "x")])]
    have hnode : Yaml.parse? text = some (some node) := by cbv
    have hmembers : node.toJson? = some (.object members) := by cbv
    have hundotted : (Json.object members).Undotted := by
      refine .object (by decide) fun m hm => ?_
      simp only [members, List.mem_cons, List.not_mem_nil, or_false] at hm
      subst hm
      refine .object (by decide) fun m hm => ?_
      simp only [List.mem_cons, List.not_mem_nil, or_false] at hm
      rcases hm with rfl | rfl | rfl
      · exact .leaf rfl
      · exact .object (fun m hm => (nomatch hm)) fun m hm => (nomatch hm)
      · exact .leaf rfl
    obtain ⟨-, values, hread, -, hflattens⟩ := readValues_flattens.2 hnode hmembers
    have hvalues := hflattens.byPath hundotted
    refine ⟨node, values, hnode, hmembers, hundotted, hread, hvalues, hvalues.length, ?_⟩
    exact hvalues.lookup ["order", "id"] (List.cons_ne_nil _ _) (by unfold WithoutPoints; decide)
  · let node : Yaml.Node := .mapping [(.scalar true "a.b", .scalar true "2"),
      (.scalar true "a", .mapping [(.scalar true "b", .scalar true "1"), (.scalar true "c", .scalar true "3")])]
    have hnode : Yaml.parse? clash = some (some node) := by cbv
    have hmembers : node.toJson? = some (.object clashing) := by cbv
    obtain ⟨-, values, hread, -, hflattens⟩ := readValues_flattens.2 hnode hmembers
    refine ⟨node, values, hnode, hmembers, hread, (hflattens.last.lookup "a.b").trans (by cbv), ?_⟩
    exact hflattens.without_earlier [] (["a", "b"], .whole 1) [(["a", "c"], .whole 3)] (["a.b"], .whole 2) [] rfl (by decide)

end QueryRows
