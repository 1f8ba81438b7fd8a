import QueryRows.Json.Exchange
import QueryRows.Proofs.BagRows
/-!
# JsonRows — bags written as JSON are the records they were read from

Every object of a JSON array contributes fields to a record (`contributed`).  Where an object contributes no name twice
and only nulls, booleans, strings and whole numbers of 64 bits, its bag is written as the object of those fields, each
with the value it had (`Mapper.MakesBags.run_json`).
-/
namespace QueryRows

namespace Json

/-- **A value that records keep as it is**: null, a boolean, a string or a whole number of 64 bits. -/
def isPlain : Json → Bool
  | .null => true
  | .bool _ => true
  | .whole n => -2 ^ 63 ≤ n && n < 2 ^ 63
  | .string _ => true
  | _ => false

/-- What a member of an object contributes: the properties of an object under their own names, anything else under the
field name of a single value. -/
def contributedBy (name : String) : Json → List (String × Json)
  | .object properties => properties
  | j => [(scalarFieldName name, j)]

/-- **The fields that the members of an object contribute**, in their order. -/
def contributed (members : List (String × Json)) : List (String × Json) :=
  members.flatMap fun m => contributedBy m.1 m.2

end Json

/-! ### Reading and writing -/

/-- **Plain JSON is written as it was read.** -/
theorem toJson_ofJson {j : Json} (h : j.isPlain = true) : (Value.ofJson j).toJson = j := by
  cases j with
  | whole n =>
    simp only [Json.isPlain, Bool.and_eq_true, decide_eq_true_eq] at h
    obtain ⟨hlow, hhigh⟩ := h
    rw [Value.ofJson, if_pos ⟨hlow, hhigh⟩, Value.toJson, Int64.toInt_ofInt_of_le hlow hhigh]
  | float x => cases h
  | array elements => cases h
  | object members => cases h
  | _ => rfl

theorem fields_ofJson (name : String) (j : Json) :
    (Item.ofJson j).fields name = (Json.contributedBy name j).map fun f => (f.1, Value.ofJson f.2) := by
  cases j <;> rfl

theorem fields_ofMembers (members : List (String × Json)) :
    (Record.ofMembers members).fields = (Json.contributed members).map fun f => (f.1, Value.ofJson f.2) := by
  simp only [Record.fields, Record.ofMembers, Json.contributed, List.flatMap_map, List.map_flatMap, fields_ofJson]

theorem recordsOfJson?_objects (rows : List (List (String × Json))) :
    recordsOfJson? (.array (rows.map .object)) = some (rows.map Record.ofMembers) := by
  have hmembers : (rows.map Json.object).mapM Json.members? = some rows := by
    induction rows with
    | nil => rfl
    | cons members rows ih => simp [Json.members?, ih]
  simp [recordsOfJson?, Json.elements?, hmembers]

/-! ### Bags -/

namespace Bag

theorem putField_of_not_mem {name : String} (v : Value) : ∀ {fields : List (String × Value)},
    name ∉ fields.map (·.1) → putField name v fields = fields ++ [(name, v)]
  | [], _ => rfl
  | f :: fields, h => by
    rw [List.map_cons, List.mem_cons, not_or] at h
    rw [putField, if_neg (Ne.symm h.1), putField_of_not_mem v h.2, List.cons_append]

/-- **A bag of fields with different names** has just these fields, in their order. -/
theorem fields_ofList {fields : List (String × Value)} (h : (fields.map (·.1)).Nodup) :
    (ofList fields).fields = fields := by
  induction fields using List.reverseRecOn with
  | nil => rfl
  | append_singleton fields f ih =>
    rw [List.map_append, List.map_singleton, List.nodup_append] at h
    obtain ⟨hnodup, -, hnew⟩ := h
    have hlast : ofList (fields ++ [f]) = (ofList fields).put f.1 f.2 := List.foldl_concat ..
    rw [hlast, put, ih hnodup]
    exact putField_of_not_mem f.2 fun hmem => hnew f.1 hmem f.1 List.mem_cons_self rfl

end Bag

/-- **The bag of an object's record** is written as the fields that the object contributes. -/
theorem toJson_ofMembers {members : List (String × Json)} (hnames : ((Json.contributed members).map (·.1)).Nodup)
    (hplain : ∀ f ∈ Json.contributed members, f.2.isPlain = true) :
    (Bag.ofList (Record.ofMembers members).fields).toJson = .object (Json.contributed members) := by
  have hfields : (Bag.ofList (Record.ofMembers members).fields).fields =
      (Json.contributed members).map fun f => (f.1, Value.ofJson f.2) := by
    rw [fields_ofMembers]
    refine Bag.fields_ofList ?_
    rwa [List.map_map]
  rw [Bag.toJson, hfields, List.map_map]
  congr 1
  calc (Json.contributed members).map ((fun f => (f.1, f.2.toJson)) ∘ fun f => (f.1, Value.ofJson f.2))
    _ = (Json.contributed members).map id :=
      List.map_congr_left fun f hf => Prod.ext rfl (toJson_ofJson (hplain f hf))
    _ = Json.contributed members := List.map_id _

namespace Mapper

variable {m : Mapper}

/-- **A mapper of bags gives back the JSON that its records were read from**: a list of as many objects, each of them
with the fields that the object it was read from contributed. -/
theorem run_json (h : m.MakesBags) {rows : List (List (String × Json))}
    (hnames : ∀ members ∈ rows, ((Json.contributed members).map (·.1)).Nodup)
    (hplain : ∀ members ∈ rows, ∀ f ∈ Json.contributed members, f.2.isPlain = true) :
    ∃ records bags, recordsOfJson? (.array (rows.map .object)) = some records ∧ m.Lists records 0 0 bags ∧
      bags.toJson = .array (rows.map fun members => .object (Json.contributed members)) := by
  refine ⟨_, _, recordsOfJson?_objects rows, h.lists _ 0 0, ?_⟩
  rw [map_snd_windowed, if_pos rfl, BagList.ofRecords, BagList.toJson, List.map_map, List.map_map]
  refine congrArg Json.array (List.map_congr_left fun members hmembers => ?_)
  exact toJson_ofMembers (hnames members hmembers) (hplain members hmembers)

/-- A node and a flag of it, an object with nothing in it, and a point in a name that stays. -/
theorem run_json_persons :
    let rows : List (List (String × Json)) :=
      [[("n", .object [("id", .whole (-7)), ("name", .string "Ann")]), ("n.active", .bool true)], [],
        [("count", .null), ("o", .object []), ("n.home.town", .string "Ur")]]
    generic.MakesBags ∧ (∀ members ∈ rows, ((Json.contributed members).map (·.1)).Nodup) ∧
      (∀ members ∈ rows, ∀ f ∈ Json.contributed members, f.2.isPlain = true) ∧
      ∃ records bags, recordsOfJson? (.array (rows.map .object)) = some records ∧ generic.Lists records 0 0 bags ∧
        bags.toJson = .array [.object [("id", .whole (-7)), ("name", .string "Ann"), ("active", .bool true)], .object [],
          .object [("count", .null), ("home.town", .string "Ur")]] := by
  intro rows
  have hnames : ∀ members ∈ rows, ((Json.contributed members).map (·.1)).Nodup := by decide +kernel
  have hplain : ∀ members ∈ rows, ∀ f ∈ Json.contributed members, f.2.isPlain = true := by decide +kernel
  exact ⟨makesBags_generic, hnames, hplain, run_json makesBags_generic hnames hplain⟩

end Mapper

end QueryRows
