import QueryRows.Proofs.Columns
/-!
# BagRows — a mapper of bags keeps every field of every record

The mapper of bags, in any style of columns and after any runs, puts every field of a record into the record's bag
(`Mapping.FillsBags`), so a bag has the record's fields once each, in the order of their first occurrences and with
their last values (`Bag.Holds`).  A bag list has the bags of all records in order, and the lists of its pages put
together are the list of the whole (`Mapper.run_bags`).
-/
namespace QueryRows

namespace Bag

def names (b : Bag) : List String := b.fields.map (·.1)

/-- **A bag holds fields**: each name once, in the order of first occurrences, with its last value. -/
structure Holds (b : Bag) (fields : List (String × Value)) : Prop where
  names_eq : b.names = (fields.map (·.1)).eraseDups
  get?_eq : ∀ name, b.get? name = fields.reverse.lookup name

end Bag

def BagList.ofRecords (records : List Record) : BagList := ⟨records.map fun r => .ofList r.fields⟩

namespace Mapper

/-- **A mapper of bags**: the generic mapper in some style of columns, whatever it has been through. -/
def MakesBags (m : Mapper) : Prop := m.Reachable ∧ ∃ style, m.config = generic.config.set (.style style)

/-- A run over a window makes a bag list and counts its bags. -/
def Lists (m : Mapper) (records : List Record) (start size : Nat) (l : BagList) : Prop :=
  ∃ t, (m.run records start size).2 = .ok t ∧ t.table = .bagList l ∧ t.rowCount = l.rows.length

end Mapper

/-! ### Bags of fields -/

namespace Bag

theorem names_putField (name : String) (v : Value) : ∀ fields : List (String × Value),
    (putField name v fields).map (·.1) =
      if (fields.map (·.1)).contains name then fields.map (·.1) else fields.map (·.1) ++ [name]
  | [] => rfl
  | f :: fields => by
    rw [putField]
    split
    · rename_i hname
      rw [List.map_cons, List.map_cons, List.contains_cons, hname, beq_self_eq_true, Bool.true_or, if_pos rfl]
    · rename_i hname
      have hne : (name == f.1) = false := beq_eq_false_iff_ne.2 (Ne.symm hname)
      rw [List.map_cons, List.map_cons, List.contains_cons, hne, Bool.false_or, names_putField name v fields]
      split <;> rfl

theorem find?_putField (name other : String) (v : Value) : ∀ fields : List (String × Value),
    ((putField name v fields).find? fun f => f.1 == other).map (·.2) =
      if other = name then some v else (fields.find? fun f => f.1 == other).map (·.2)
  | [] => by
    rw [putField, List.find?_cons]
    by_cases hother : other = name <;> grind
  | f :: fields => by
    have ih := find?_putField name other v fields
    rw [putField]
    by_cases hname : f.1 = name <;> grind

variable {b : Bag} {fields : List (String × Value)}

theorem holds_empty : empty.Holds [] := ⟨rfl, fun _ => rfl⟩

/-- **A field put into a bag** goes to the end or takes the place of an earlier value. -/
theorem Holds.put (h : b.Holds fields) (name : String) (v : Value) : (b.put name v).Holds (fields ++ [(name, v)]) := by
  refine ⟨?_, fun other => ?_⟩
  · have hnames : (b.put name v).names = if b.names.contains name then b.names else b.names ++ [name] :=
      names_putField name v b.fields
    rw [hnames, h.names_eq, contains_eraseDups, List.map_append, List.map_singleton, eraseDups_concat]
  · have hget : (b.put name v).get? other = if other = name then some v else b.get? other :=
      find?_putField name other v b.fields
    rw [hget, h.get?_eq, List.reverse_append, List.reverse_singleton, List.singleton_append, List.lookup_cons]
    by_cases hother : other = name
    · rw [if_pos hother, hother, beq_self_eq_true]
    · rw [if_neg hother, beq_eq_false_iff_ne.2 hother]

theorem holds_ofList (fields : List (String × Value)) : (ofList fields).Holds fields := by
  induction fields using List.reverseRecOn with
  | nil => exact holds_empty
  | append_singleton fields f ih =>
    have hlast : ofList (fields ++ [f]) = (ofList fields).put f.1 f.2 := List.foldl_concat ..
    rw [hlast]
    exact ih.put f.1 f.2

end Bag

namespace BagList

theorem rows_ofRecords (records : List Record) :
    List.Forall₂ (fun r b => Bag.Holds b r.fields) records (ofRecords records).rows := by
  rw [ofRecords, List.forall₂_map_right_iff]
  exact List.forall₂_same.2 fun r _ => Bag.holds_ofList r.fields

theorem columns_ofRecords (records : List Record) :
    (ofRecords records).columns = (records.flatMap Record.fieldNames).eraseDups := by
  have hnames (r : Record) : (Bag.ofList r.fields).fields.map (·.1) = r.fieldNames.eraseDups :=
    (Bag.holds_ofList r.fields).names_eq
  rw [columns_eq, ofRecords, List.flatMap_map]
  simp only [hnames, eraseDups_flatMap_eraseDups]

end BagList

/-! ### Runs -/

/-- **A mapping fills bags**: a fresh row is a bag that takes every field, and the table is a bag list that takes every
bag at once. -/
structure Mapping.FillsBags (m : Mapping) : Prop where
  instantiate_eq : m.row.instantiate = .bag .empty
  start_eq : m.start = ⟨.bagList .empty, 0, none⟩
  fillField : ∀ rowNo b field v, m.fillFieldAnew rowNo (.bag b) field v = .ok (.bag (b.put field v))
  takeRow : ∀ l added b rowNo,
    m.takeRow ⟨.bagList l, added, none⟩ (.bag b) rowNo = .ok ⟨.bagList (l.add b), added + 1, none⟩

namespace Mapping.FillsBags

variable {m : Mapping}

theorem fillFields (h : m.FillsBags) (rowNo : Nat) : ∀ (fields : List (String × Value)) (b : Bag),
    m.fillFieldsAnew rowNo (.bag b) fields = .ok (.bag (fields.foldl (fun b f => b.put f.1 f.2) b))
  | [], _ => rfl
  | (field, v) :: fields, b => by
    rw [fillFieldsAnew, h.fillField]
    exact h.fillFields rowNo fields (b.put field v)

theorem fillRow (h : m.FillsBags) (rowNo : Nat) (r : Record) :
    m.fillRowAnew rowNo r = .ok (.bag (.ofList r.fields)) := by
  rw [fillRowAnew, h.instantiate_eq]
  exact h.fillFields rowNo r.fields .empty

/-- **A run adds the bag of every record**, whatever the places of the records. -/
theorem mapRecords (h : m.FillsBags) : ∀ (records : List (Nat × Record)) (l : BagList) (added : Nat),
    m.mapRecordsAnew ⟨.bagList l, added, none⟩ records =
      .ok ⟨.bagList ⟨l.rows ++ (BagList.ofRecords (records.map (·.2))).rows⟩, added + records.length, none⟩
  | [], l, added => by
    rw [mapRecordsAnew, BagList.ofRecords, List.map_nil, List.map_nil, List.append_nil]
    rfl
  | (rowNo, r) :: records, l, added => by
    rw [mapRecordsAnew, h.fillRow]
    simp only [h.takeRow, h.mapRecords records]
    rw [BagList.add, List.append_assoc, Nat.add_right_comm]
    rfl

end Mapping.FillsBags

theorem Mapping.compile_style (c : MappingConfig) (style : NameStyle) :
    Mapping.compile (c.set (.style style)) = Mapping.compile c := rfl

theorem Mapping.fillsBags_generic :
    ∃ mapping, Mapping.compile Mapper.generic.config = .ok mapping ∧ mapping.FillsBags := by
  refine ⟨_, rfl, ?_⟩
  -- the plans of the two default fillers are computed by now, and so is what they do to a bag
  exact ⟨rfl, rfl, fun _ _ _ _ => rfl, fun _ _ _ _ => rfl⟩

/-! ### Pages -/

theorem map_snd_numberFrom {α : Type} : ∀ (n : Nat) (xs : List α), (numberFrom n xs).map (·.2) = xs
  | _, [] => rfl
  | n, x :: xs => by rw [numberFrom, List.map_cons, map_snd_numberFrom (n + 1) xs]

theorem map_snd_windowed {α : Type} (start size : Nat) (xs : List α) :
    (windowed start size xs).map (·.2) = if size = 0 then xs else (xs.drop start).take size := by
  unfold windowed
  split <;> exact map_snd_numberFrom ..

/-- **Pages that reach far enough** are all there is, with nothing twice and nothing left out. -/
theorem flatMap_pages {α : Type} (xs : List α) (size : Nat) : ∀ {pages : Nat}, xs.length ≤ pages * size →
    (List.range pages).flatMap (fun page => (xs.drop (page * size)).take size) = xs := by
  have htake (pages : Nat) :
      (List.range pages).flatMap (fun page => (xs.drop (page * size)).take size) = xs.take (pages * size) := by
    induction pages with
    | zero => rw [Nat.zero_mul, List.take_zero, List.range_zero, List.flatMap_nil]
    | succ pages ih =>
      rw [List.range_succ, List.flatMap_append, ih, List.flatMap_singleton, Nat.succ_mul, List.take_add]
  intro pages h
  rw [htake, List.take_of_length_le h]

namespace Mapper

variable {m : Mapper}

theorem makesBags_generic : generic.MakesBags :=
  ⟨⟨[.set (.table bagListClass), .set (.row bagClass)], rfl⟩, .upper, rfl⟩

/-- **A mapper of bags lists the bags of a window's records.** -/
theorem MakesBags.lists (h : m.MakesBags) (records : List Record) (start size : Nat) :
    m.Lists records start size (.ofRecords ((windowed start size records).map (·.2))) := by
  obtain ⟨hreachable, style, hconfig⟩ := h
  obtain ⟨mapping, hmapping, hfills⟩ := Mapping.fillsBags_generic
  have hrun := (hreachable.current.run records start size).1
  rw [MappingConfig.outcome, hconfig, Mapping.compile_style, hmapping] at hrun
  simp only [hfills.start_eq, hfills.mapRecords] at hrun
  cases ht : (m.run records start size).2 with
  | error e =>
    rw [ht] at hrun
    cases hrun
  | ok t =>
    rw [ht] at hrun
    have hfilled := Except.ok.inj hrun
    refine ⟨t, ht, congrArg Prod.fst hfilled, (congrArg Prod.snd hfilled).trans ?_⟩
    rw [BagList.ofRecords, List.length_map, List.length_map, Nat.zero_add]

/-- **A mapper of bags makes one bag of every record**, which holds the record's fields, and its columns are the fields
of all records; the lists that mappers of bags make of the pages of the records are, put together, the same list. -/
theorem run_bags (h : m.MakesBags) (records : List Record) :
    ∃ bags, m.Lists records 0 0 bags ∧ bags.rows.length = records.length ∧
      List.Forall₂ (fun r b => Bag.Holds b r.fields) records bags.rows ∧
      bags.columns = (bags.rows.flatMap Bag.names).eraseDups ∧
      bags.columns = (records.flatMap Record.fieldNames).eraseDups ∧
      ∀ size pages, 0 < size → records.length ≤ pages * size →
        ∀ pager : Nat → Mapper, (∀ page, (pager page).MakesBags) → ∃ parts,
          List.Forall₂ (fun page part => (pager page).Lists records (page * size) size part) (List.range pages) parts ∧
          parts.flatMap BagList.rows = bags.rows := by
  have hall := h.lists records 0 0
  rw [map_snd_windowed, if_pos rfl] at hall
  refine ⟨_, hall, List.length_map .., BagList.rows_ofRecords records, BagList.columns_eq _,
    BagList.columns_ofRecords records, fun size pages hsize hpages pager hpager => ?_⟩
  have hpage (page : Nat) :
      (pager page).Lists records (page * size) size (.ofRecords ((records.drop (page * size)).take size)) := by
    have := (hpager page).lists records (page * size) size
    rwa [map_snd_windowed, if_neg (Nat.pos_iff_ne_zero.1 hsize)] at this
  refine ⟨(List.range pages).map fun page => .ofRecords ((records.drop (page * size)).take size), ?_, ?_⟩
  · rw [List.forall₂_map_right_iff]
    exact List.forall₂_same.2 fun page _ => hpage page
  · rw [List.flatMap_map]
    simp only [BagList.ofRecords]
    rw [← List.map_flatMap, flatMap_pages records size hpages]

/-- The first record has a field twice and the last one gets a name from two items; a mapper that was used before,
under another style, puts the three records into bags, and two pages of fresh mappers hold the same bags. -/
theorem run_bags_twice :
    let used := (generic.after (.run [[("n.x", .scalar .null)]] 0 0)).after (.set (.style .lower))
    let records : List Record :=
      [[("n", .node [("id", .long 1), ("id", .long 2), ("name", .text "a")])], [("n.city", .scalar .null)],
        [("n", .node [("name", .text "b")]), ("m.name", .scalar (.text "c"))]]
    used.MakesBags ∧ generic.MakesBags ∧ 0 < 2 ∧ records.length ≤ 2 * 2 ∧
      ∃ bags, used.Lists records 0 0 bags ∧ bags.columns = ["id", "name", "city"] ∧ ∃ parts,
        List.Forall₂ (fun page part => generic.Lists records (page * 2) 2 part) (List.range 2) parts ∧
        parts.flatMap BagList.rows = bags.rows := by
  intro used records
  have hused : used.MakesBags :=
    ⟨⟨[.set (.table bagListClass), .set (.row bagClass), .run [[("n.x", .scalar .null)]] 0 0, .set (.style .lower)],
      rfl⟩, .lower, rfl⟩
  have hpages : records.length ≤ 2 * 2 := by decide
  have hcolumns : (records.flatMap Record.fieldNames).eraseDups = ["id", "name", "city"] := by decide +kernel
  obtain ⟨bags, hlists, -, -, -, hfields, hparts⟩ := run_bags hused records
  exact ⟨hused, makesBags_generic, by decide, hpages, bags, hlists, hfields.trans hcolumns,
    hparts 2 2 (by decide) hpages (fun _ => generic) fun _ => makesBags_generic⟩

end Mapper

end QueryRows
