import QueryRows.Command.Run
import QueryRows.Proofs.Results
import QueryRows.Proofs.SentTexts
/-!
# MapPlans — records map alike with values and without

Values make a command send the query of its statement first, which answers with the records that it would have mapped
anyway.  Either way the mapper is a new one with the choices of the description, where a style on the command line goes
before the described one (`StatementConfig.chosen`).  So where the query can be sent at all, both ways leave the same rows,
columns and files, or fail alike (`MapPlan.queried_eq_direct`).
-/
namespace QueryRows

/-- **What a description and a style before it come to**: bags, and every choice that is made. -/
def StatementConfig.chosen (c : StatementConfig) (style : Option NameStyle) : MappingConfig where
  table := some bagListClass
  row := some bagClass
  fill := c.fill
  rowFill := c.rowFill
  style := style.getD c.style
  relationKeys := c.relationKeys

def Mapper.ofConfig (c : MappingConfig) : Mapper := ⟨c, none, 0⟩

namespace MapPlan

/-- No choice is made over again by a later one, but the style. -/
theorem restyle_setAll_settings (c : StatementConfig) (style : Option NameStyle) :
    (Mapper.generic.setAll c.settings).restyle style = .ofConfig (c.chosen style) := by
  obtain ⟨template, fill, rowFill, described, keys, marker⟩ := c
  cases fill <;> cases rowFill <;> cases keys <;> cases style <;> rfl

theorem ofConfig_run (c : StatementConfig) (style : Option NameStyle) (records : List Record) (start size : Nat) :
    (ofConfig c style).run records start size =
      ([], ((Mapper.ofConfig (c.chosen style)).run records start size).2.mapError .mapping) := by
  rw [ofConfig, restyle_setAll_settings]
  rfl

variable {c : StatementConfig} {entries : List (String × Value)} {template : Template} {text : String}

theorem genericStatement_eq (h : c.parseTemplate = .ok template) :
    c.genericStatement = .ok (.ofTemplate template (Mapper.generic.setAll c.settings)) := by
  rw [StatementConfig.genericStatement, h]

/-- **A statement whose query is sent** maps what the driver replays. -/
theorem queried_run {s : Statement} (hlog : s.log = some [])
    (htext : s.template.substitute (entriesSource entries) = .ok text) (records : List Record) (start size : Nat) :
    (queried s entries).run records start size = ([text], (s.mapper.run records start size).2.mapError .mapping) := by
  let d := ReplayDriver.ofRecords records
  let call := StatementCall.queryWindow (entriesSource entries) start size
  change ((call.on s d).1.log.getD [], (call.on s d).2.2) = _
  have hsent : call.text s.template = .ok text := htext
  have hnote : (s.note text).log = some [text] := by simp [Statement.note, hlog]
  rw [StatementCall.on_of_text_ok rfl hsent]
  exact Prod.ext (congrArg (·.getD []) hnote) rfl

theorem ofStatement_run (htext : template.substitute (entriesSource entries) = .ok text) (style : Option NameStyle)
    (records : List Record) (start size : Nat) :
    (ofStatement (.ofTemplate template (Mapper.generic.setAll c.settings)) style entries).run records start size =
      ([text], ((Mapper.ofConfig (c.chosen style)).run records start size).2.mapError .mapping) := by
  rw [ofStatement, queried_run rfl htext, ← restyle_setAll_settings]
  rfl

/-- **Records map alike with values and without**, as the choices say, and a command leaves the same either way; with
values the log is given one text, if there are records. -/
theorem queried_eq_direct (hparse : c.parseTemplate = .ok template)
    (htext : template.substitute (entriesSource entries) = .ok text) :
    (∃ s, c.genericStatement = .ok s ∧ ∀ style records start size,
      let mapped := ((Mapper.ofConfig (c.chosen style)).run records start size).2.mapError .mapping
      (ofStatement s style entries).run records start size = ([text], mapped) ∧
        (ofConfig c style).run records start size = ([], mapped)) ∧
      ∀ (files : FileSource) (job : MapJob) (statement values : String),
        loadStatement files statement = .ok c → loadValues files values = .ok entries →
        let direct := ({ job with description := some ⟨statement, none⟩ } : MapJob).run files
        let queried := ({ job with description := some ⟨statement, some values⟩ } : MapJob).run files
        queried = (((loadRecords files job.records).toOption.map fun _ => text).toList, direct.2) := by
  have hs := genericStatement_eq hparse
  refine ⟨⟨_, hs, fun style records start size =>
    ⟨ofStatement_run htext style records start size, ofConfig_run c style records start size⟩⟩, ?_⟩
  intro files job statement values hstatement hvalues
  cases hrecords : loadRecords files job.records with
  | error e => simp [MapJob.run, hrecords, Except.toOption]
  | ok records =>
    have hdirect := ofConfig_run c job.style records job.start job.size
    have hqueried := ofStatement_run (c := c) htext job.style records job.start job.size
    simp [MapJob.run, MapJob.plan, hrecords, hstatement, hvalues, hs, Except.map, hdirect, hqueried, Except.toOption]
    rfl

/-- The first of two records is passed over, and the command line asks for another style than the description. -/
theorem queried_eq_direct_restyled :
    let c : StatementConfig := ⟨"return #x", none, some "put(colName, colValue)", .lower, none, none⟩
    let template : Template := ⟨"return #x", '#', [⟨false, [.literal "return ".toList, .token ['x']]⟩]⟩
    let files : FileSource := ([("q.yaml", "template: 'return #x'\nrow_fill: put(colName, colValue)\nname_style: lower\n"),
      ("v.yaml", "x: 1\n"), ("r.json", "[\x7b\"n\": \x7b\"Id\": 7\x7d\x7d, \x7b\"n\": \x7b\"Id\": 8\x7d\x7d]")].lookup ·)
    let direct : MapJob := ⟨"r.json", some ⟨"q.yaml", none⟩, 1, 1, some .normal, .json, some "columns"⟩
    let queried : MapJob := ⟨"r.json", some ⟨"q.yaml", some "v.yaml"⟩, 1, 1, some .normal, .json, some "columns"⟩
    ∃ entries, c.parseTemplate = .ok template ∧ template.substitute (entriesSource entries) = .ok "return 1" ∧
      loadStatement files "q.yaml" = .ok c ∧ loadValues files "v.yaml" = .ok entries ∧
      (direct.run files).2 = .ok ⟨"[\n  \x7b\n    \"Id\": 8\n  \x7d\n]\n",
        some ("columns", (⟨.normal, ["Id"]⟩ : Metadata).save)⟩ ∧
      queried.run files = (["return 1"], (direct.run files).2) := by
  intro c template files direct queried
  have hparse : c.parseTemplate = .ok template := ok_of_toOption (by decide +kernel)
  have hstatement : loadStatement files "q.yaml" = .ok c := ok_of_toOption (by decide +kernel)
  have hrecords : (loadRecords files "r.json").toOption.isSome = true := by decide +kernel
  have hloaded : (loadValues files "v.yaml").toOption.bind
      (fun entries => (template.substitute (entriesSource entries)).toOption) = some "return 1" := by decide +kernel
  obtain ⟨entries, hentries, htext⟩ := Option.bind_eq_some_iff.1 hloaded
  have hvalues : loadValues files "v.yaml" = .ok entries := ok_of_toOption hentries
  obtain ⟨records, h⟩ := Option.isSome_iff_exists.1 hrecords
  have hrun := (queried_eq_direct hparse (ok_of_toOption htext)).2 files direct "q.yaml" "v.yaml" hstatement hvalues
  refine ⟨entries, hparse, ok_of_toOption htext, hstatement, hvalues, ok_of_toOption (by decide +kernel), ?_⟩
  simpa [direct, h] using hrun

end MapPlan

end QueryRows
