import QueryRows.Statement
import Mathlib.Logic.Function.Basic
/-!
# SentTexts — a log and the drivers are given the same texts

A statement is called again and again, each time with one of several replaying drivers.  A call sends its text when the
driver is connected and the text is there (`Session.sentText?`); what is mapped afterwards, or fails to be, has no part in
it.  So the log gains, in the order of the calls, what the drivers gain, one text for each such call, and every other call
leaves everything as it was (`Session.log_eq_executedBy`).
-/
namespace QueryRows

inductive StatementCall where
  | query (values : Source)
  | queryWindow (values : Source) (start size : Nat)
  | queryText (text : String)

namespace StatementCall

/-- **Makes a call** with a driver: the statement and the driver afterwards, and what comes of it. -/
def on (s : Statement) (d : ReplayDriver) :
    StatementCall → Statement × ReplayDriver × Except StatementError MappedTable
  | .query values => s.query d values
  | .queryWindow values start size => s.queryWindow d values start size
  | .queryText text => s.queryText d text

/-- The text of a call: the template with its values, or the one it gives. -/
def text (t : Template) : StatementCall → Except TemplateError String
  | .query values => t.substitute values
  | .queryWindow values _ _ => t.substitute values
  | .queryText text => .ok text

/-- The first record and the number of records that a call maps, where no number stands for all. -/
def window : StatementCall → Nat × Nat
  | .queryWindow _ start size => (start, size)
  | _ => (0, 0)

variable {s : Statement} {d : ReplayDriver}

/-- The connection is looked at first, whether or not there is a text. -/
theorem on_of_disconnected (h : d.connected = false) (call : StatementCall) :
    call.on s d = (s, d, .error .notConnected) := by
  cases call <;> simp [on, Statement.query, Statement.queryWindow, Statement.queryText, QueryDriver.isConnected, h]

theorem on_of_text_error (h : d.connected = true) {call : StatementCall} {e : TemplateError}
    (he : call.text s.template = .error e) : call.on s d = (s, d, .error (.template e)) := by
  cases call with
  | query values =>
    have he : s.template.substitute values = .error e := he
    simp [on, Statement.query, Statement.queryWindow, QueryDriver.isConnected, h, he]
  | queryWindow values start size =>
    have he : s.template.substitute values = .error e := he
    simp [on, Statement.queryWindow, QueryDriver.isConnected, h, he]
  | queryText text => cases he

theorem send_eq (s : Statement) (d : ReplayDriver) (text : String) (start size : Nat) :
    s.send d text start size =
      ({ s.note text with mapper := (s.mapper.run d.records start size).1 },
        { d with executed := d.executed ++ [text] }, (s.mapper.run d.records start size).2.mapError .mapping) := rfl

/-- **A text that is there goes to the log and to the driver**, whatever the mapper makes of the records. -/
theorem on_of_text_ok (h : d.connected = true) {call : StatementCall} {text : String}
    (ht : call.text s.template = .ok text) :
    call.on s d =
      ({ s.note text with mapper := (s.mapper.run d.records call.window.1 call.window.2).1 },
        { d with executed := d.executed ++ [text] },
        (s.mapper.run d.records call.window.1 call.window.2).2.mapError .mapping) := by
  cases call with
  | query values =>
    have ht : s.template.substitute values = .ok text := ht
    simp [on, Statement.query, Statement.queryWindow, QueryDriver.isConnected, h, ht, send_eq, window]
  | queryWindow values start size =>
    have ht : s.template.substitute values = .ok text := ht
    simp [on, Statement.queryWindow, QueryDriver.isConnected, h, ht, send_eq, window]
  | queryText text' =>
    cases ht
    simp [on, Statement.queryText, QueryDriver.isConnected, h, send_eq, window]

end StatementCall

/-- A statement and the drivers that it is called with, by number. -/
structure Session where
  statement : Statement
  drivers : Nat → ReplayDriver

namespace Session

def outcome (x : Session) (c : Nat × StatementCall) : Except StatementError MappedTable :=
  (c.2.on x.statement (x.drivers c.1)).2.2

def after (x : Session) (c : Nat × StatementCall) : Session :=
  let (s, d, _) := c.2.on x.statement (x.drivers c.1)
  ⟨s, Function.update x.drivers c.1 d⟩

def afterAll (x : Session) (calls : List (Nat × StatementCall)) : Session := calls.foldl after x

/-- **The text that a call sends**: the driver is connected and the text is there. -/
def sentText? (x : Session) (c : Nat × StatementCall) : Option String :=
  if (x.drivers c.1).connected then (c.2.text x.statement.template).toOption else none

/-- The texts that the drivers are given during calls, in the order in which they are given. -/
def executedBy (x : Session) : List (Nat × StatementCall) → List String
  | [] => []
  | c :: calls =>
    ((x.after c).drivers c.1).executed.drop (x.drivers c.1).executed.length ++ (x.after c).executedBy calls

variable {x : Session} {c : Nat × StatementCall}

/-! ### One call -/

theorem after_of_disconnected (h : (x.drivers c.1).connected = false) :
    x.outcome c = .error .notConnected ∧ x.after c = x := by
  simp [outcome, after, StatementCall.on_of_disconnected h]

theorem after_of_text_error (h : (x.drivers c.1).connected = true) {e : TemplateError}
    (he : c.2.text x.statement.template = .error e) : x.outcome c = .error (.template e) ∧ x.after c = x := by
  simp [outcome, after, StatementCall.on_of_text_error h he]

theorem after_of_sentText?_none (h : x.sentText? c = none) : x.after c = x := by
  by_cases hc : (x.drivers c.1).connected = true
  · cases ht : c.2.text x.statement.template with
    | error e => exact (after_of_text_error hc ht).2
    | ok text => simp [sentText?, hc, ht, Except.toOption] at h
  · exact (after_of_disconnected (by simpa using hc)).2

theorem sentText?_eq_some_iff {text : String} :
    x.sentText? c = some text ↔ (x.drivers c.1).connected = true ∧ c.2.text x.statement.template = .ok text := by
  unfold sentText?
  by_cases hc : (x.drivers c.1).connected = true
  · cases ht : c.2.text x.statement.template <;> simp [hc, Except.toOption]
  · simp [hc]

theorem on_of_sentText?_some {text : String} (h : x.sentText? c = some text) :
    c.2.on x.statement (x.drivers c.1) =
      ({ x.statement.note text with
          mapper := (x.statement.mapper.run (x.drivers c.1).records c.2.window.1 c.2.window.2).1 },
        { x.drivers c.1 with executed := (x.drivers c.1).executed ++ [text] },
        (x.statement.mapper.run (x.drivers c.1).records c.2.window.1 c.2.window.2).2.mapError .mapping) :=
  StatementCall.on_of_text_ok (sentText?_eq_some_iff.1 h).1 (sentText?_eq_some_iff.1 h).2

@[simp] theorem after_template (x : Session) (c : Nat × StatementCall) :
    (x.after c).statement.template = x.statement.template := by
  cases h : x.sentText? c with
  | none => rw [after_of_sentText?_none h]
  | some text => simp [after, on_of_sentText?_some h, Statement.note]

@[simp] theorem after_connected (x : Session) (c : Nat × StatementCall) (i : Nat) :
    ((x.after c).drivers i).connected = (x.drivers i).connected := by
  cases h : x.sentText? c with
  | none => rw [after_of_sentText?_none h]
  | some text => by_cases hi : i = c.1 <;> simp [after, on_of_sentText?_some h, hi]

/-- **The log gains the text that a call sends.** -/
theorem after_log (x : Session) (c : Nat × StatementCall) :
    (x.after c).statement.log = x.statement.log.map (· ++ (x.sentText? c).toList) := by
  cases h : x.sentText? c with
  | none => simp [after_of_sentText?_none h]
  | some text => simp [after, on_of_sentText?_some h, Statement.note]

/-- **The driver of a call gains the text that it sends**, and no other driver gains any. -/
theorem after_executed (x : Session) (c : Nat × StatementCall) (i : Nat) :
    ((x.after c).drivers i).executed =
      (x.drivers i).executed ++ if c.1 = i then (x.sentText? c).toList else [] := by
  cases h : x.sentText? c with
  | none => simp [after_of_sentText?_none h]
  | some text =>
    by_cases hi : c.1 = i
    · subst hi
      simp [after, on_of_sentText?_some h]
    · simp [after, on_of_sentText?_some h, hi, Function.update_of_ne (Ne.symm hi)]

/-! ### Many calls -/

/-- What a call sends does not depend on the calls before it. -/
theorem sentText?_after (x : Session) (c : Nat × StatementCall) : (x.after c).sentText? = x.sentText? := by
  funext c'
  simp [sentText?]

theorem sentText?_afterAll : ∀ (calls : List (Nat × StatementCall)) (x : Session),
    (x.afterAll calls).sentText? = x.sentText?
  | [], _ => rfl
  | c :: calls, x => (sentText?_afterAll calls (x.after c)).trans (sentText?_after x c)

theorem afterAll_log : ∀ (calls : List (Nat × StatementCall)) (x : Session),
    (x.afterAll calls).statement.log = x.statement.log.map (· ++ calls.filterMap x.sentText?)
  | [], x => by simp [afterAll]
  | c :: calls, x => by
    have ih := afterAll_log calls (x.after c)
    rw [after_log, sentText?_after] at ih
    cases h : x.sentText? c <;> simpa [afterAll, h, Function.comp_def] using ih

theorem afterAll_executed (i : Nat) : ∀ (calls : List (Nat × StatementCall)) (x : Session),
    ((x.afterAll calls).drivers i).executed =
      (x.drivers i).executed ++ (calls.filter (·.1 = i)).filterMap x.sentText?
  | [], x => by simp [afterAll]
  | c :: calls, x => by
    have ih := afterAll_executed i calls (x.after c)
    rw [after_executed, sentText?_after] at ih
    by_cases hi : c.1 = i
    · cases h : x.sentText? c <;> simpa [afterAll, h, hi] using ih
    · simpa [afterAll, hi] using ih

theorem executedBy_eq : ∀ (calls : List (Nat × StatementCall)) (x : Session),
    x.executedBy calls = calls.filterMap x.sentText?
  | [], _ => rfl
  | c :: calls, x => by
    have ih := executedBy_eq calls (x.after c)
    rw [sentText?_after] at ih
    cases h : x.sentText? c <;> simp [executedBy, after_executed, ih, h]

/-- **What may come of one call**, and what it leaves. -/
structure Answered (x : Session) (c : Nat × StatementCall) : Prop where
  disconnected : (x.drivers c.1).connected = false → x.outcome c = .error .notConnected ∧ x.after c = x
  unrendered : (x.drivers c.1).connected = true → ∀ e, c.2.text x.statement.template = .error e →
    x.outcome c = .error (.template e) ∧ x.after c = x
  sent : (x.drivers c.1).connected = true → ∀ text, c.2.text x.statement.template = .ok text →
    let mapped := x.statement.mapper.run (x.drivers c.1).records c.2.window.1 c.2.window.2
    x.outcome c = mapped.2.mapError .mapping ∧ (x.after c).statement.mapper = mapped.1 ∧
      (x.after c).statement.log = x.statement.log.map (· ++ [text]) ∧
      ((x.after c).drivers c.1).executed = (x.drivers c.1).executed ++ [text]

theorem answered (x : Session) (c : Nat × StatementCall) : x.Answered c where
  disconnected := after_of_disconnected
  unrendered h _ he := after_of_text_error h he
  sent h text ht := by
    have hsent : x.sentText? c = some text := sentText?_eq_some_iff.2 ⟨h, ht⟩
    have hon := on_of_sentText?_some hsent
    refine ⟨congrArg (fun p => p.2.2) hon, congrArg (fun p => p.1.mapper) hon, ?_, ?_⟩
    · rw [after_log, hsent]
      rfl
    · rw [after_executed, hsent, if_pos rfl]
      rfl

/-- **A log gains what the drivers gain**, one text for each call that has one to send, in the order of the calls. -/
theorem log_eq_executedBy (x : Session) {logged : List String} (hlog : x.statement.log = some logged)
    (calls : List (Nat × StatementCall)) :
    (x.afterAll calls).statement.log = some (logged ++ x.executedBy calls) ∧
      x.executedBy calls = calls.filterMap x.sentText? ∧
      (∀ i, ((x.afterAll calls).drivers i).executed =
        (x.drivers i).executed ++ (calls.filter (·.1 = i)).filterMap x.sentText?) ∧
      (∀ i, (∀ c ∈ calls, c.1 = i) → (x.drivers i).executed = logged →
        (x.afterAll calls).statement.log = some ((x.afterAll calls).drivers i).executed) ∧
      ∀ c, (x.afterAll calls).sentText? c = x.sentText? c ∧ (x.afterAll calls).Answered c := by
  have hall : (x.afterAll calls).statement.log = some (logged ++ calls.filterMap x.sentText?) := by
    rw [afterAll_log, hlog, Option.map_some]
  refine ⟨by rw [hall, executedBy_eq], executedBy_eq calls x, fun i => afterAll_executed i calls x,
    fun i hi hsame => ?_, fun c => ⟨congrFun (sentText?_afterAll calls x) c, answered _ c⟩⟩
  have hfilter : calls.filter (·.1 = i) = calls := List.filter_eq_self.2 fun c hc => by simp [hi c hc]
  rw [hall, afterAll_executed, hfilter, hsame]

end Session

/-! ### A statement that cannot map -/

/-- A connected driver with a record and a driver that is not connected; the mapper lacks its classes. -/
def Session.unmapped : Session where
  statement :=
    (Statement.ofTemplate ⟨"return #x", '#', [⟨false, [.literal "return ".toList, .token ['x']]⟩]⟩ .empty).withLog []
  drivers
    | 0 => .ofRecords [[("n", .scalar (.long 1))]]
    | _ => .disconnected

/-- Texts are sent although none of their records is mapped; a value is missing twice, and each kind of call is made
where there is no connection. -/
theorem Session.log_eq_executedBy_unmapped :
    let one := entriesSource [("x", .long 1)]
    let calls : List (Nat × StatementCall) := [(0, .query one), (1, .queryWindow one 1 1), (0, .query (entriesSource [])),
      (0, .queryText "return #x"), (1, .query (entriesSource [])), (1, .queryText "return 2"), (0, .queryWindow one 1 1)]
    unmapped.statement.log = some [] ∧
      calls.map unmapped.sentText? = [some "return 1", none, none, some "return #x", none, none, some "return 1"] ∧
      unmapped.outcome (0, .query one) = .error (.mapping (.compile (.missingClass .table))) ∧
      unmapped.outcome (0, .query (entriesSource [])) = .error (.template (.missingValue "x")) ∧
      unmapped.outcome (1, .query (entriesSource [])) = .error .notConnected ∧
      (unmapped.afterAll calls).statement.log = some ["return 1", "return #x", "return 1"] ∧
      ((unmapped.afterAll calls).drivers 0).executed = ["return 1", "return #x", "return 1"] ∧
      ((unmapped.afterAll calls).drivers 1).executed = [] := by
  intro one calls
  have hempty : unmapped.statement.log = some [] := rfl
  have hsent : calls.map unmapped.sentText? =
      [some "return 1", none, none, some "return #x", none, none, some "return 1"] := by rfl
  obtain ⟨hlog, hall, heach, -⟩ := log_eq_executedBy unmapped hempty calls
  refine ⟨hempty, hsent, by rfl, by rfl, by rfl, ?_, ?_, ?_⟩
  · rw [hlog, hall]
    rfl
  · rw [heach]
    rfl
  · rw [heach]
    rfl

end QueryRows
