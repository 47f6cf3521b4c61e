import QueryFlow.Proofs.CommandLine.Steps
import Mathlib.Control.Monad.Basic

/-!
What a run on a file of queries leaves on the output. The main statement says that it is all or
nothing: a run that fails has written nothing, and a run that ends in order has written one report
for each statement of the file, in their order and numbered from one, where a statement that is no
query has the reason in place of its report. What a report tells about a graph is not looked at.
-/

namespace QueryFlow.CommandLine

open Step

/-- What a command analyzes, if it is there for that. -/
def Command.analysis? : Command → Option Analysis
  | .visualize a _ | .lineage a => some a
  | _ => none

/-- The command lays graphs out. -/
def Command.layout : Command → Bool
  | .visualize _ layout => layout
  | _ => false

def Command.onlyLineage : Command → Bool
  | .lineage _ => true
  | _ => false

section InPlace

variable {β : Type}

/-- One item for each statement, in their order and with numbers from a first one on: the item that
refuses what is no query, and an item that shows the graph of a query. -/
inductive InPlace (ctx : BuildContext) (refusal : Nat → β) (Shows : Nat → Graph → β → Prop) :
    Nat → List Sql.Statement → List β → Prop
  | nil {n : Nat} : InPlace ctx refusal Shows n [] []
  | refused {n : Nat} {s : Sql.Statement} {rest : List Sql.Statement} {items : List β}
      (other : Query.ofStatement? s = none) (more : InPlace ctx refusal Shows (n + 1) rest items) :
      InPlace ctx refusal Shows n (s :: rest) (refusal n :: items)
  | shown {n : Nat} {s : Sql.Statement} {q : Query} {rest : List Sql.Statement} {item : β}
      {items : List β} (found : Query.ofStatement? s = some q) (shows : Shows n (q.graph ctx) item)
      (more : InPlace ctx refusal Shows (n + 1) rest items) :
      InPlace ctx refusal Shows n (s :: rest) (item :: items)

theorem InPlace.map {γ : Type} {ctx : BuildContext} {refusal : Nat → β}
    {Shows : Nat → Graph → β → Prop} {refusal' : Nat → γ} {Shows' : Nat → Graph → γ → Prop}
    {f : β → γ} (refuses : ∀ n, f (refusal n) = refusal' n)
    (shows' : ∀ n g item, Shows n g item → Shows' n g (f item)) {n : Nat}
    {script : List Sql.Statement} {items : List β} (h : InPlace ctx refusal Shows n script items) :
    InPlace ctx refusal' Shows' n script (items.map f) := by
  induction h with
  | nil => exact .nil
  | refused other _ ih =>
    rw [List.map_cons, refuses]
    exact .refused other ih
  | shown found shows _ ih => exact .shown found (shows' _ _ _ shows) ih

end InPlace

def heading (n : Nat) : List String := ["", "── Statement " ++ toString n ++ " ──"]

/-- The report on a statement that is no query. -/
def refusalText (n : Nat) : String :=
  Help.lines (heading n ++ ["   ⚠️  " ++ FlowFault.notSelect.message])

def ShowsText (onlyLineage : Bool) (n : Nat) (g : Graph) (text : String) : Prop :=
  text = Help.lines
    (heading n ++ ((if onlyLineage then [] else Report.graphLines g) ++ Report.lineageLines g))

/-- The report on a statement that is no query, as JSON. -/
def refusalJson (n : Nat) : Json :=
  .object [("statement", .int n), ("error", .string FlowFault.notSelect.message)]

/-- A value is the report on a graph, with some positions. -/
def ShowsJson (onlyLineage : Bool) (n : Nat) (g : Graph) (j : Json) : Prop :=
  ∃ positions,
    j = .object (("statement", .int n) :: Report.fields onlyLineage ⟨n, .ok g, positions⟩)

/-- An output consists of the reports on a script. -/
def Reports (ctx : BuildContext) (onlyLineage : Bool) (script : List Sql.Statement)
    (output : String) : ReportForm → Prop
  | .text => ∃ reports, InPlace ctx refusalText (ShowsText onlyLineage) 1 script reports ∧
      output = String.join reports
  | .json => ∃ reports, InPlace ctx refusalJson (ShowsJson onlyLineage) 1 script reports ∧
      output = (Json.array reports).indented ++ "\n"

/-- What an analysis reads: the dialect and the known tables, and the statements of its file. -/
structure Analysis.Reads (w : World) (a : Analysis) (ctx : BuildContext)
    (script : List Sql.Statement) : Prop where
  dialect : Sql.Dialect.resolve w.settings a.dialect = .ok ctx.dialect
  schema : (loadSchema w a).result = .ok ctx.schema
  script : ∃ text, w.files.text a.file = .ok text ∧ Sql.readScript ctx.dialect text = .ok script

variable {w : World} {a : Analysis} {ctx : BuildContext} {layout onlyLineage : Bool}
variable {script : List Sql.Statement} {results : List Result}

/-- The result of a statement that is no query. -/
def refusalResult (n : Nat) : Result := ⟨n, .error .notSelect, []⟩

def ShowsResult (n : Nat) (g : Graph) (r : Result) : Prop := ∃ positions, r = ⟨n, .ok g, positions⟩

/-- Every statement has its result in place, if they all have one. -/
theorem inPlace_resultsOf {n calls : Nat}
    (done : (resultsOf w ctx layout n calls script).result = .ok results) :
    InPlace ctx refusalResult ShowsResult n script results := by
  induction script generalizing n calls results with
  | nil =>
    cases done
    exact .nil
  | cons s rest ih =>
    unfold resultsOf at done
    obtain ⟨_, -, done⟩ := result_bind_eq_ok_iff.mp done
    cases found : Query.ofStatement? s with
    | none =>
      have flow : s.flow ctx = .error .notSelect := by rw [Sql.Statement.flow, found]
      rw [flow] at done
      obtain ⟨more, later, done⟩ := result_bind_eq_ok_iff.mp done
      cases done
      exact .refused found (ih later)
    | some q =>
      have flow : s.flow ctx = .ok (q.graph ctx) := by rw [Sql.Statement.flow, found]
      rw [flow] at done
      cases layout with
      | true =>
        obtain ⟨positions, -, done⟩ := result_bind_eq_ok_iff.mp done
        obtain ⟨more, later, done⟩ := result_bind_eq_ok_iff.mp done
        cases done
        exact .shown found ⟨positions, rfl⟩ (ih later)
      | false =>
        obtain ⟨more, later, done⟩ := result_bind_eq_ok_iff.mp done
        cases done
        exact .shown found ⟨[], rfl⟩ (ih later)

/-- Results are those of all statements that were read. -/
theorem inPlace_analyze (done : (analyze w a layout).result = .ok results) :
    ∃ ctx script, a.Reads w ctx script ∧
      InPlace ctx refusalResult ShowsResult 1 script results := by
  obtain ⟨_, -, done⟩ := result_bind_eq_ok_iff.mp done
  obtain ⟨d, chosen, done⟩ := result_bind_eq_ok_iff.mp done
  obtain ⟨schema, loaded, done⟩ := result_bind_eq_ok_iff.mp done
  obtain ⟨script, read, done⟩ := result_bind_eq_ok_iff.mp done
  exact ⟨⟨d, schema⟩, script,
    ⟨result_chooseDialect_iff.mp chosen, loaded, result_readQueries_iff.mp read⟩,
    inPlace_resultsOf done⟩

theorem text_single (onlyLineage : Bool) (r : Result) :
    Report.text onlyLineage [r] = Help.lines (Report.textLines onlyLineage r) := by
  rw [Report.text, List.flatMap_singleton, Help.lines]

/-- What is written about results consists of one report for each of them. -/
theorem reports_writeReports (form : ReportForm) (onlyLineage : Bool)
    (h : InPlace ctx refusalResult ShowsResult 1 script results) :
    Reports ctx onlyLineage script (writeReports form onlyLineage results).output form := by
  cases form with
  | text =>
    refine ⟨results.map fun r => Report.text onlyLineage [r], h.map (fun n => ?_) ?_,
      output_writeReports_text onlyLineage results⟩
    · exact text_single onlyLineage _
    · rintro n g _ ⟨positions, rfl⟩
      exact text_single onlyLineage _
  | json =>
    refine ⟨results.map (Report.toJson onlyLineage), h.map (fun n => ?_) ?_,
      output_writeReports_json onlyLineage results⟩
    · rfl
    · rintro n g _ ⟨positions, rfl⟩
      exact ⟨positions, rfl⟩

/-- A report that fails has failed in front of the first thing that it writes. -/
theorem output_report_of_error {e : Failure}
    (failed : (report w a layout onlyLineage).result = .error e) :
    (report w a layout onlyLineage).output = "" := by
  cases found : (analyze w a layout).result with
  | error f => exact (output_bind_of_error found _).trans (silent_analyze layout)
  | ok results =>
    rw [report, result_bind found, result_writeReports] at failed
    cases failed

theorem reports_report (done : (report w a layout onlyLineage).result = .ok ()) :
    ∃ ctx script, a.Reads w ctx script ∧
      Reports ctx onlyLineage script (report w a layout onlyLineage).output a.form := by
  obtain ⟨results, found, -⟩ := result_bind_eq_ok_iff.mp done
  obtain ⟨ctx, script, reads, inPlace⟩ := inPlace_analyze found
  refine ⟨ctx, script, reads, ?_⟩
  rw [report, output_bind found, silent_analyze, String.empty_append]
  exact reports_writeReports a.form onlyLineage inPlace

theorem execute_of_analysis {command : Command} (analysis : command.analysis? = some a) :
    execute w (some command) = report w a command.layout command.onlyLineage := by
  cases command <;> cases analysis <;> rfl

/-- A run that analyzes a file either fails, with a message or out of order, and has written
nothing. Or it ends in order and has written the reports on the statements of the file. -/
theorem output_all_or_nothing {arguments : List String} {level : Option String} {command : Command}
    (called : Invocation.ofArguments arguments = .ok ⟨level, some command⟩)
    (analysis : command.analysis? = some a) :
    ((course w arguments).output = "" ∧
      ((course w arguments).ending = .exit 1 ∨ ∃ f, (course w arguments).ending = .failed f)) ∨
    ((course w arguments).ending = .exit 0 ∧ ∃ ctx script, a.Reads w ctx script ∧
      Reports ctx command.onlyLineage script (course w arguments).output a.form) := by
  simp only [course, called]
  cases loggerOf w ⟨level, some command⟩ with
  | error f => exact .inl ⟨rfl, .inr ⟨f, rfl⟩⟩
  | ok logger =>
    dsimp only
    rw [execute_of_analysis analysis]
    cases ended : (report w a command.layout command.onlyLineage).result with
    | error e =>
      have silent := output_report_of_error ended
      cases e with
      | complaint c => exact .inl ⟨silent, .inl rfl⟩
      | _ => exact .inl ⟨silent, .inr ⟨_, rfl⟩⟩
    | ok _ => exact .inr ⟨rfl, reports_report ended⟩

/-- A file of two queries, and a solver that answers about the first one and then is gone. -/
def unsolvedWorld : World :=
  ⟨[("q.sql", .file "SELECT id FROM orders; SELECT id FROM users".toUTF8)], .ok {},
    fun calls => if calls = 0 then .output "\x7b\x7d" else .absent⟩

theorem output_all_or_nothing_unsolved :
    Invocation.ofArguments ["visualize", "q.sql", "--format", "json", "--layout"] =
        .ok ⟨none, some (.visualize ⟨"q.sql", none, none, .json⟩ true)⟩ ∧
      (Command.visualize ⟨"q.sql", none, none, .json⟩ true).analysis? =
        some ⟨"q.sql", none, none, .json⟩ ∧
      (course unsolvedWorld ["visualize", "q.sql", "--format", "json", "--layout"]).output = "" ∧
      (course unsolvedWorld ["visualize", "q.sql", "--format", "json", "--layout"]).ending =
        .exit 1 := by
  have called : Invocation.ofArguments ["visualize", "q.sql", "--format", "json", "--layout"] =
      .ok ⟨none, some (.visualize ⟨"q.sql", none, none, .json⟩ true)⟩ := by decide +kernel
  have ending : (course unsolvedWorld
      ["visualize", "q.sql", "--format", "json", "--layout"]).ending = .exit 1 := by decide +kernel
  rcases output_all_or_nothing (w := unsolvedWorld) called rfl with ⟨nothing, _⟩ | ⟨inOrder, _⟩
  · exact ⟨called, rfl, nothing, ending⟩
  · rw [ending] at inOrder
    cases inOrder

end QueryFlow.CommandLine
