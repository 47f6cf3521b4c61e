import QueryFlow.CommandLine.Run

/-!
What the steps of a run write and whether they can fail. Everything up to the results of the
statements may fail and writes nothing, whatever the files, the settings and the solver are. A step
that only reads succeeds just when what it reads can be read. Writing the reports cannot fail, and
it writes one report after the other. Records for the log are left out.
-/

namespace QueryFlow.CommandLine

namespace Step

variable {α β : Type} {s : Step α} {f : α → Step β}

theorem result_bind {a : α} (found : s.result = .ok a) (f : α → Step β) :
    (s >>= f).result = (f a).result := by
  change (Step.bind s f).result = _
  rw [Step.bind, found]

theorem output_bind {a : α} (found : s.result = .ok a) (f : α → Step β) :
    (s >>= f).output = s.output ++ (f a).output := by
  change (Step.bind s f).output = _
  rw [Step.bind, found]

theorem output_bind_of_error {e : Failure} (failed : s.result = .error e) (f : α → Step β) :
    (s >>= f).output = s.output := by
  change (Step.bind s f).output = _
  rw [Step.bind, failed]

theorem result_bind_eq_ok_iff {b : β} :
    (s >>= f).result = .ok b ↔ ∃ a, s.result = .ok a ∧ (f a).result = .ok b := by
  change (Step.bind s f).result = _ ↔ _
  rw [Step.bind]
  cases s.result <;> simp

theorem result_mapError_eq_ok_iff {ε : Type} {r : Except ε α} {h : ε → Failure} {a : α} :
    (of (r.mapError h)).result = .ok a ↔ r = .ok a := by
  cases r with
  | error e => exact iff_of_false nofun nofun
  | ok b => constructor <;> (rintro ⟨⟩; rfl)

/-- The step writes nothing, whether it fails or not. -/
def Silent (s : Step α) : Prop := s.output = ""

theorem silent_pure (a : α) : (pure a : Step α).Silent := rfl

theorem silent_of (r : Except Failure α) : (of r).Silent := rfl

theorem silent_say (records : List Logging.Record) : (say records).Silent := rfl

theorem silent_complain (c : Complaint) : (complain c : Step α).Silent := rfl

theorem Silent.bind (first : s.Silent) (next : ∀ a, (f a).Silent) : (s >>= f).Silent := by
  cases found : s.result with
  | error e => exact (output_bind_of_error found f).trans first
  | ok a =>
    rw [Silent, output_bind found, first, next a]
    rfl

end Step

open Step

variable {w : World} {a : Analysis}

theorem silent_findFile : (findFile w a).Silent := by
  unfold findFile
  split
  · exact silent_of _
  · exact silent_complain _
  · exact silent_pure _

theorem silent_chooseDialect : (chooseDialect w a).Silent := by
  unfold chooseDialect
  split
  · exact silent_pure _
  · exact silent_complain _
  · exact silent_of _

theorem silent_loadScript (path : String) : (loadScript w a path).Silent :=
  (silent_of _).bind fun _ => (silent_of _).bind fun _ => (silent_say _).bind fun _ =>
    (silent_of _).bind fun _ => (silent_say _).bind fun _ => silent_pure _

theorem silent_loadSchema : (loadSchema w a).Silent := by
  unfold loadSchema
  split
  · exact silent_pure _
  · split
    · exact silent_of _
    · exact silent_loadScript _

theorem silent_readQueries (d : Sql.Dialect) : (readQueries w a d).Silent := by
  refine (silent_of _).bind fun text => ?_
  cases Sql.readScript d text with
  | error e => exact silent_complain _
  | ok script => exact (silent_say _).bind fun _ => silent_pure _

theorem silent_positionsOf (g : Graph) (calls : Nat) : (positionsOf w g calls).Silent := rfl

/-- No number of statements makes their results write, not even when a later one fails. -/
theorem silent_resultsOf (ctx : BuildContext) (layout : Bool) (number calls : Nat)
    (script : List Sql.Statement) : (resultsOf w ctx layout number calls script).Silent := by
  induction script generalizing number calls with
  | nil => exact silent_pure _
  | cons s rest ih =>
    refine (silent_say _).bind fun _ => ?_
    split
    · exact (silent_positionsOf _ _).bind fun _ => (ih _ _).bind fun _ => silent_pure _
    · exact (ih _ _).bind fun _ => silent_pure _

theorem silent_analyze (layout : Bool) : (analyze w a layout).Silent :=
  silent_findFile.bind fun _ => silent_chooseDialect.bind fun _ => silent_loadSchema.bind fun _ =>
    (silent_readQueries _).bind fun _ => silent_resultsOf _ _ _ _ _

theorem result_chooseDialect_iff {d : Sql.Dialect} :
    (chooseDialect w a).result = .ok d ↔ Sql.Dialect.resolve w.settings a.dialect = .ok d := by
  unfold chooseDialect
  cases Sql.Dialect.resolve w.settings a.dialect with
  | ok _ => simp [pure]
  | error f => cases f <;> simp [complain, of]

theorem result_readQueries_iff {d : Sql.Dialect} {script : List Sql.Statement} :
    (readQueries w a d).result = .ok script ↔
      ∃ text, w.files.text a.file = .ok text ∧ Sql.readScript d text = .ok script := by
  unfold readQueries
  rw [result_bind_eq_ok_iff]
  refine exists_congr fun text => and_congr result_mapError_eq_ok_iff ?_
  cases Sql.readScript d text with
  | error e => simp [complain, of]
  | ok statements => simp [result_bind_eq_ok_iff, say, pure]

theorem result_writeReports (form : ReportForm) (onlyLineage : Bool) (results : List Result) :
    (writeReports form onlyLineage results).result = .ok () := by
  cases form with
  | json => rfl
  | text =>
    induction results with
    | nil => rfl
    | cons r rest ih => exact ih

theorem output_writeReports_json (onlyLineage : Bool) (results : List Result) :
    (writeReports .json onlyLineage results).output =
      (Report.json onlyLineage results).indented ++ "\n" :=
  String.empty_append

/-- A report is written behind the reports in front of it. -/
theorem output_writeReports_text (onlyLineage : Bool) (results : List Result) :
    (writeReports .text onlyLineage results).output =
      String.join (results.map fun r => Report.text onlyLineage [r]) := by
  induction results with
  | nil => rfl
  | cons r rest ih =>
    change ("" ++ Report.text onlyLineage [r]) ++ (writeReports .text onlyLineage rest).output = _
    rw [ih, String.empty_append, List.map_cons, String.join_cons]

end QueryFlow.CommandLine
