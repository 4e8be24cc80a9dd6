import Playground.Check
import Playground.Json.Printer
import Playground.Json.Reader
import Playground.Preview
import Playground.Report.Transcript
import Playground.Sql.Analysis

/-! The reports of the runs that need nobody else: evaluated scripts, checked sources, previews,
JSON documents and SQL scripts. -/
namespace Playground.Engine

structure ScriptOutcome where
  logs : List (Stream × String) := []
  error : Option String := none
  value : Option String := none
  deriving DecidableEq, Repr

def ScriptOutcome.transcript (outcome : ScriptOutcome) : Transcript :=
  outcome.logs.foldl (fun t (stream,text) => t.pushBlock stream text) {}

def ScriptOutcome.report (outcome : ScriptOutcome) : Report :=
  let transcript := outcome.transcript
  match outcome.error with
  | some message =>
    let report := Report.error s!"JavaScript Error: {message}"
    if transcript.isEmpty then report
    else report.withDiagnostic .info ("Output before the error:\n" ++ transcript.render)
  | none =>
    let transcript := match outcome.value with
      | some value => transcript.push .return value
      | none => transcript
    transcript.report .success "JavaScript"

def scriptReport : Except Fault ScriptOutcome → Report
  | .ok outcome => outcome.report
  | .error fault =>
    (Report.error s!"JavaScript host unavailable: {fault.message}").withErrorClass fault

def issueJson (issue : Check.Issue) : Json :=
  .mkObject [("kind",.string issue.kind.name),("detail",.string issue.detail)]

def issuesReport (language : Language) (issues : List Check.Issue) : Report :=
  (Report.warning s!"{language.displayName} code issues found")
    |>.withDiagnostics (issues.map fun issue => ⟨.warning,issue.detail⟩)
    |>.withDiagnostic .info "Fix these issues for successful compilation."
    |>.withMetadata "issues" (.array (issues.map issueJson))

def checkedReport (language : Language) (source : String) : Report :=
  (Report.success s!"{language.displayName} code appears valid")
    |>.withDiagnostics ((Check.summary source language).map fun line => ⟨.info,line⟩)
    |>.withDiagnostic .info "Not executed: remote execution is not configured"

def jsonReport (source : String) : Report :=
  match Json.parse source with
  | .ok value => .success ("Valid JSON:\n" ++ value.pretty 0)
  | .error message => .error s!"Invalid JSON: {message}"

def sqlReport (source : String) : Report :=
  let analysis := Sql.analyze source.toList
  let operations := analysis.distinctOperations.map Sql.Operation.description
  let named := "Operation: " ++ String.intercalate ", " operations
  if analysis.issues.isEmpty then
    (Report.success "SQL syntax appears valid")
      |>.withDiagnostic .info named
      |>.withDiagnostic .info "SQL execution requires database connection"
  else
    (Report.warning "SQL issues found")
      |>.withDiagnostics (analysis.issues.map fun issue => ⟨.warning,issue⟩)
      |>.withDiagnostic .info named

def takenText : Markup → String
  | .document => "HTML opened in preview"
  | .stylesheet => "CSS applied to current page"

def refusedText : Markup → String
  | .document => "Could not open the preview"
  | .stylesheet => "Could not apply the stylesheet"

def markupReport (markup : Markup) : Except Fault Unit → Report
  | .ok () => .success (takenText markup)
  | .error fault => .error s!"{refusedText markup}: {fault.message}"

end Playground.Engine
