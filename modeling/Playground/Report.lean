import Playground.Fault
import Playground.Json.Value

/-! Reports: the one result of every run, with its rendering for a terminal. Metadata are JSON
members; setting a key again replaces its value. -/
namespace Playground

inductive Status where
  | success | warning | error
  deriving DecidableEq, Repr

namespace Status

def name : Status → String
  | .success => "success"
  | .warning => "warning"
  | .error => "error"

def glyph : Status → String
  | .success => "✓"
  | .warning => "⚠"
  | .error => "✗"

end Status

inductive Severity where
  | info | warning | error
  deriving DecidableEq, Repr

def Severity.name : Severity → String
  | .info => "info"
  | .warning => "warning"
  | .error => "error"

structure Diagnostic where
  severity : Severity
  text : String
  deriving DecidableEq, Repr

structure Report where
  status : Status
  message : String
  diagnostics : List Diagnostic := []
  metadata : Json.Members := []

namespace Report

def success (message : String) : Report := { status := .success, message }

def warning (message : String) : Report := { status := .warning, message }

def error (message : String) : Report := { status := .error, message }

def withDiagnostics (report : Report) (diagnostics : List Diagnostic) : Report :=
  { report with diagnostics := report.diagnostics ++ diagnostics }

def withDiagnostic (report : Report) (severity : Severity) (text : String) : Report :=
  report.withDiagnostics [⟨severity,text⟩]

def withMetadata (report : Report) (key : String) (value : Json) : Report :=
  { report with metadata := report.metadata.insert key value }

def errorClassKey : String := "error_class"

def withErrorClass (report : Report) (fault : Fault) : Report :=
  report.withMetadata errorClassKey (.string fault.faultClass.name)

def render (report : Report) : String :=
  report.diagnostics.foldl (fun text d => text ++ "\n  - " ++ d.text)
    (report.status.glyph ++ " " ++ report.message)

def diagnosticsJson (report : Report) : Json :=
  .array (report.diagnostics.map fun d =>
    .mkObject [("severity",.string d.severity.name),("text",.string d.text)])

def fields (report : Report) : List (String × Json) :=
  [("status",.string report.status.name),("message",.string report.message),
    ("diagnostics",report.diagnosticsJson),("metadata",.object report.metadata)]

end Report
end Playground
