import Playground.Json.Printer
import Playground.Json.Reader
import Playground.Net.Exchange
import Playground.Report
import Playground.Text.Basic

/-! What the answers of the remote service mean: the report on a run that it carried out, and the
message of a request that it rejected. -/
namespace Playground.Remote

def shownText? : Json → Option String
  | .string "" => none
  | .string text => some text
  | .number n => some n.text
  | _ => none

def field? (answer : Json.Members) (name : String) : Option String :=
  (answer.get? name).bind shownText?

def remoteKey : String := "remote"

def renderedFields : List String := ["output","error","cputime","memory"]

def otherFields (answer : Json.Members) : Json.Members :=
  answer.filter fun member => !renderedFields.contains member.1

def usageDiagnostics (answer : Json.Members) : List Diagnostic :=
  let cpu := (field? answer "cputime").map fun seconds => ⟨.info,s!"CPU Time: {seconds}s"⟩
  let memory := (field? answer "memory").map fun amount => ⟨.info,s!"Memory: {amount}"⟩
  cpu.toList ++ memory.toList

def noOutput : String := "Code executed successfully (no output)"

def compilationReport (error : String) : Report :=
  (Report.error s!"Remote compilation error:\n{error}").withMetadata remoteKey (.bool true)

def outputReport (answer : Json.Members) : Report :=
  let report := (Report.success ((field? answer "output").getD noOutput))
    |>.withDiagnostics (usageDiagnostics answer)
    |>.withMetadata remoteKey (.bool true)
  (otherFields answer).foldl (fun report (name,value) => report.withMetadata name value) report

def answerReport (answer : Json.Members) : Report :=
  match field? answer "error" with
  | some error => compilationReport error
  | none => outputReport answer

def rejectionMessage (status : Nat) (body : String) : String :=
  let own? := match Json.parse body with
    | .ok (.object members) => (members.lookup "error").bind Json.asString?
    | _ => none
  match own? with
  | some message => message
  | none =>
    let text := Text.trimmed body
    if text.isEmpty then (Net.phrase? status).getD "no message" else text

def membersOf (body : String) : Except RemoteFault Json.Members :=
  match Json.parse body with
  | .ok (.object members) => .ok members
  | .ok other => .error (.invalidResponse s!"expected a JSON object, got {other.compact}")
  | .error reason => .error (.invalidResponse reason)

def faultMessage : RemoteFault → String
  | .unreachable _ reason => s!"Cannot reach the remote execution service: {reason}"
  | .rejected status message =>
    s!"Remote execution service rejected the request (HTTP {status}): {message}"
  | .invalidResponse reason =>
    s!"Remote execution service returned an unexpected response: {reason}"
  | .unsupportedLanguage language => s!"Remote execution does not support {language}"

def faultReport (fault : RemoteFault) : Report :=
  (Report.error (faultMessage fault)).withErrorClass (.remote fault)

end Playground.Remote
