import Playground.Engine.Assembly
import Playground.Proofs.Engine.Submissions
import Playground.Proofs.Remote.Replies

/-! Where reports come from. `origin` asks the same collaborators as a run with a remote client and keeps what
they answered; the report of the run is a function of it. What reports have in common is then a fact about
the origins, one case for each. -/
namespace Playground.Engine
open Playground.Remote (Client)

structure Service (W : Type) where
  client : Client
  carrier : Net.Carrier W

def Collaborators.served (c : Collaborators (Workplace W) H) (service : Option (Service W)) :
    Collaborators (Workplace W) H :=
  { c with remote := service.map fun s => remoteOf s.client s.carrier }

def serviceFor (service : Option (Service W)) (language : Language) : Option (Service W × Config.Target) :=
  service.bind fun s => (s.client.target? language).map (s,·)

def exchange (service : Service W) (target : Config.Target) (request : Submission) :
    StateM (Workplace W) (Except Net.Breakdown Net.Answer) :=
  Workplace.ofRequests do
    modify (· + 1)
    Net.send service.carrier (service.client.requestFor target request)

/- What the strategy of a language comes to. A program is submitted for the fault of a runtime that did not
load, or as such. -/
inductive Course where
  | evaluated (result : Except Fault ScriptOutcome)
  | unloaded (fault : LoadFault)
  | interpreted (result : Except Fault Interpreter.Output)
  | flagged (issue : Check.Issue) (issues : List Check.Issue)
  | checked
  | submitted (instead : Option LoadFault) (client : Client) (reply : Except Net.Breakdown Net.Answer)
  | shown (markup : Markup) (result : Except Fault Unit)
  | parsed
  | analysed

def noted (instead : Option LoadFault) (report : Report) : Report :=
  match instead with
  | some fault => report.withDiagnostic .warning (fallbackNote fault)
  | none => report

def Course.report (request : Submission) : Course → Report
  | .evaluated result => scriptReport result
  | .unloaded fault => loadFailureReport fault
  | .interpreted result => guestReport result
  | .flagged issue issues => issuesReport request.language (issue :: issues)
  | .checked => checkedReport request.language request.source
  | .submitted instead client reply => noted instead (Client.reportOn (client.read reply))
  | .shown markup result => markupReport markup result
  | .parsed => jsonReport request.source
  | .analysed => sqlReport request.source

def checkedCourse (service : Option (Service W)) (request : Submission) : RunOn P (Workplace W) H Course :=
  match Check.validate request.source request.language,serviceFor service request.language with
  | issue :: issues,_ => return .flagged issue issues
  | [],some (s,target) => return .submitted none s.client (← inWorld (exchange s target request))
  | [],none => return .checked

def interpretedCourse (c : Collaborators (Workplace W) H) (service : Option (Service W))
    (request : Submission) : RunOn P (Workplace W) H Course := do
  match ← ensureReady c,serviceFor service request.language with
  | .error fault,some (s,target) =>
    return .submitted (some fault) s.client (← inWorld (exchange s target request))
  | .error fault,none => return .unloaded fault
  | .ok handle,_ => return .interpreted (← inWorld (c.runGuest handle request.source request.stdin))

def shownCourse [Surface P] (markup : Markup) (source : String) : RunOn P (Workplace W) H Course := do
  return .shown markup (← inPreview (Surface.take markup source))

def course [Surface P] (c : Collaborators (Workplace W) H) (service : Option (Service W)) (request : Submission) :
    RunOn P (Workplace W) H Course :=
  match request.language with
  | .javaScript => do
    let prompt := c.requestInput.map fun ask => ask request.language
    return .evaluated (← inWorld (c.evaluate request.source request.stdin prompt))
  | .python => interpretedCourse c service request
  | .java | .cpp => checkedCourse service request
  | .html => shownCourse .document request.source
  | .css => shownCourse .stylesheet request.source
  | .json => return .parsed
  | .sql => return .analysed

theorem remoteForServed (c : Collaborators (Workplace W) H) (service : Option (Service W))
    (language : Language) :
    remoteFor (c.served service) language =
      (serviceFor service language).map fun (s,_) => remoteOf s.client s.carrier := by
  cases service with
  | none => rfl
  | some s =>
    unfold remoteFor Collaborators.served serviceFor
    cases targeted : s.client.target? language with
    | none => simp [Option.filter,remoteOf,Client.supports,targeted]
    | some target => simp [Option.filter,remoteOf,Client.supports,targeted]

theorem servedTarget {service : Option (Service W)} {language s target}
    (found : serviceFor service language = some (s,target)) : s.client.target? language = some target := by
  unfold serviceFor at found
  obtain ⟨known,-,mapped⟩ := Option.bind_eq_some_iff.mp found
  obtain ⟨t,targeted,same⟩ := Option.map_eq_some_iff.mp mapped
  cases same
  exact targeted

theorem remoteExchange {s : Service W} {request : Submission} {target}
    (targeted : s.client.target? request.language = some target) :
    (remoteOf s.client s.carrier).run request =
      (fun reply => Client.reportOn (s.client.read reply)) <$> exchange s target request := by
  funext place
  simp only [remoteOf,Workplace.ofRequests,Client.runCases,targeted]
  rfl

theorem checkedReported (c : Collaborators (Workplace W) H) (service : Option (Service W))
    (request : Submission) :
    (runChecked (c.served service) request : RunOn P (Workplace W) H Report) =
      Course.report request <$> checkedCourse service request := by
  unfold runChecked checkedCourse
  rw [remoteForServed]
  cases Check.validate request.source request.language with
  | cons issue issues => rfl
  | nil =>
    cases found : serviceFor service request.language with
    | none => rfl
    | some both =>
      obtain ⟨s,target⟩ := both
      simp only [Option.map_some,remoteExchange (servedTarget found)]
      rfl

theorem interpretedReported (c : Collaborators (Workplace W) H) (service : Option (Service W))
    (request : Submission) :
    (runInterpreted (c.served service) request : RunOn P (Workplace W) H Report) =
      Course.report request <$> interpretedCourse c service request := by
  unfold runInterpreted interpretedCourse
  rw [remoteForServed,map_bind]
  refine congrArg (ensureReady c >>= ·) (funext fun answer => ?_)
  cases answer with
  | ok handle => rfl
  | error fault =>
    cases found : serviceFor service request.language with
    | none => rfl
    | some both =>
      obtain ⟨s,target⟩ := both
      simp only [Option.map_some,remoteExchange (servedTarget found)]
      rfl

theorem strategyReported [Surface P] (c : Collaborators (Workplace W) H) (service : Option (Service W))
    (request : Submission) :
    (runStrategy (c.served service) request : RunOn P (Workplace W) H Report) =
      Course.report request <$> course c service request := by
  unfold runStrategy course
  cases language : request.language with
  | javaScript =>
    simp only [Strategy.ofLanguage]
    unfold runScript
    rw [language]
    rfl
  | python => exact interpretedReported c service request
  | java => exact checkedReported c service request
  | cpp => exact checkedReported c service request
  | html => simp only [Strategy.ofLanguage,runPassive,language]; rfl
  | css => simp only [Strategy.ofLanguage,runPassive,language]; rfl
  | json => simp only [Strategy.ofLanguage,runPassive,language]; rfl
  | sql => simp only [Strategy.ofLanguage,runPassive,language]; rfl

theorem metadataAt (report : Report) (key asked : String) (value : Json) :
    (report.withMetadata key value).metadata.get? asked =
      if asked = key then some value else report.metadata.get? asked :=
  Json.getInsert report.metadata key asked value

/- What a run comes to: nothing where the name is none, the source is blank or the program lacks input, else
the course of the request with the input that it got. -/
inductive Origin where
  | unknown (name : String)
  | blank (language : Language)
  | unanswered (language : Language)
  | taken (request : Submission) (course : Course)

def tagged (request : Submission) (report : Report) : Report :=
  report
    |>.withMetadata strategyKey (.string (Strategy.ofLanguage request.language).name)
    |>.withMetadata languageKey (.string request.language.id)

def Origin.report : Origin → Report
  | .unknown name => (unsupportedReport name).withMetadata languageKey (.string name)
  | .blank language => blankReport language
  | .unanswered language => needsInputReport language
  | .taken request course => tagged request (course.report request)

def taken [Surface P] (c : Collaborators (Workplace W) H) (service : Option (Service W)) (request : Submission) :
    RunOn P (Workplace W) H Origin :=
  return .taken request (← course c service request)

def origin [Surface P] (c : Collaborators (Workplace W) H) (service : Option (Service W)) (source name : String)
    (stdin : Option String) : RunOn P (Workplace W) H Origin :=
  match Language.parse? name with
  | none => return .unknown name
  | some language =>
    if Text.isBlankString source then return .blank language
    else if lacksInput c ⟨source,language,stdin⟩ then
      match c.requestInput with
      | none => return .unanswered language
      | some ask => do taken c service ⟨source,language,← inWorld (ask language)⟩
    else taken c service ⟨source,language,stdin⟩

inductive Origin.Led (c : Collaborators (Workplace W) H) (source name : String) (stdin : Option String) :
    Origin → Prop where
  | unknown (parsed : Language.parse? name = none) : Led c source name stdin (.unknown name)
  | blank {language} (parsed : Language.parse? name = some language)
      (blank : Text.isBlankString source = true) : Led c source name stdin (.blank language)
  | unanswered {language} (parsed : Language.parse? name = some language)
      (lacks : Unanswerable c source language stdin) : Led c source name stdin (.unanswered language)
  | taken {language input course} (parsed : Language.parse? name = some language)
      (code : Text.isBlankString source = false) (answerable : ¬ Unanswerable c source language stdin) :
      Led c source name stdin (.taken ⟨source,language,input⟩ course)

theorem originLed [Surface P] (c : Collaborators (Workplace W) H) (service : Option (Service W))
    (source name : String) (stdin : Option String) (s : Session (Workplace W) H P) :
    Origin.Led c source name stdin ((origin c service source name stdin).run s).1 := by
  unfold origin
  cases parsed : Language.parse? name with
  | none => exact .unknown parsed
  | some language =>
    simp only
    cases blank : Text.isBlankString source with
    | true => exact .blank parsed blank
    | false =>
      have lacking := lacksInputIff c ⟨source,language,stdin⟩
      cases lacks : lacksInput c ⟨source,language,stdin⟩ with
      | false =>
        refine .taken parsed blank ?_
        rintro ⟨absent,solicits,reads,-⟩
        rw [lacking.mpr ⟨absent,solicits,reads⟩] at lacks
        contradiction
      | true =>
        obtain ⟨absent,solicits,reads⟩ := lacking.mp lacks
        cases provider : c.requestInput with
        | none => exact .unanswered parsed ⟨absent,solicits,reads,provider⟩
        | some ask =>
          refine .taken parsed blank ?_
          rintro ⟨-,-,-,unwired⟩
          rw [provider] at unwired
          contradiction

theorem taggedReported [Surface P] (c : Collaborators (Workplace W) H) (service : Option (Service W))
    (request : Submission) :
    (runTagged (c.served service) request : RunOn P (Workplace W) H Report) =
      Origin.report <$> taken c service request := by
  unfold runTagged taken
  rw [strategyReported]
  rfl

theorem runReported [Surface P] (c : Collaborators (Workplace W) H) (service : Option (Service W))
    (source name : String) (stdin : Option String) :
    (run (c.served service) source name stdin : RunOn P (Workplace W) H Report) =
      Origin.report <$> origin c service source name stdin := by
  unfold run origin
  cases Language.parse? name with
  | none => rfl
  | some language =>
    have same : lacksInput (c.served service) ⟨source,language,stdin⟩ = lacksInput c ⟨source,language,stdin⟩ := rfl
    have ask : (c.served service).requestInput = c.requestInput := rfl
    unfold runRequest
    simp only [same,ask]
    cases Text.isBlankString source with
    | true => rfl
    | false =>
      cases lacksInput c ⟨source,language,stdin⟩ with
      | false => exact taggedReported c service ⟨source,language,stdin⟩
      | true =>
        cases c.requestInput with
        | none => rfl
        | some ask =>
          simp only [taggedReported]
          rfl

theorem originReport [Surface P] (c : Collaborators (Workplace W) H) (service : Option (Service W))
    (source name : String) (stdin : Option String) (s : Session (Workplace W) H P) :
    ((run (c.served service) source name stdin).run s).1 =
      ((origin c service source name stdin).run s).1.report := by
  rw [runReported]
  simp only [StateT.run_map]
  rfl

def faltering : Collaborators (Workplace Unit) Unit where
  evaluate := fun _ _ _ => pure (.ok { error := some "boom" })
  load := pure (.failed (.invalid "empty"))
  runGuest := fun _ _ _ => pure (.error .fuelExhausted)
  remote := none
  requestInput := none

def atRest : Session (Workplace Unit) Unit where
  world := { files := {}, outside := () }

end Playground.Engine
