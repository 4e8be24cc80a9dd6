import Playground.Proofs.Engine.ControlKeys
import Playground.Proofs.Remote.Failures

/-! What a report says of a Python program that went to the remote service because its runtime did not
load. It is the service's report with one more note, and the note says that the program ran there,
whatever the service answered. That is wrong exactly where no object was read from the reply, and
there the report itself says so. -/
namespace Playground.Engine
open Playground.Remote (Client Delivers faultReport leadsApart)

variable {W H : Type}

def SaysRan (text : String) : Prop := ∃ front, text = front ++ "ran on the remote service"

theorem noteSaysRan (fault : LoadFault) : SaysRan (fallbackNote fault) := by
  have parted : "); ran on the remote service" = "); " ++ "ran on the remote service" := rfl
  exact ⟨_,(congrArg _ parted).trans (String.append_assoc ..).symm⟩

inductive TellsUnrun (report : Report) : Prop where
  | unreached (reason : String) (failed : report.status = .error)
      (worded : report.message = "Cannot reach the remote execution service: " ++ reason)
  | rejected (reason : String) (failed : report.status = .error)
      (worded : report.message = "Remote execution service rejected the request (HTTP " ++ reason)
  | unexpected (reason : String) (failed : report.status = .error)
      (worded : report.message = "Remote execution service returned an unexpected response: " ++ reason)

def Ran (reply : Except Net.Breakdown Net.Answer) : Prop :=
  ∃ answer members, reply = .ok answer ∧ Delivers answer members

theorem unrunFailed {report : Report} (told : TellsUnrun report) : report.status = .error := by
  cases told with
  | unreached _ failed => exact failed
  | rejected _ failed => exact failed
  | unexpected _ failed => exact failed

theorem faultTellsUnrun {fault : RemoteFault} (known : ∀ language, fault ≠ .unsupportedLanguage language) :
    TellsUnrun (faultReport fault) := by
  cases fault with
  | unreachable endpoint reason => exact .unreached reason rfl rfl
  | rejected status message =>
    exact .rejected (toString status ++ ("): " ++ message)) rfl (String.append_assoc.trans String.append_assoc)
  | invalidResponse reason => exact .unexpected reason rfl rfl
  | unsupportedLanguage language => exact absurd rfl (known language)

theorem compilationTellsRun (error : String) : ¬ TellsUnrun (Remote.compilationReport error) := by
  have message : (Remote.compilationReport error).message = "Remote compilation error:\n" ++ error := rfl
  rintro (⟨reason,-,worded⟩ | ⟨reason,-,worded⟩ | ⟨reason,-,worded⟩)
  · exact leadsApart [] rfl rfl (by decide) error reason (message.symm.trans worded)
  · exact leadsApart "Remote ".toList rfl rfl (by decide) error reason (message.symm.trans worded)
  · exact leadsApart "Remote ".toList rfl rfl (by decide) error reason (message.symm.trans worded)

theorem membersOfSupported {body : String} {fault : RemoteFault} (failed : Remote.membersOf body = .error fault)
    (language : String) : fault ≠ .unsupportedLanguage language := by
  unfold Remote.membersOf at failed
  split at failed
  · contradiction
  · cases failed
    simp
  · cases failed
    simp

theorem readSupported {client : Client} {reply : Except Net.Breakdown Net.Answer} {fault : RemoteFault}
    (failed : client.read reply = .error fault) (language : String) : fault ≠ .unsupportedLanguage language := by
  unfold Client.read at failed
  split at failed
  · cases failed
    simp [Client.unreachable]
  · split at failed
    · exact membersOfSupported failed language
    · cases failed
      simp [Client.unreachable]
    · cases failed
      simp

theorem replyTellsUnrun (client : Client) (reply : Except Net.Breakdown Net.Answer) :
    TellsUnrun (Client.reportOn (client.read reply)) ↔ ¬ Ran reply := by
  cases read : client.read reply with
  | error fault =>
    refine iff_of_true (faultTellsUnrun (readSupported read)) ?_
    rintro ⟨answer,members,same,delivered⟩
    have done := (client.readIff reply members).mpr ⟨answer,same,delivered⟩
    exact absurd (read.symm.trans done) (by simp)
  | ok members =>
    obtain ⟨answer,same,delivered⟩ := (client.readIff reply members).mp read
    refine iff_of_false (fun told => ?_) (fun unrun => unrun ⟨answer,members,same,delivered⟩)
    have status := Remote.answerStatus members
    cases error : Remote.field? members "error" with
    | none =>
      rw [if_pos error] at status
      exact absurd (status.symm.trans (unrunFailed told)) (by simp)
    | some error' =>
      have report : Client.reportOn (.ok members) = Remote.compilationReport error' := by
        simp only [Client.reportOn,Remote.answerReport,error]
      rw [report] at told
      exact compilationTellsRun error' told

structure Annotated (own : Report) (note : String) (report : Report) : Prop where
  status : report.status = own.status
  message : report.message = own.message
  diagnostics : report.diagnostics = own.diagnostics ++ [⟨.warning,note⟩]
  metadata : ∀ key, key ≠ strategyKey → key ≠ languageKey → report.metadata.get? key = own.metadata.get? key

theorem unloadedAnnotates {c : Collaborators W H} {remote : RemoteExecutor W} {fault : LoadFault}
    (source : String) (stdin : Option String) (wired : remoteFor c .python = some remote) {s : Session W H}
    (unloaded : ((ensureReady c).run s).1 = .error fault) :
    Annotated ((remote.run ⟨source,.python,stdin⟩).run ((ensureReady c).run s).2.world).1 (fallbackNote fault)
      ((runTagged c ⟨source,.python,stdin⟩).run s).1 := by
  have handedOn : ((runInterpreted c ⟨source,.python,stdin⟩).run s).1 =
      ((remote.run ⟨source,.python,stdin⟩).run ((ensureReady c).run s).2.world).1.withDiagnostic .warning
        (fallbackNote fault) := by
    unfold runInterpreted
    rw [StateT.run_bind]
    simp only [bind,unloaded,wired]
    rfl
  have ends : ((runTagged c ⟨source,.python,stdin⟩).run s).1 =
      tagged ⟨source,.python,stdin⟩ ((runInterpreted c ⟨source,.python,stdin⟩).run s).1 := rfl
  rw [ends,handedOn]
  refine ⟨rfl,rfl,rfl,fun key strategy language => ?_⟩
  rw [taggedAt,if_neg language,if_neg strategy]
  rfl

theorem clientTellsUnrun {client : Client} {carrier : Net.Carrier W} {request : Submission} {target : Config.Target}
    (targeted : client.target? request.language = some target) (place : Workplace W) :
    TellsUnrun (((remoteOf client carrier).run request).run place).1 ↔
      ¬ Ran (client.replyTo carrier target request place.outside) := by
  have own : (((remoteOf client carrier).run request).run place).1 =
      Client.reportOn (client.read (client.replyTo carrier target request place.outside)) :=
    Client.runTargeted targeted carrier place.requestCount place.outside
  rw [own]
  exact replyTellsUnrun client _

/- The note claims a run after every outcome, and it is wrong after those that the report says are none. -/
theorem fallbackNoteClaimsRun {c : Collaborators (Workplace W) H} {remote : RemoteExecutor (Workplace W)}
    {source name : String} {stdin : Option String} {fault : LoadFault} (started : Started c source name stdin .python)
    (wired : remoteFor c .python = some remote) (s : Session (Workplace W) H)
    (unloaded : ((ensureReady c).run ((effectiveInput c source .python stdin).run s).2).1 = .error fault) :
    let input := (effectiveInput c source .python stdin).run s
    let request : Submission := ⟨source,.python,input.1⟩
    let place := ((ensureReady c).run input.2).2.world
    let own := ((remote.run request).run place).1
    Annotated own (fallbackNote fault) ((run c source name stdin).run s).1 ∧ SaysRan (fallbackNote fault) ∧
    ∀ client carrier, remote = remoteOf client carrier → ∃ target, client.target? .python = some target ∧
      (TellsUnrun own ↔ ¬ Ran (client.replyTo carrier target request place.outside)) := by
  intro input request place own
  refine ⟨?_,noteSaysRan fault,?_⟩
  · rw [startedRuns started s]
    exact unloadedAnnotates source input.1 wired unloaded
  · rintro client carrier rfl
    have supported : client.supports .python = true := (Option.filter_eq_some_iff.mp wired).2
    obtain ⟨target,targeted⟩ := Option.isSome_iff_exists.mp supported
    exact ⟨target,targeted,clientTellsUnrun targeted place⟩

def unloading (carrier : Net.Carrier Unit) : Collaborators (Workplace Unit) Unit :=
  faltering.served (some ⟨Client.standard,carrier⟩)

theorem unloadingStarts (carrier : Net.Carrier Unit) :
    Started (unloading carrier) "print(2)" "python" none .python :=
  ⟨by cbv,by cbv,fun ⟨_,_,reads,_⟩ => absurd reads (by cbv; decide)⟩

theorem refusedFallbackClaimsRun :
    let report := ((run (unloading Client.refusing) "print(2)" "python" none).run atRest).1
    Started (unloading Client.refusing) "print(2)" "python" none .python ∧
    report.message = "Cannot reach the remote execution service: connection failed" ∧
    report.diagnostics = [⟨.warning,fallbackNote (.invalid "empty")⟩] ∧ SaysRan (fallbackNote (.invalid "empty")) := by
  have started := unloadingStarts Client.refusing
  obtain ⟨annotated,claims,-⟩ := fallbackNoteClaimsRun started rfl atRest rfl
  exact ⟨started,annotated.message,annotated.diagnostics,claims⟩

theorem unrunAnnotated {own report : Report} {note : String} (annotated : Annotated own note report)
    (told : TellsUnrun own) : TellsUnrun report := by
  cases told with
  | unreached reason failed worded =>
    exact .unreached reason (annotated.status.trans failed) (annotated.message.trans worded)
  | rejected reason failed worded =>
    exact .rejected reason (annotated.status.trans failed) (annotated.message.trans worded)
  | unexpected reason failed worded =>
    exact .unexpected reason (annotated.status.trans failed) (annotated.message.trans worded)

def ToldBoth (carrier : Net.Carrier Unit) : Prop :=
  let report := ((run (unloading carrier) "print(2)" "python" none).run atRest).1
  TellsUnrun report ∧ ∃ diagnostic ∈ report.diagnostics, SaysRan diagnostic.text

theorem unrunToldBoth {carrier : Net.Carrier Unit}
    (unrun : ∀ target, ¬ Ran (Client.standard.replyTo carrier target ⟨"print(2)",.python,none⟩ ())) :
    ToldBoth carrier := by
  let report := ((run (unloading carrier) "print(2)" "python" none).run atRest).1
  have annotated := unloadedAnnotates "print(2)" none (rfl : remoteFor (unloading carrier) .python = _)
    (rfl : ((ensureReady (unloading carrier)).run atRest).1 = _)
  have ends : report = ((runTagged (unloading carrier) ⟨"print(2)",.python,none⟩).run atRest).1 :=
    congrArg Prod.fst (startedRuns (unloadingStarts carrier) atRest)
  rw [← ends] at annotated
  have noted : ⟨.warning,fallbackNote (.invalid "empty")⟩ ∈ report.diagnostics := by
    rw [annotated.diagnostics]
    exact List.mem_append_right _ List.mem_cons_self
  exact ⟨unrunAnnotated annotated ((clientTellsUnrun rfl _).mpr (unrun _)),_,noted,noteSaysRan _⟩

def rejecting : Net.Carrier Unit := fun _ => pure (.ok { status := 401 })

theorem unrunFallbacksSayRan :
    ToldBoth Client.refusing ∧ ToldBoth rejecting ∧ ToldBoth (Client.answering "[]") := by
  refine ⟨unrunToldBoth fun target => ?_,unrunToldBoth fun target => ?_,unrunToldBoth fun target => ?_⟩
  all_goals rintro ⟨answer,members,same,accepted,bytes,content,parsed⟩
  · cases same
  · cases same
    cases accepted
  · cases same
    cases content
    have array : Json.parse (Text.decodeLossy (Client.accepting "[]").body) = .ok (.array []) := by cbv
    cases array.symm.trans parsed

end Playground.Engine
