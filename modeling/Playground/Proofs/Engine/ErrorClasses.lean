import Playground.Proofs.Engine.Origins

/-! Which error reports show the class of the failure behind them. A failure of the host, of the runtime or of
the service is always classed, as is a program that runs out of fuel; what the user's own program or document
brings about is not. -/
namespace Playground.Engine
open Playground.Remote (Client)

def Classed (report : Report) : Prop :=
  ∃ cls : FaultClass, report.metadata.get? Report.errorClassKey = some (.string cls.name)

def Unclassed (report : Report) : Prop := report.metadata.get? Report.errorClassKey = none

structure ClassedUnless (report : Report) (own : Prop) : Prop where
  bare : own → report.status = .error ∧ Unclassed report
  classed : report.status = .error → ¬ own → Classed report

theorem errorClassed (report : Report) (fault : Fault) : Classed (report.withErrorClass fault) :=
  ⟨fault.faultClass,by simp [Report.withErrorClass,metadataAt]⟩

theorem classedAlways {report : Report} (classed : Classed report) : ClassedUnless report False :=
  ⟨False.elim,fun _ _ => classed⟩

theorem classedIdle {report : Report} (fine : report.status ≠ .error) : ClassedUnless report False :=
  ⟨False.elim,fun failed => absurd failed fine⟩

theorem classedNever {report : Report} {own : Prop} (failed : report.status = .error)
    (unclassed : Unclassed report) (holds : own) : ClassedUnless report own :=
  ⟨fun _ => ⟨failed,unclassed⟩,fun _ other => absurd holds other⟩

theorem classedIff {report : Report} {own own' : Prop} (same : own ↔ own') (classed : ClassedUnless report own) :
    ClassedUnless report own' :=
  ⟨fun holds => classed.bare (same.mpr holds),
    fun failed other => classed.classed failed fun holds => other (same.mp holds)⟩

theorem classedExactly {report : Report} {own : Prop} (classed : ClassedUnless report own) :
    (report.status = .error ∧ Unclassed report ↔ own) ∧ (report.status = .error ∧ ¬ own → Classed report) := by
  refine ⟨⟨?_,classed.bare⟩,fun ⟨failed,other⟩ => classed.classed failed other⟩
  rintro ⟨failed,unclassed⟩
  refine Classical.byContradiction fun other => ?_
  obtain ⟨cls,shown⟩ := classed.classed failed other
  exact absurd (unclassed.symm.trans shown) (by simp)

theorem classedWith {report : Report} {own : Prop} {key : String} (value : Json)
    (other : Report.errorClassKey ≠ key) (classed : ClassedUnless report own) :
    ClassedUnless (report.withMetadata key value) own := by
  have kept : (report.withMetadata key value).metadata.get? Report.errorClassKey =
      report.metadata.get? Report.errorClassKey := by simp [metadataAt,other]
  refine ⟨fun holds => ⟨(classed.bare holds).1,?_⟩,fun failed fails => ?_⟩
  · exact kept.trans (classed.bare holds).2
  · obtain ⟨cls,shown⟩ := classed.classed failed fails
    exact ⟨cls,kept.trans shown⟩

theorem classedNoted {report : Report} {own : Prop} (instead : Option LoadFault)
    (classed : ClassedUnless report own) : ClassedUnless (noted instead report) own := by
  cases instead with
  | none => exact classed
  | some fault => exact ⟨classed.bare,classed.classed⟩

theorem plainUnclassed {report : Report} (plain : report.metadata = []) : Unclassed report := by
  unfold Unclassed
  rw [plain]
  rfl

theorem scriptClassed (outcome : ScriptOutcome) : ClassedUnless outcome.report (outcome.error ≠ none) := by
  unfold ScriptOutcome.report
  cases outcome.error with
  | none =>
    have fine (transcript : Transcript) : (transcript.report .success "JavaScript").status ≠ .error := by
      simp [Transcript.report]
    exact classedIff (by simp) (classedIdle (fine _))
  | some message =>
    simp only
    split
    · exact classedNever rfl (plainUnclassed rfl) (by simp)
    · exact classedNever rfl (plainUnclassed rfl) (by simp)

theorem outputClassed (output : Interpreter.Output) :
    ClassedUnless (output.report "Python") (output.exit ≠ .code 0 ∧ output.exit ≠ .outOfFuel) := by
  have exited : ClassedUnless (output.exitReport "Python") (output.exit ≠ .code 0 ∧ output.exit ≠ .outOfFuel) := by
    unfold Interpreter.Output.exitReport
    cases output.exit with
    | code value =>
      by_cases zero : value = 0
      · subst zero
        exact classedIff (by simp) (classedIdle (by simp [Transcript.report]))
      · simp only [zero,if_false]
        exact classedNever rfl rfl (by simp [zero])
    | trap message => exact classedNever rfl rfl (by simp)
    | outOfFuel => exact classedIff (by simp) (classedAlways (errorClassed _ _))
  unfold Interpreter.Output.report
  cases output.fuelConsumed with
  | none => exact exited
  | some fuel => exact classedWith _ (by decide) exited

def Told (answer : Net.Answer) : Prop :=
  ∃ members, Remote.Delivers answer members ∧ ¬ Remote.Untold (members.get? "error")

theorem faultClassed (fault : RemoteFault) : Classed (Remote.faultReport fault) := errorClassed _ _

theorem replyClassed (client : Client) (reply : Except Net.Breakdown Net.Answer) :
    ClassedUnless (Client.reportOn (client.read reply)) (∃ answer, reply = .ok answer ∧ Told answer) := by
  cases read : client.read reply with
  | error fault =>
    refine classedIff ⟨False.elim,?_⟩ (classedAlways (faultClassed fault))
    rintro ⟨answer,rfl,members,delivered,-⟩
    have read' := (client.readIff _ members).mpr ⟨answer,rfl,delivered⟩
    rw [read] at read'
    contradiction
  | ok members =>
    obtain ⟨answer,rfl,delivered⟩ := (client.readIff _ members).mp read
    by_cases untold : Remote.Untold (members.get? "error")
    · have succeeded := (Remote.replyStatus (.ok members)).1.mpr ⟨members,rfl,untold⟩
      refine classedIff ⟨False.elim,?_⟩ (classedIdle (by rw [succeeded]; decide))
      rintro ⟨_,same,other,also,told⟩
      cases same
      rw [Remote.deliversOnce delivered also] at told
      exact told untold
    · have absent : (Remote.field? members "error") ≠ none :=
        fun absent => untold ((Remote.untoldIff members "error").mp absent)
      obtain ⟨error,found⟩ := Option.ne_none_iff_exists'.mp absent
      have report : Client.reportOn (.ok members) = Remote.compilationReport error := by
        simp [Client.reportOn,Remote.answerReport,found]
      rw [report]
      refine classedNever rfl ?_ ⟨answer,rfl,members,delivered,untold⟩
      unfold Unclassed
      rw [Remote.compilationMetadata]
      rfl

theorem markupClassed (markup : Markup) (result : Except Fault Unit) :
    ClassedUnless (markupReport markup result) (∃ fault, result = .error fault) := by
  cases result with
  | ok taken => exact classedIff (by simp) (classedIdle (show Status.success ≠ .error by decide))
  | error fault => exact classedNever rfl rfl ⟨fault,rfl⟩

theorem jsonClassed (source : String) :
    ClassedUnless (jsonReport source) (∃ reason, Json.parse source = .error reason) := by
  unfold jsonReport
  cases Json.parse source with
  | ok value => exact classedIff (by simp) (classedIdle (by simp [Report.success]))
  | error reason => exact classedNever rfl rfl ⟨reason,rfl⟩

theorem sqlFine (source : String) : (sqlReport source).status ≠ .error := by
  unfold sqlReport
  simp only
  split
  · simp [Report.withDiagnostic,Report.withDiagnostics,Report.success]
  · simp [Report.withDiagnostic,Report.withDiagnostics,Report.warning]

/- What the user's own program or document brings about: a script that throws, a program that exits with a
failure or traps, an error that the service tells of a program, a document that its surface refuses, and a
text that is no JSON. -/
def Course.Own (request : Submission) : Course → Prop
  | .evaluated (.ok outcome) => outcome.error ≠ none
  | .interpreted (.ok output) => output.exit ≠ .code 0 ∧ output.exit ≠ .outOfFuel
  | .submitted _ _ reply => ∃ answer, reply = .ok answer ∧ Told answer
  | .shown _ result => ∃ fault, result = .error fault
  | .parsed => ∃ reason, Json.parse request.source = .error reason
  | _ => False

theorem courseClassed (request : Submission) (course : Course) :
    ClassedUnless (course.report request) (course.Own request) := by
  cases course with
  | evaluated result =>
    cases result with
    | ok outcome => exact scriptClassed outcome
    | error fault => exact classedAlways (errorClassed _ fault)
  | unloaded fault => exact classedAlways (errorClassed _ _)
  | interpreted result =>
    cases result with
    | ok output => exact outputClassed output
    | error fault => exact classedAlways (errorClassed _ fault)
  | flagged issue issues => exact classedIdle (by simp [Course.report,issuesReport,Report.withMetadata,
      Report.withDiagnostic,Report.withDiagnostics,Report.warning])
  | checked => exact classedIdle (by simp [Course.report,checkedReport,
      Report.withDiagnostic,Report.withDiagnostics,Report.success])
  | submitted instead client reply => exact classedNoted instead (replyClassed client reply)
  | shown markup result => exact markupClassed markup result
  | parsed => exact jsonClassed request.source
  | analysed => exact classedIdle (sqlFine request.source)

def Origin.Own : Origin → Prop
  | .unknown _ => True
  | .taken request course => course.Own request
  | _ => False

theorem originClassed (origin : Origin) : ClassedUnless origin.report origin.Own := by
  cases origin with
  | unknown name =>
    exact classedWith _ (by decide) (classedNever rfl (plainUnclassed rfl) trivial)
  | blank language => exact classedIdle (by simp [Origin.report,blankReport,Report.withMetadata,Report.warning])
  | unanswered language =>
    exact classedIdle (by simp [Origin.report,needsInputReport,Report.withMetadata,Report.warning])
  | taken request course =>
    exact classedWith _ (by decide) (classedWith _ (by decide) (courseClassed request course))

theorem errorsClassedUnlessOwn [Surface P] (c : Collaborators (Workplace W) H) (service : Option (Service W))
    (source name : String) (stdin : Option String) (s : Session (Workplace W) H P) :
    let origin := ((origin c service source name stdin).run s).1
    let report := ((run (c.served service) source name stdin).run s).1
    (report.status = .error ∧ Unclassed report ↔ origin.Own) ∧
    (report.status = .error ∧ ¬ origin.Own → Classed report) := by
  simp only [originReport]
  exact classedExactly (originClassed _)

theorem loadFailureClassed :
    let report := ((run (faltering.served none) "print(1)" "python" none).run atRest).1
    report.status = .error ∧ Classed report := by
  intro report
  have failed : report.status = .error := by rfl
  have decided : ((origin faltering none "print(1)" "python" none).run atRest).1 =
      .taken ⟨"print(1)",.python,none⟩ (.unloaded (.invalid "empty")) := by rfl
  have other : ¬ ((origin faltering none "print(1)" "python" none).run atRest).1.Own := by
    rw [decided]
    exact id
  exact ⟨failed,(errorsClassedUnlessOwn faltering none "print(1)" "python" none atRest).2 ⟨failed,other⟩⟩

theorem ownFailuresUnclassed :
    let report (source name : String) := ((run (faltering.served none) source name none).run atRest).1
    ((report "throw 1" "js").status = .error ∧ Unclassed (report "throw 1" "js")) ∧
    ((report "\x7b" "json").status = .error ∧ Unclassed (report "\x7b" "json")) ∧
    ((report "1" "cobol").status = .error ∧ Unclassed (report "1" "cobol")) :=
  ⟨⟨rfl,rfl⟩,⟨rfl,rfl⟩,⟨rfl,rfl⟩⟩

end Playground.Engine
