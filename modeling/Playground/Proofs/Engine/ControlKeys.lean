import Playground.Proofs.Engine.Origins
import Playground.Proofs.InputUse

/-! Which metadata keys of a remote run are the engine's own. The language and the strategy always
are; the mark of remote runs, the need for input and the error class are, unless the object that a
successful run delivers has a field of that name. -/
namespace Playground.Engine
open Playground.Remote (Client Delivers Untold renderedFields remoteKey)

structure Served (request : Submission) (members : Json.Members) (report : Report) : Prop where
  language : report.metadata.get? languageKey = some (.string request.language.id)
  strategy : report.metadata.get? strategyKey = some (.string (Strategy.ofLanguage request.language).name)
  told : ¬ Untold (members.get? "error") → report.status = .error ∧
    ∀ key, key ≠ languageKey → key ≠ strategyKey →
      report.metadata.get? key = if key = remoteKey then some (.bool true) else none
  untold : Untold (members.get? "error") → report.status = .success ∧
    ∀ key, key ≠ languageKey → key ≠ strategyKey →
      report.metadata.get? key = if renderedFields.contains key then none
        else (members.get? key).or (if key = remoteKey then some (.bool true) else none)

theorem taggedAt (request : Submission) (report : Report) (key : String) :
    (tagged request report).metadata.get? key =
      if key = languageKey then some (.string request.language.id)
      else if key = strategyKey then some (.string (Strategy.ofLanguage request.language).name)
      else report.metadata.get? key := by
  unfold tagged
  rw [metadataAt,metadataAt]

theorem notedMetadata (instead : Option LoadFault) (report : Report) :
    (noted instead report).metadata = report.metadata := by
  cases instead <;> rfl

theorem notedStatus (instead : Option LoadFault) (report : Report) :
    (noted instead report).status = report.status := by
  cases instead <;> rfl

theorem deliveredReport {client : Client} {answer members} (delivered : Delivers answer members) :
    Client.reportOn (client.read (.ok answer)) = Remote.answerReport members := by
  rw [(client.readIff _ members).mpr ⟨answer,rfl,delivered⟩]
  rfl

theorem deliveredServed (request : Submission) (instead : Option LoadFault) (client : Client) {answer members}
    (delivered : Delivers answer members) :
    Served request members
      (Origin.report (.taken request (.submitted instead client (.ok answer)))) := by
  have inner : Course.report request (.submitted instead client (.ok answer)) =
      noted instead (Remote.answerReport members) := by
    simp only [Course.report,deliveredReport delivered]
  have status : (Origin.report (.taken request (.submitted instead client (.ok answer)))).status =
      (Remote.answerReport members).status := by
    simp only [Origin.report,inner,tagged,Report.withMetadata,notedStatus]
  have at_ (key : String) (notLanguage : key ≠ languageKey) (notStrategy : key ≠ strategyKey) :
      (Origin.report (.taken request (.submitted instead client (.ok answer)))).metadata.get? key =
        (Remote.answerReport members).metadata.get? key := by
    simp only [Origin.report,inner,taggedAt,notLanguage,notStrategy,if_false,notedMetadata]
  refine ⟨?_,?_,?_,?_⟩
  · simp only [Origin.report,taggedAt,if_true]
  · simp only [Origin.report,taggedAt,show strategyKey ≠ languageKey by decide,if_false,if_true]
  · intro told
    obtain ⟨error,found⟩ := Option.ne_none_iff_exists'.mp
      (fun absent => told ((Remote.untoldIff members "error").mp absent))
    have report : Remote.answerReport members = Remote.compilationReport error := by
      simp only [Remote.answerReport,found]
    refine ⟨by rw [status,report]; rfl,fun key notLanguage notStrategy => ?_⟩
    rw [at_ key notLanguage notStrategy,report,Remote.compilationMetadata]
  · intro untold
    have report : Remote.answerReport members = Remote.outputReport members := by
      simp only [Remote.answerReport,(Remote.untoldIff members "error").mpr untold]
    refine ⟨by rw [status,report,Remote.outputStatus],fun key notLanguage notStrategy => ?_⟩
    rw [at_ key notLanguage notStrategy,report,Remote.outputMetadata (Remote.deliversOrdered delivered)]

theorem plainAt {report : Report} (plain : report.metadata = []) (key : String) :
    report.metadata.get? key = none := by
  rw [plain]
  rfl

theorem issuesAt (language : Language) (issues : List Check.Issue) {key : String} (other : key ≠ "issues") :
    (issuesReport language issues).metadata.get? key = none := by
  unfold issuesReport
  rw [metadataAt,if_neg other]
  rfl

theorem faultAt (report : Report) (plain : report.metadata = []) (fault : Fault) {key : String}
    (other : key ≠ Report.errorClassKey) : (report.withErrorClass fault).metadata.get? key = none := by
  unfold Report.withErrorClass
  rw [metadataAt,if_neg other]
  exact plainAt plain key

theorem outputAt (output : Interpreter.Output) {key : String} (noClass : key ≠ Report.errorClassKey)
    (noFuel : key ≠ "fuel_consumed") : (output.report "Python").metadata.get? key = none := by
  have exited : (output.exitReport "Python").metadata.get? key = none := by
    unfold Interpreter.Output.exitReport
    cases output.exit with
    | code value =>
      simp only
      split
      · rfl
      · rfl
    | trap message => rfl
    | outOfFuel => exact faultAt _ rfl _ noClass
  unfold Interpreter.Output.report
  cases output.fuelConsumed with
  | none => exact exited
  | some fuel =>
    simp only
    rw [metadataAt,if_neg noFuel]
    exact exited

theorem scriptPlain (outcome : ScriptOutcome) : outcome.report.metadata = [] := by
  unfold ScriptOutcome.report
  cases outcome.error with
  | none => rfl
  | some message =>
    simp only
    split <;> rfl

theorem markupPlain (markup : Markup) (result : Except Fault Unit) : (markupReport markup result).metadata = [] := by
  cases result <;> rfl

theorem jsonPlain (source : String) : (jsonReport source).metadata = [] := by
  unfold jsonReport
  split <;> rfl

theorem sqlPlain (source : String) : (sqlReport source).metadata = [] := by
  unfold sqlReport
  simp only
  split <;> rfl

/- Without a delivered object nothing but the engine itself speaks of input. -/
theorem silentCourse (request : Submission) {course : Course}
    (undelivered : ∀ instead client answer members,
      course = .submitted instead client (.ok answer) → ¬ Delivers answer members) :
    (course.report request).metadata.get? needsInputKey = none := by
  cases course with
  | evaluated result =>
    cases result with
    | ok outcome => exact plainAt (scriptPlain outcome) _
    | error fault => exact faultAt _ rfl fault (by decide)
  | unloaded fault => exact faultAt _ rfl _ (by decide)
  | interpreted result =>
    cases result with
    | ok output => exact outputAt output (by decide) (by decide)
    | error fault => exact faultAt _ rfl fault (by decide)
  | flagged issue issues => exact issuesAt request.language _ (by decide)
  | checked => exact plainAt rfl _
  | submitted instead client reply =>
    cases read : client.read reply with
    | error fault =>
      simp only [Course.report,read,notedMetadata]
      exact faultAt _ rfl _ (by decide)
    | ok members =>
      obtain ⟨answer,rfl,delivered⟩ := (client.readIff _ members).mp read
      exact absurd delivered (undelivered instead client answer members rfl)
  | shown markup result => exact plainAt (markupPlain markup result) _
  | parsed => exact plainAt (jsonPlain _) _
  | analysed => exact plainAt (sqlPlain _) _

def Sent (origin : Origin) (key : String) (value : Json) : Prop :=
  ∃ request instead client answer members, origin = .taken request (.submitted instead client (.ok answer)) ∧
    Delivers answer members ∧ Untold (members.get? "error") ∧ members.get? key = some value

theorem servedNeedsInput {request members report} (served : Served request members report) :
    report.metadata.get? needsInputKey = some (.bool true) ↔
      Untold (members.get? "error") ∧ members.get? needsInputKey = some (.bool true) := by
  by_cases untold : Untold (members.get? "error")
  · rw [(served.untold untold).2 needsInputKey (by decide) (by decide)]
    simp [untold,show needsInputKey ∉ renderedFields by decide,
      show needsInputKey ≠ remoteKey by decide]
  · rw [(served.told untold).2 needsInputKey (by decide) (by decide)]
    simp [untold,show needsInputKey ≠ remoteKey by decide]

theorem takenNeedsInput (request : Submission) (course : Course) :
    (Origin.report (.taken request course)).metadata.get? needsInputKey = some (.bool true) ↔
      Sent (.taken request course) needsInputKey (.bool true) := by
  by_cases delivered : ∃ instead client answer members,
      course = .submitted instead client (.ok answer) ∧ Delivers answer members
  · obtain ⟨instead,client,answer,members,rfl,delivered⟩ := delivered
    refine (servedNeedsInput (deliveredServed request instead client delivered)).trans ⟨?_,?_⟩
    · rintro ⟨untold,sent⟩
      exact ⟨request,instead,client,answer,members,rfl,delivered,untold,sent⟩
    · rintro ⟨_,_,_,_,other,same,also,untold,sent⟩
      cases same
      cases Remote.deliversOnce delivered also
      exact ⟨untold,sent⟩
  · have silent : (course.report request).metadata.get? needsInputKey = none :=
      silentCourse request fun instead client answer members same delivers =>
        delivered ⟨instead,client,answer,members,same,delivers⟩
    have absent : (Origin.report (.taken request course)).metadata.get? needsInputKey = none := by
      simpa only [Origin.report,taggedAt,show needsInputKey ≠ languageKey by decide,
        show needsInputKey ≠ strategyKey by decide,if_false] using silent
    rw [absent]
    refine ⟨fun impossible => (by cases impossible),?_⟩
    rintro ⟨_,instead,client,answer,members,same,delivers,-⟩
    cases same
    exact absurd ⟨instead,client,answer,members,rfl,delivers⟩ delivered

theorem ledNeedsInput {c : Collaborators (Workplace W) H} {source name stdin origin}
    (led : Origin.Led c source name stdin origin) :
    origin.report.metadata.get? needsInputKey = some (.bool true) ↔
      (∃ language, Language.parse? name = some language ∧ Unanswerable c source language stdin) ∨
      Sent origin needsInputKey (.bool true) := by
  have unsent {origin : Origin} (other : ∀ request course, origin ≠ .taken request course) :
      ¬ Sent origin needsInputKey (.bool true) := by
    rintro ⟨request,_,_,_,_,same,-⟩
    exact other request _ same
  cases led with
  | unknown parsed =>
    have absent : (Origin.report (.unknown name)).metadata.get? needsInputKey = none := by
      simp only [Origin.report,metadataAt]
      rfl
    simp [absent,parsed,unsent]
  | @blank language parsed blank =>
    have absent : (Origin.report (.blank language)).metadata.get? needsInputKey = none := by
      simp only [Origin.report,blankReport,metadataAt]
      rfl
    have reads := InputUse.blankNeedsNoInput blank
    simp [absent,unsent,Unanswerable,reads]
  | @unanswered language parsed lacks =>
    have shown : (Origin.report (.unanswered language)).metadata.get? needsInputKey = some (.bool true) := by
      simp only [Origin.report,needsInputReport,metadataAt,if_true]
    simp only [shown,true_iff]
    exact .inl ⟨language,parsed,lacks⟩
  | @taken language input course parsed code answerable =>
    rw [takenNeedsInput]
    refine ⟨.inr,?_⟩
    rintro (⟨other,parsed',lacks⟩ | sent)
    · cases parsed.symm.trans parsed'
      exact absurd lacks answerable
    · exact sent

theorem controlKeysUnlessSent [Surface P] (c : Collaborators (Workplace W) H) (service : Option (Service W))
    (source name : String) (stdin : Option String) (s : Session (Workplace W) H P) :
    let origin := ((origin c service source name stdin).run s).1
    let report := ((run (c.served service) source name stdin).run s).1
    (∀ request instead client answer members,
      origin = .taken request (.submitted instead client (.ok answer)) → Delivers answer members →
      Language.parse? name = some request.language ∧ Served request members report) ∧
    (report.metadata.get? needsInputKey = some (.bool true) ↔
      (∃ language, Language.parse? name = some language ∧ Unanswerable c source language stdin) ∨
      Sent origin needsInputKey (.bool true)) := by
  have led := originLed c service source name stdin s
  simp only [originReport]
  refine ⟨?_,ledNeedsInput led⟩
  intro request instead client answer members taken delivered
  rw [taken] at led ⊢
  cases led with
  | taken parsed code answerable => exact ⟨parsed,deliveredServed _ instead client delivered⟩

def claiming (fields : String) : Service Unit := ⟨Client.standard,Client.answering fields⟩

theorem fallbackTaken (fields : String) :
    ((origin faltering (some (claiming fields)) "print(2)" "python" none).run atRest).1 =
      .taken ⟨"print(2)",.python,none⟩
        (.submitted (some (.invalid "empty")) Client.standard (.ok (Client.accepting fields))) := by
  have parsed : Language.parse? "python" = some .python := by cbv
  have code : Text.isBlankString "print(2)" = false := by cbv
  have lacks : lacksInput faltering ⟨"print(2)",.python,none⟩ = false := by cbv
  unfold origin
  simp only [parsed,code,lacks]
  rfl

theorem fallbackShowsSentNeed :
    let report := ((run (faltering.served (some (claiming "\x7b\"needs_input\":true\x7d"))) "print(2)" "python"
      none).run atRest).1
    Language.parse? "python" = some .python ∧
    Served ⟨"print(2)",.python,none⟩ [("needs_input",.bool true)] report := by
  have delivered : Delivers (Client.accepting "\x7b\"needs_input\":true\x7d") [("needs_input",.bool true)] :=
    ⟨by decide,_,rfl,by cbv⟩
  exact (controlKeysUnlessSent faltering (some (claiming _)) "print(2)" "python" none atRest).1
    _ _ _ _ _ (fallbackTaken _) delivered

theorem fallbackShows {fields : String} {key : String} {value : Json}
    (delivered : Delivers (Client.accepting fields) [(key,value)])
    (free : key ≠ "error" ∧ key ≠ languageKey ∧ key ≠ strategyKey ∧ renderedFields.contains key = false) :
    let report := ((run (faltering.served (some (claiming fields))) "print(2)" "python" none).run atRest).1
    report.status = .success ∧ report.metadata.get? key = some value := by
  have served := deliveredServed ⟨"print(2)",.python,none⟩ (some (.invalid "empty")) Client.standard delivered
  have own : Json.Members.get? [(key,value)] key = some value := by simp [Json.Members.get?]
  have untold : Untold (Json.Members.get? [(key,value)] "error") := by
    simp only [Json.Members.get?,lookupCons,if_neg (Ne.symm free.1)]
    exact .absent
  rw [← fallbackTaken fields,← originReport] at served
  obtain ⟨succeeded,shown⟩ := served.untold untold
  refine ⟨succeeded,?_⟩
  rw [shown key free.2.1 free.2.2.1,free.2.2.2,own]
  rfl

theorem sentFieldsReplaceControlKeys :
    let report (fields : String) :=
      ((run (faltering.served (some (claiming fields))) "print(2)" "python" none).run atRest).1
    ((report "\x7b\"remote\":false\x7d").status = .success ∧
      (report "\x7b\"remote\":false\x7d").metadata.get? remoteKey = some (.bool false)) ∧
    ((report "\x7b\"needs_input\":true\x7d").status = .success ∧
      (report "\x7b\"needs_input\":true\x7d").metadata.get? needsInputKey = some (.bool true)) ∧
    ((report "\x7b\"error_class\":\"guest\"\x7d").status = .success ∧
      (report "\x7b\"error_class\":\"guest\"\x7d").metadata.get? Report.errorClassKey =
        some (.string "guest")) := by
  intro report
  have mark : Delivers (Client.accepting "\x7b\"remote\":false\x7d") [("remote",.bool false)] :=
    ⟨by decide,_,rfl,by cbv⟩
  have need : Delivers (Client.accepting "\x7b\"needs_input\":true\x7d") [("needs_input",.bool true)] :=
    ⟨by decide,_,rfl,by cbv⟩
  have cls : Delivers (Client.accepting "\x7b\"error_class\":\"guest\"\x7d")
      [("error_class",.string "guest")] := ⟨by decide,_,rfl,by cbv⟩
  exact ⟨fallbackShows mark (by decide),fallbackShows need (by decide),fallbackShows cls (by decide)⟩

end Playground.Engine
