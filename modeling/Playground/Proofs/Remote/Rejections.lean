import Playground.Proofs.Remote.Replies
import Playground.Proofs.Text.Trimming

/-! What a report on a rejected request tells behind the status. It is the service's own error where
that is a text to see, else what was sent, else the phrase of the status; only an error text that is
blank is shown as it is. -/
namespace Playground.Remote
open Text (isBlankString trimmed)

def SendsError (body error : String) : Prop :=
  ∃ members : Json.Members, Json.parse body = .ok (.object members) ∧ members.get? "error" = some (.string error)

def Silent (body : String) : Prop := ∀ error, SendsError body error → isBlankString error = true

/- What there is to tell about a rejection with this status and body. -/
inductive Due (status : Nat) (body : String) : String → Prop where
  | error {text} (sent : SendsError body text) (visible : isBlankString text = false) : Due status body text
  | body (silent : Silent body) (visible : isBlankString body = false) : Due status body (trimmed body)
  | phrase {text} (silent : Silent body) (blank : isBlankString body = true)
      (standard : Net.phrase? status = some text) : Due status body text
  | nothing (silent : Silent body) (blank : isBlankString body = true) (other : Net.phrase? status = none) :
      Due status body "no message"

theorem trimmedCases (text : String) :
    (isBlankString text = true ∧ trimmed text = "") ∨
    (isBlankString text = false ∧ isBlankString (trimmed text) = false ∧ (trimmed text).isEmpty = false) := by
  unfold isBlankString trimmed
  rcases Text.trimCases text.toList with ⟨blank,empty⟩ | ⟨visible,c,rest,first,kept⟩
  · rw [empty]
    exact .inl ⟨blank,rfl⟩
  · rw [kept,String.toList_ofList]
    refine .inr ⟨visible,?_,?_⟩
    · rw [Text.allBlank,List.all_cons,first]
      rfl
    · simp

theorem phraseVisible {status : Nat} {text : String} (standard : Net.phrase? status = some text) :
    isBlankString text = false := by
  unfold Net.phrase? at standard
  split at standard
  all_goals first | (cases standard; decide) | contradiction

theorem dueVisible {status : Nat} {body message : String} (due : Due status body message) :
    isBlankString message = false := by
  cases due with
  | error _ visible => exact visible
  | body _ visible =>
    rcases trimmedCases body with ⟨blank,-⟩ | ⟨-,visible,-⟩
    · exact absurd (visible.symm.trans blank) Bool.false_ne_true
    · exact visible
  | phrase _ _ standard => exact phraseVisible standard
  | nothing => decide

theorem sendsOnce {body error other : String} (sent : SendsError body error) (also : SendsError body other) :
    other = error := by
  obtain ⟨members,parsed,told⟩ := sent
  obtain ⟨members',parsed',told'⟩ := also
  cases parsed.symm.trans parsed'
  cases told.symm.trans told'
  rfl

def sentError? (body : String) : Option String :=
  match Json.parse body with
  | .ok (.object members) => (members.lookup "error").bind Json.asString?
  | _ => none

theorem sentErrorIff (body error : String) : sentError? body = some error ↔ SendsError body error := by
  unfold sentError? SendsError
  cases Json.parse body with
  | error reason => simp
  | ok value =>
    cases value with
    | object members =>
      simp only [Except.ok.injEq,Json.object.injEq,exists_eq_left',Json.Members.get?]
      cases members.lookup "error" with
      | none => simp
      | some value => cases value <;> simp [Json.asString?]
    | _ => simp

theorem rejectionSpelled (status : Nat) (body : String) :
    rejectionMessage status body = match sentError? body with
      | some message => message
      | none => if (trimmed body).isEmpty then (Net.phrase? status).getD "no message" else trimmed body := by
  unfold rejectionMessage
  rfl

theorem rejectionVerbatim {body error : String} (sent : SendsError body error) (status : Nat) :
    rejectionMessage status body = error := by
  rw [rejectionSpelled,(sentErrorIff body error).mpr sent]

theorem rejectionDue (status : Nat) {body : String}
    (unblank : ∀ error, SendsError body error → isBlankString error = false) :
    Due status body (rejectionMessage status body) := by
  cases sent : sentError? body with
  | some error =>
    have sent := (sentErrorIff body error).mp sent
    rw [rejectionVerbatim sent]
    exact .error sent (unblank error sent)
  | none =>
    have silent : Silent body := by
      intro error told
      rw [(sentErrorIff body error).mpr told] at sent
      contradiction
    rw [rejectionSpelled,sent]
    rcases trimmedCases body with ⟨blank,empty⟩ | ⟨visible,-,filled⟩
    · rw [empty]
      cases standard : Net.phrase? status with
      | some phrase => exact .phrase silent blank standard
      | none => exact .nothing silent blank standard
    · simp only [filled]
      exact .body silent visible

theorem unsilent {body error : String} (sent : SendsError body error) (visible : isBlankString error = false) :
    ¬ Silent body :=
  fun silent => absurd (visible.symm.trans (silent error sent)) Bool.false_ne_true

theorem dueOnce {status : Nat} {body message other : String} (due : Due status body message)
    (also : Due status body other) : other = message := by
  cases due with
  | error sent visible =>
    cases also with
    | error sent' _ => exact sendsOnce sent sent'
    | body silent | phrase silent | nothing silent => exact absurd silent (unsilent sent visible)
  | body silent visible =>
    cases also with
    | error sent visible => exact absurd silent (unsilent sent visible)
    | body => rfl
    | phrase _ blank | nothing _ blank => exact absurd (visible.symm.trans blank) Bool.false_ne_true
  | phrase silent blank standard =>
    cases also with
    | error sent visible => exact absurd silent (unsilent sent visible)
    | body _ visible => exact absurd (visible.symm.trans blank) Bool.false_ne_true
    | phrase _ _ standard' => exact Option.some.inj (standard'.symm.trans standard)
    | nothing _ _ other => exact absurd (other.symm.trans standard) (by simp)
  | nothing silent blank other =>
    cases also with
    | error sent visible => exact absurd silent (unsilent sent visible)
    | body _ visible => exact absurd (visible.symm.trans blank) Bool.false_ne_true
    | phrase _ _ standard => exact absurd (other.symm.trans standard) (by simp)
    | nothing => rfl

def receivedText (answer : Net.Answer) : String := Text.decodeLossy (answer.content.toOption.getD [])

namespace Client

section
variable (client : Client) (submission : Engine.Submission) {target : Config.Target}
  (targeted : client.target? submission.language = some target) (carrier : Net.Carrier W) (count : Nat) (world : W)
  {answer : Net.Answer} (replied : client.replyTo carrier target submission world = .ok answer)
  (rejected : answer.isSuccess = false)
include targeted replied rejected

theorem rejectedReport :
    (((client.run carrier submission).run count).run world).1.1 =
      faultReport (.rejected answer.status (rejectionMessage answer.status (receivedText answer))) := by
  simp only [runTargeted targeted,replied,read,rejected]
  rfl

/- The message on a rejected request is the one that is due, unless the service sends a blank error; then it
is that. -/
theorem rejectionsToldUnlessBlank :
    let report := (((client.run carrier submission).run count).run world).1.1
    ∃ message, report.status = .error ∧
      report.message =
        "Remote execution service rejected the request (HTTP " ++ toString answer.status ++ "): " ++ message ∧
      ((∀ error, SendsError (receivedText answer) error → isBlankString error = false) →
        isBlankString message = false ∧ ∀ other, Due answer.status (receivedText answer) other ↔ other = message) ∧
      ∀ error, SendsError (receivedText answer) error → isBlankString error = true → message = error := by
  rw [rejectedReport client submission targeted carrier count world replied rejected]
  refine ⟨_,rfl,rfl,fun unblank => ?_,fun error sent _ => rejectionVerbatim sent _⟩
  have due := rejectionDue answer.status unblank
  exact ⟨dueVisible due,fun other => ⟨dueOnce due,fun same => same ▸ due⟩⟩

end

def rejection (status : Nat) (body : String) : Net.Answer := { status, body := Text.encode body }

def rejecting (status : Nat) (body : String) : Net.Carrier Unit := fun _ => pure (.ok (rejection status body))

theorem blankBodyPhrased :
    let report := (((standard.run (rejecting 401 " \n") ⟨"main",.java,none⟩).run 0).run ()).1.1
    standard.replyTo (rejecting 401 " \n") ⟨"java","93","0"⟩ ⟨"main",.java,none⟩ () = .ok (rejection 401 " \n") ∧
      report.message = "Remote execution service rejected the request (HTTP 401): " ++ "Unauthorized" := by
  intro report
  have replied : standard.replyTo (rejecting 401 " \n") ⟨"java","93","0"⟩ ⟨"main",.java,none⟩ () =
      .ok (rejection 401 " \n") := rfl
  obtain ⟨message,-,told,due,-⟩ := rejectionsToldUnlessBlank standard ⟨"main",.java,none⟩ rfl _ 0 () replied (by decide)
  have unsent (error : String) : ¬ SendsError (receivedText (rejection 401 " \n")) error := by
    intro sent
    have none : sentError? (receivedText (rejection 401 " \n")) = none := by cbv
    exact absurd (none.symm.trans ((sentErrorIff _ error).mpr sent)) (by simp)
  have phrase : Due 401 (receivedText (rejection 401 " \n")) "Unauthorized" :=
    .phrase (fun error sent => absurd sent (unsent error)) (by cbv) rfl
  have same := ((due fun error sent => absurd sent (unsent error)).2 "Unauthorized").mp phrase
  exact ⟨replied,same ▸ told⟩

def emptyError : String := "\x7b\"error\":\"\"\x7d"

theorem emptyErrorToldBare :
    let report := (((standard.run (rejecting 500 emptyError) ⟨"main",.java,none⟩).run 0).run ()).1.1
    report.message = "Remote execution service rejected the request (HTTP 500): " ++ "" ∧
      isBlankString "" = true ∧ Due 500 (receivedText (rejection 500 emptyError)) emptyError := by
  have received : receivedText (rejection 500 emptyError) = emptyError := by cbv
  have sent : SendsError emptyError "" := (sentErrorIff _ _).mp (by cbv)
  have silent : Silent emptyError := by
    intro error told
    rw [sendsOnce sent told]
    rfl
  have whole : trimmed emptyError = emptyError := by cbv
  have due : Due 500 emptyError (trimmed emptyError) := .body silent (by decide)
  have replied : standard.replyTo (rejecting 500 emptyError) ⟨"java","93","0"⟩ ⟨"main",.java,none⟩ () =
      .ok (rejection 500 emptyError) := rfl
  refine ⟨?_,rfl,?_⟩
  · rw [rejectedReport standard ⟨"main",.java,none⟩ rfl _ 0 () replied (by decide),received,rejectionVerbatim sent]
    rfl
  · rw [received]
    rwa [whole] at due

end Client
end Playground.Remote
