import Playground.Proofs.Remote.Replies

/-! Which reports say that the service cannot be reached, by their wording and by their class. An
error report does so on a request that no status came back for, and on an accepted answer whose body
broke off; all other failures are told in other words and under another class. -/
namespace Playground.Remote

def WordedUnreachable (report : Report) : Prop :=
  ∃ reason, report.message = "Cannot reach the remote execution service: " ++ reason

def ClassedUnreachable (report : Report) : Prop :=
  report.metadata.get? "error_class" = some (.string "infrastructure")

structure TellsIf (report : Report) (unreached : Prop) : Prop where
  worded : WordedUnreachable report ↔ unreached
  classed : ClassedUnreachable report ↔ unreached

def Unanswered (reply : Except Net.Breakdown Net.Answer) : Prop := ∃ breakdown, reply = .error breakdown

def BrokeOff (reply : Except Net.Breakdown Net.Answer) : Prop :=
  ∃ answer, reply = .ok answer ∧ answer.isSuccess = true ∧ answer.isBodiless = false ∧ answer.complete = false

theorem leadsApart (common : List Char) {front front' : String} {c c' : Char} {letters letters' : List Char}
    (here : front.toList = common ++ c :: letters) (there : front'.toList = common ++ c' :: letters') (apart : c ≠ c')
    (back back' : String) : front ++ back ≠ front' ++ back' := by
  intro same
  have texts := congrArg String.toList same
  rw [String.toList_append,String.toList_append,here,there,List.append_assoc,List.append_assoc] at texts
  exact apart (List.cons.inj (List.append_cancel_left texts)).1

theorem wholeApart (common : List Char) {whole front : String} {c c' : Char} {letters letters' : List Char}
    (here : whole.toList = common ++ c :: letters) (there : front.toList = common ++ c' :: letters') (apart : c ≠ c')
    (back : String) : whole ≠ front ++ back := by
  have parted := leadsApart common here there apart "" back
  rwa [String.append_empty] at parted

theorem tellsNever {report : Report} {unreached : Prop} {lead back : String} {c : Char} {letters : List Char}
    {shown : Option Json} (message : report.message = lead ++ back) (starts : lead.toList = c :: letters)
    (letter : c ≠ 'C') (cls : report.metadata.get? "error_class" = shown)
    (other : shown ≠ some (.string "infrastructure")) (reached : ¬ unreached) : TellsIf report unreached := by
  refine ⟨iff_of_false ?_ reached,iff_of_false (fun classed => other (cls.symm.trans classed)) reached⟩
  rintro ⟨reason,worded⟩
  exact leadsApart [] starts rfl letter back reason (message.symm.trans worded)

theorem faultTells (fault : RemoteFault) : TellsIf (faultReport fault) (fault.isUnreachable = true) := by
  have service : some (Json.string "remote_service") ≠ some (.string "infrastructure") := by simp
  cases fault with
  | unreachable endpoint reason => exact ⟨iff_of_true ⟨reason,rfl⟩ rfl,iff_of_true rfl rfl⟩
  | rejected status text =>
    have message : (faultReport (.rejected status text)).message =
        "Remote execution service rejected the request (HTTP " ++ (toString status ++ ("): " ++ text)) :=
      String.append_assoc.trans String.append_assoc
    exact tellsNever message rfl (by decide) rfl service Bool.false_ne_true
  | invalidResponse reason =>
    have message : (faultReport (.invalidResponse reason)).message =
        "Remote execution service returned an unexpected response: " ++ reason := rfl
    exact tellsNever message rfl (by decide) rfl service Bool.false_ne_true
  | unsupportedLanguage language =>
    have message : (faultReport (.unsupportedLanguage language)).message =
        "Remote execution does not support " ++ language := rfl
    exact tellsNever message rfl (by decide) rfl service Bool.false_ne_true

theorem contentBrokeOff (answer : Net.Answer) :
    (∃ breakdown, answer.content = .error breakdown) ↔ answer.isBodiless = false ∧ answer.complete = false := by
  unfold Net.Answer.content
  cases answer.isBodiless <;> cases answer.complete <;> simp

theorem membersOfReached {body : String} {fault : RemoteFault} (failed : membersOf body = .error fault) :
    fault.isUnreachable = false := by
  unfold membersOf at failed
  split at failed
  · contradiction
  · cases failed
    rfl
  · cases failed
    rfl

theorem deliveredRead {answer : Net.Answer} {bytes : List UInt8} (content : answer.content = .ok bytes) :
    ¬ (Unanswered (.ok answer) ∨ BrokeOff (.ok answer)) := by
  rintro (⟨_,impossible⟩ | ⟨_,same,-,broken⟩)
  · cases impossible
  · cases same
    obtain ⟨breakdown,lost⟩ := (contentBrokeOff answer).mpr broken
    exact absurd (content.symm.trans lost) (by simp)

theorem rejectedRead {answer : Net.Answer} (rejected : answer.isSuccess = false) :
    ¬ (Unanswered (.ok answer) ∨ BrokeOff (.ok answer)) := by
  rintro (⟨_,impossible⟩ | ⟨_,same,accepted,-⟩)
  · cases impossible
  · cases same
    exact absurd (rejected.symm.trans accepted) Bool.false_ne_true

theorem readUnreachable {client : Client} {reply : Except Net.Breakdown Net.Answer} {fault : RemoteFault}
    (failed : client.read reply = .error fault) :
    fault.isUnreachable = true ↔ Unanswered reply ∨ BrokeOff reply := by
  unfold Client.read at failed
  split at failed
  · cases failed
    exact iff_of_true rfl (.inl ⟨_,rfl⟩)
  · rename_i answer
    split at failed
    · rename_i bytes accepted content
      rw [membersOfReached failed]
      exact iff_of_false Bool.false_ne_true (deliveredRead content)
    · rename_i breakdown accepted content
      cases failed
      exact iff_of_true rfl (.inr ⟨answer,rfl,accepted,(contentBrokeOff answer).mp ⟨breakdown,content⟩⟩)
    · rename_i rejected
      cases failed
      exact iff_of_false Bool.false_ne_true (rejectedRead rejected)

theorem readReached {client : Client} {reply : Except Net.Breakdown Net.Answer} {members : Json.Members}
    (read : client.read reply = .ok members) : ¬ (Unanswered reply ∨ BrokeOff reply) := by
  obtain ⟨answer,rfl,delivered⟩ := (client.readIff reply members).mp read
  obtain ⟨bytes,content,-⟩ := delivered.object
  exact deliveredRead content

theorem compilationTells (error : String) {unreached : Prop} (reached : ¬ unreached) :
    TellsIf (compilationReport error) unreached := by
  have message : (compilationReport error).message = "Remote compilation error:\n" ++ error := rfl
  exact tellsNever message rfl (by decide) (compilationMetadata error "error_class") (by simp [remoteKey]) reached

theorem outputMessage (answer : Json.Members) :
    (outputReport answer).message = (field? answer "output").getD noOutput := by
  unfold outputReport
  rw [foldMetadata]
  rfl

theorem outputTells {members : Json.Members} (ordered : members.Ordered) :
    (WordedUnreachable (outputReport members) ↔
      ∃ reason, field? members "output" = some ("Cannot reach the remote execution service: " ++ reason)) ∧
    (ClassedUnreachable (outputReport members) ↔
      members.get? "error_class" = some (.string "infrastructure")) := by
  constructor
  · unfold WordedUnreachable
    rw [outputMessage]
    cases field? members "output" with
    | some text => simp
    | none =>
      refine iff_of_false ?_ (by simp)
      rintro ⟨reason,worded⟩
      exact wholeApart ['C'] rfl rfl (by decide) reason worded
  · unfold ClassedUnreachable
    rw [outputMetadata ordered]
    simp [renderedFields,remoteKey]

/- What a report tells of the reach of the service, and when: an error report exactly where the reply was not
read, a success report only as the program's output and the service's own field. -/
structure ReachTold (reply : Except Net.Breakdown Net.Answer) (report : Report) : Prop where
  unread : Unanswered reply ∨ BrokeOff reply → report.status = .error
  failed : report.status = .error → TellsIf report (Unanswered reply ∨ BrokeOff reply)
  fine : report.status ≠ .error → ∃ answer members, reply = .ok answer ∧ Delivers answer members ∧
    (WordedUnreachable report ↔
      ∃ reason, field? members "output" = some ("Cannot reach the remote execution service: " ++ reason)) ∧
    (ClassedUnreachable report ↔ members.get? "error_class" = some (.string "infrastructure"))

namespace Client

theorem replyReach (client : Client) (reply : Except Net.Breakdown Net.Answer) :
    ReachTold reply (reportOn (client.read reply)) := by
  cases read : client.read reply with
  | error fault =>
    refine ⟨fun _ => rfl,fun _ => ?_,fun fine => absurd rfl fine⟩
    have tells := faultTells fault
    rwa [readUnreachable read] at tells
  | ok members =>
    obtain ⟨answer,same,delivered⟩ := (client.readIff reply members).mp read
    have reached := readReached read
    refine ⟨fun unread => absurd unread reached,fun failed => ?_,fun fine => ?_⟩
    · cases told : field? members "error" with
      | some error =>
        have report : reportOn (.ok members) = compilationReport error := by
          simp only [reportOn,answerReport,told]
        rw [report]
        exact compilationTells error reached
      | none =>
        have status := answerStatus members
        rw [if_pos told] at status
        exact absurd (status.symm.trans failed) (by simp)
    · cases told : field? members "error" with
      | some error =>
        have status := answerStatus members
        rw [if_neg (by simp [told])] at status
        exact absurd status fine
      | none =>
        have report : reportOn (.ok members) = outputReport members := by
          simp only [reportOn,answerReport,told]
        rw [report]
        exact ⟨answer,members,same,delivered,outputTells (deliversOrdered delivered)⟩

theorem unreachableToldIfUnread (client : Client) (carrier : Net.Carrier W) (submission : Engine.Submission)
    (count : Nat) (world : W) :
    let report := (((client.run carrier submission).run count).run world).1.1
    (∀ target, client.target? submission.language = some target →
      ReachTold (client.replyTo carrier target submission world) report) ∧
    (client.target? submission.language = none → report.status = .error ∧ TellsIf report False) := by
  intro report
  constructor
  · intro target targeted
    simp only [report,runTargeted targeted]
    exact replyReach client _
  · intro untargeted
    simp only [report,runUntargeted untargeted]
    have tells := faultTells (.unsupportedLanguage submission.language.id)
    exact ⟨rfl,⟨tells.worded.trans (iff_of_false Bool.false_ne_true id),
      tells.classed.trans (iff_of_false Bool.false_ne_true id)⟩⟩

def refusing : Net.Carrier Unit := fun _ => pure (.error .notConnected)

theorem refusalToldUnreachable :
    let report := (((standard.run refusing ⟨"main",.java,none⟩).run 0).run ()).1.1
    Unanswered (standard.replyTo refusing ⟨"java","93","0"⟩ ⟨"main",.java,none⟩ ()) ∧ report.status = .error ∧
      WordedUnreachable report ∧ ClassedUnreachable report := by
  intro report
  have unanswered : Unanswered (standard.replyTo refusing ⟨"java","93","0"⟩ ⟨"main",.java,none⟩ ()) := ⟨_,rfl⟩
  have told := (unreachableToldIfUnread standard refusing ⟨"main",.java,none⟩ 0 ()).1 ⟨"java","93","0"⟩ rfl
  have failed := told.unread (.inl unanswered)
  exact ⟨unanswered,failed,(told.failed failed).worded.mpr (.inl unanswered),
    (told.failed failed).classed.mpr (.inl unanswered)⟩

def breaking : Net.Carrier Unit := fun _ => pure (.ok { status := 200, complete := false })

theorem acceptedToldUnreachable :
    let report := (((standard.run breaking ⟨"main",.java,none⟩).run 0).run ()).1.1
    ¬ Unanswered (standard.replyTo breaking ⟨"java","93","0"⟩ ⟨"main",.java,none⟩ ()) ∧ report.status = .error ∧
      WordedUnreachable report ∧ ClassedUnreachable report := by
  refine ⟨?_,rfl,⟨_,rfl⟩,rfl⟩
  rintro ⟨_,impossible⟩
  cases impossible

end Client
end Playground.Remote
