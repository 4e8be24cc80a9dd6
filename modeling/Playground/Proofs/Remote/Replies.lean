import Playground.Proofs.Json.Members
import Playground.Remote.Client

/-! What the replies of the remote service come to. A run reports success exactly where a complete 2xx answer
delivers an object that tells no error, and an error everywhere else; what it shows of the object besides is
stated key by key. -/
namespace Playground.Remote

/- The members that leave a run without an error: none, an empty one, or one that is neither a text nor a
number. -/
inductive Untold : Option Json → Prop where
  | absent : Untold none
  | null : Untold (some .null)
  | empty : Untold (some (.string ""))
  | bool (b : Bool) : Untold (some (.bool b))
  | array (items : List Json) : Untold (some (.array items))
  | object (members : Json.Members) : Untold (some (.object members))

theorem untoldIff (answer : Json.Members) (name : String) :
    field? answer name = none ↔ Untold (answer.get? name) := by
  unfold field?
  cases answer.get? name with
  | none => exact ⟨fun _ => .absent,fun _ => rfl⟩
  | some value =>
    cases value with
    | null => exact ⟨fun _ => .null,fun _ => rfl⟩
    | bool b => exact ⟨fun _ => .bool b,fun _ => rfl⟩
    | number n =>
      constructor
      · intro none; cases none
      · intro untold; cases untold
    | string s =>
      by_cases empty : s = ""
      · subst empty
        exact ⟨fun _ => .empty,fun _ => rfl⟩
      · constructor
        · intro none
          simp [shownText?] at none
        · intro untold
          cases untold
          contradiction
    | array items => exact ⟨fun _ => .array items,fun _ => rfl⟩
    | object members => exact ⟨fun _ => .object members,fun _ => rfl⟩

structure Delivers (answer : Net.Answer) (members : Json.Members) : Prop where
  accepted : answer.isSuccess = true
  object : ∃ bytes, answer.content = .ok bytes ∧
    Json.parse (Text.decodeLossy bytes) = .ok (.object members)

theorem deliversOrdered {answer members} (delivered : Delivers answer members) : members.Ordered := by
  obtain ⟨bytes,-,parsed⟩ := delivered.object
  exact Json.parsedOrdered parsed

theorem deliversOnce {answer members other} (delivered : Delivers answer members)
    (also : Delivers answer other) : other = members := by
  obtain ⟨bytes,content,parsed⟩ := delivered.object
  obtain ⟨bytes',content',parsed'⟩ := also.object
  cases content.symm.trans content'
  cases parsed.symm.trans parsed'
  rfl

theorem membersOfIff (body : String) (members : Json.Members) :
    membersOf body = .ok members ↔ Json.parse body = .ok (.object members) := by
  unfold membersOf
  cases Json.parse body with
  | error reason => simp
  | ok value => cases value <;> simp

namespace Client

theorem readIff (client : Client) (reply : Except Net.Breakdown Net.Answer) (members : Json.Members) :
    client.read reply = .ok members ↔ ∃ answer, reply = .ok answer ∧ Delivers answer members := by
  constructor
  · intro done
    unfold read at done
    split at done
    · contradiction
    · rename_i answer
      split at done
      · rename_i bytes accepted content
        exact ⟨answer,rfl,accepted,bytes,content,(membersOfIff _ _).mp done⟩
      · contradiction
      · contradiction
  · rintro ⟨answer,rfl,accepted,bytes,content,parsed⟩
    simp only [read,accepted,content]
    exact (membersOfIff _ _).mpr parsed

theorem runCases (client : Client) (carrier : Net.Carrier W) (submission : Engine.Submission)
    (count : Nat) (world : W) :
    ((client.run carrier submission).run count).run world =
      match client.target? submission.language with
      | none => ((reportOn (.error (.unsupportedLanguage submission.language.id)),count),world)
      | some target =>
        let sent := (Net.send carrier (client.requestFor target submission)).run world
        ((reportOn (client.read sent.1),count+1),sent.2) := by
  unfold run
  cases client.target? submission.language <;> rfl

def replyTo (client : Client) (carrier : Net.Carrier W) (target : Config.Target) (submission : Engine.Submission)
    (world : W) : Except Net.Breakdown Net.Answer :=
  ((Net.send carrier (client.requestFor target submission)).run world).1

theorem runTargeted {client : Client} {submission : Engine.Submission} {target : Config.Target}
    (targeted : client.target? submission.language = some target) (carrier : Net.Carrier W) (count : Nat) (world : W) :
    (((client.run carrier submission).run count).run world).1.1 =
      reportOn (client.read (client.replyTo carrier target submission world)) := by
  rw [runCases,targeted]
  rfl

theorem runUntargeted {client : Client} {submission : Engine.Submission}
    (untargeted : client.target? submission.language = none) (carrier : Net.Carrier W) (count : Nat) (world : W) :
    ((client.run carrier submission).run count).run world =
      ((reportOn (.error (.unsupportedLanguage submission.language.id)),count),world) := by
  rw [runCases,untargeted]

end Client

theorem foldMetadata (fields : Json.Members) (report : Report) :
    fields.foldl (fun report (name,value) => report.withMetadata name value) report =
      { report with metadata := fields.foldl (fun known field => known.insert field.1 field.2) report.metadata } := by
  induction fields generalizing report with
  | nil => rfl
  | cons head rest ih => exact ih (report.withMetadata head.1 head.2)

theorem outputMetadata {answer : Json.Members} (ordered : answer.Ordered) (key : String) :
    (outputReport answer).metadata.get? key =
      if renderedFields.contains key then none
      else (answer.get? key).or (if key = remoteKey then some (.bool true) else none) := by
  have kept : (otherFields answer).Ordered := List.Pairwise.filter _ ordered
  have mark : Json.Members.get? [(remoteKey,.bool true)] key =
      if key = remoteKey then some (.bool true) else none := lookupCons remoteKey key _ []
  have rest : (otherFields answer).get? key =
      if !renderedFields.contains key then answer.get? key else none :=
    lookupKept (fun name => !renderedFields.contains name) answer key
  have unrendered : renderedFields.contains key = true → key ≠ remoteKey := by
    rintro rendered rfl
    exact absurd rendered (by decide)
  unfold outputReport
  rw [foldMetadata]
  show Json.Members.get? (List.foldl _ [(remoteKey,Json.bool true)] _) key = _
  rw [Json.getInsertAll kept,rest,mark]
  cases rendered : renderedFields.contains key with
  | true => simp [unrendered rendered]
  | false => simp

theorem compilationMetadata (error key : String) :
    (compilationReport error).metadata.get? key = if key = remoteKey then some (.bool true) else none :=
  lookupCons remoteKey key _ []

theorem outputStatus (answer : Json.Members) : (outputReport answer).status = .success := by
  unfold outputReport
  rw [foldMetadata]
  rfl

theorem answerStatus (answer : Json.Members) :
    (answerReport answer).status =
      if field? answer "error" = none then .success else .error := by
  unfold answerReport
  cases field? answer "error" with
  | none => exact outputStatus answer
  | some error => rfl

theorem replyStatus (result : Except RemoteFault Json.Members) :
    ((Client.reportOn result).status = .success ↔
      ∃ members, result = .ok members ∧ Untold (members.get? "error")) ∧
    ((Client.reportOn result).status = .success ∨ (Client.reportOn result).status = .error) := by
  cases result with
  | error fault =>
    have failed : (Client.reportOn (.error fault)).status = .error := rfl
    simp [failed]
  | ok members =>
    have status : (Client.reportOn (.ok members)).status =
        if field? members "error" = none then .success else .error := answerStatus members
    have told := untoldIff members "error"
    by_cases untold : Untold (members.get? "error")
    · rw [if_pos (told.mpr untold)] at status
      simp [status,untold]
    · rw [if_neg (fun absent => untold (told.mp absent))] at status
      simp [status,untold]

namespace Client
theorem successNeedsUntoldError (client : Client) (carrier : Net.Carrier W) (submission : Engine.Submission)
    (count : Nat) (world : W) :
    let report := (((client.run carrier submission).run count).run world).1.1
    (report.status = .success ↔ ∃ target answer members,
      client.target? submission.language = some target ∧
      ((Net.send carrier (client.requestFor target submission)).run world).1 = .ok answer ∧
      Delivers answer members ∧ Untold (members.get? "error")) ∧
    (report.status = .success ∨ report.status = .error) := by
  intro report
  simp only [report,runCases]
  cases targeted : client.target? submission.language with
  | none =>
    refine ⟨⟨fun impossible => (by contradiction),?_⟩,.inr rfl⟩
    rintro ⟨_,_,_,impossible,-⟩
    cases impossible
  | some target =>
    have status := replyStatus (client.read ((Net.send carrier (client.requestFor target submission)).run world).1)
    refine ⟨status.1.trans ?_,status.2⟩
    constructor
    · rintro ⟨members,read,untold⟩
      obtain ⟨answer,replied,delivered⟩ := (readIff client _ members).mp read
      exact ⟨target,answer,members,rfl,replied,delivered,untold⟩
    · rintro ⟨_,answer,members,same,replied,delivered,untold⟩
      cases same
      exact ⟨members,(readIff client _ members).mpr ⟨answer,replied,delivered⟩,untold⟩

def standard : Client where
  endpoint := "http://localhost/run"
  url := { scheme := "http", path := .segments ["run"] }
  clientId := "id"
  clientSecret := "secret"
  targets := Config.defaultTargets

def accepting (body : String) : Net.Answer := { status := 200, body := Text.encode body }

def answering (body : String) : Net.Carrier Unit := fun _ => pure (.ok (accepting body))

theorem answerSucceeds {body members} (delivered : Delivers (accepting body) members)
    (untold : Untold (members.get? "error")) :
    (((standard.run (answering body) ⟨"main",.java,none⟩).run 0).run ()).1.1.status = .success :=
  (replyStatus _).1.mpr ⟨members,(readIff standard _ members).mpr ⟨_,rfl,delivered⟩,untold⟩

theorem shapedErrorsSucceed :
    let status (body : String) :=
      (((standard.run (answering body) ⟨"main",.java,none⟩).run 0).run ()).1.1.status
    (Delivers (accepting "\x7b\"error\":true\x7d") [("error",.bool true)] ∧
      status "\x7b\"error\":true\x7d" = .success) ∧
    (Delivers (accepting "\x7b\"error\":[\"line 1\"]\x7d") [("error",.array [.string "line 1"])] ∧
      status "\x7b\"error\":[\"line 1\"]\x7d" = .success) ∧
    (Delivers (accepting "\x7b\"error\":\x7b\"line\":1\x7d\x7d")
        [("error",.object [("line",.number (.int 1))])] ∧
      status "\x7b\"error\":\x7b\"line\":1\x7d\x7d" = .success) := by
  intro status
  have flag : Delivers (accepting "\x7b\"error\":true\x7d") [("error",.bool true)] :=
    ⟨by decide,_,rfl,by cbv⟩
  have list : Delivers (accepting "\x7b\"error\":[\"line 1\"]\x7d") [("error",.array [.string "line 1"])] :=
    ⟨by decide,_,rfl,by cbv⟩
  have object : Delivers (accepting "\x7b\"error\":\x7b\"line\":1\x7d\x7d")
      [("error",.object [("line",.number (.int 1))])] := ⟨by decide,_,rfl,by cbv⟩
  exact ⟨⟨flag,answerSucceeds flag (.bool true)⟩,⟨list,answerSucceeds list (.array _)⟩,
    ⟨object,answerSucceeds object (.object _)⟩⟩

end Client
end Playground.Remote
