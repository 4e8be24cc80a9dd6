import Playground.Proofs.Remote.Failures

/-! Where the fields of a successful answer go. Every field with something in it is shown in the
report or kept in its metadata as it was sent; only a value that is neither a text nor a number, under
the name of a field that the report shows, is in neither place. -/
namespace Playground.Remote

def spelled : Json → String
  | .string text => text
  | .number n => n.text
  | value => value.compact

inductive Rendered (report : Report) : String → Json → Prop where
  | output {value} (message : report.message = spelled value) : Rendered report "output" value
  | cputime {value} (listed : ⟨.info,"CPU Time: " ++ spelled value ++ "s"⟩ ∈ report.diagnostics) :
      Rendered report "cputime" value
  | memory {value} (listed : ⟨.info,"Memory: " ++ spelled value⟩ ∈ report.diagnostics) : Rendered report "memory" value

def Kept (report : Report) (key : String) (value : Json) : Prop := report.metadata.get? key = some value

def Filled (value : Json) : Prop := value ≠ .null ∧ value ≠ .string ""

/- Values that are neither texts nor numbers. -/
inductive Shaped : Json → Prop where
  | bool (b : Bool) : Shaped (.bool b)
  | array (items : List Json) : Shaped (.array items)
  | object (members : List (String × Json)) : Shaped (.object members)

theorem numberUnshaped (n : Json.Number) : ¬ Shaped (.number n) := by
  intro shaped
  cases shaped

theorem textUnshaped (text : String) : ¬ Shaped (.string text) := by
  intro shaped
  cases shaped

theorem filledCases {value : Json} (filled : Filled value) :
    (shownText? value = some (spelled value) ∧ ¬ Shaped value) ∨ (shownText? value = none ∧ Shaped value) := by
  cases value with
  | null => exact absurd rfl filled.1
  | bool b => exact .inr ⟨rfl,.bool b⟩
  | number n => exact .inl ⟨rfl,numberUnshaped n⟩
  | string text =>
    have some : text ≠ "" := fun empty => filled.2 (congrArg Json.string empty)
    refine .inl ⟨?_,textUnshaped text⟩
    simp [shownText?,spelled]
  | array items => exact .inr ⟨rfl,.array items⟩
  | object members => exact .inr ⟨rfl,.object members⟩

theorem outputDiagnostics (answer : Json.Members) :
    (outputReport answer).diagnostics = usageDiagnostics answer := by
  unfold outputReport
  rw [foldMetadata]
  rfl

theorem usageListed (answer : Json.Members) (diagnostic : Diagnostic) :
    diagnostic ∈ usageDiagnostics answer ↔
      (∃ text, field? answer "cputime" = some text ∧ diagnostic = ⟨.info,"CPU Time: " ++ text ++ "s"⟩) ∨
      (∃ text, field? answer "memory" = some text ∧ diagnostic = ⟨.info,"Memory: " ++ text⟩) := by
  have parts : usageDiagnostics answer =
      ((field? answer "cputime").map fun seconds => ⟨.info,"CPU Time: " ++ seconds ++ "s"⟩).toList ++
        ((field? answer "memory").map fun amount => ⟨.info,"Memory: " ++ amount⟩).toList := rfl
  rw [parts,List.mem_append]
  cases field? answer "cputime" <;> cases field? answer "memory" <;> simp

theorem usageApart (seconds amount : String) : "CPU Time: " ++ seconds ++ "s" ≠ "Memory: " ++ amount := by
  rw [String.append_assoc]
  exact leadsApart [] rfl rfl (by decide) _ _

theorem shapedSpelled {value : Json} (shaped : Shaped value) : noOutput ≠ spelled value := by
  cases shaped with
  | bool b => cases b <;> decide
  | array items =>
    have text : Json.compact (.array items) = "[" ++ (Json.compactItems items ++ "]") := by
      rw [Json.compact,String.append_assoc]
    show noOutput ≠ Json.compact (.array items)
    rw [text]
    exact wholeApart [] rfl rfl (by decide) _
  | object members =>
    have text : Json.compact (.object members) = "\x7b" ++ (Json.compactMembers members ++ "\x7d") := by
      rw [Json.compact,String.append_assoc]
    show noOutput ≠ Json.compact (.object members)
    rw [text]
    exact wholeApart [] rfl rfl (by decide) _

section
variable {members : Json.Members} {key : String} {value : Json} (found : members.get? key = some value)
include found

theorem fieldText : field? members key = shownText? value := by
  rw [field?,found]
  rfl

theorem textRendered (untold : Untold (members.get? "error")) (shown : shownText? value = some (spelled value))
    (known : key ∈ renderedFields) : Rendered (outputReport members) key value := by
  have text := (fieldText found).trans shown
  simp only [renderedFields,List.mem_cons,List.not_mem_nil,or_false] at known
  rcases known with rfl | rfl | rfl | rfl
  · refine .output ?_
    rw [outputMessage,text]
    rfl
  · exact absurd ((untoldIff members "error").mpr untold) (by simp [text])
  · refine .cputime ?_
    rw [outputDiagnostics,usageListed]
    exact .inl ⟨_,text,rfl⟩
  · refine .memory ?_
    rw [outputDiagnostics,usageListed]
    exact .inr ⟨_,text,rfl⟩

theorem shapedUnrendered (shaped : Shaped value) (unshown : shownText? value = none) :
    ¬ Rendered (outputReport members) key value := by
  have absent := (fieldText found).trans unshown
  intro rendered
  cases rendered with
  | output message =>
    rw [outputMessage,absent] at message
    exact shapedSpelled shaped message
  | cputime listed =>
    rw [outputDiagnostics,usageListed] at listed
    rcases listed with ⟨text,present,-⟩ | ⟨text,-,same⟩
    · exact absurd (absent.symm.trans present) (by simp)
    · exact usageApart _ _ (Diagnostic.mk.inj same).2
  | memory listed =>
    rw [outputDiagnostics,usageListed] at listed
    rcases listed with ⟨text,-,same⟩ | ⟨text,present,-⟩
    · exact usageApart _ _ (Diagnostic.mk.inj same).2.symm
    · exact absurd (absent.symm.trans present) (by simp)

end

theorem fieldShown {members : Json.Members} (ordered : members.Ordered) (untold : Untold (members.get? "error"))
    {key : String} {value : Json} (found : members.get? key = some value) (filled : Filled value) :
    (Rendered (outputReport members) key value ∨ Kept (outputReport members) key value) ↔
      ¬ (key ∈ renderedFields ∧ Shaped value) := by
  have kept := outputMetadata ordered key
  by_cases known : key ∈ renderedFields
  · have unkept : ¬ Kept (outputReport members) key value := by
      unfold Kept
      rw [kept,if_pos (by simpa using known)]
      simp
    rcases filledCases filled with ⟨shown,unshaped⟩ | ⟨unshown,shaped⟩
    · exact iff_of_true (.inl (textRendered found untold shown known)) fun lost => unshaped lost.2
    · exact iff_of_false (not_or.mpr ⟨shapedUnrendered found shaped unshown,unkept⟩) (not_not.mpr ⟨known,shaped⟩)
  · refine iff_of_true (.inr ?_) fun lost => known lost.1
    unfold Kept
    rw [kept,if_neg (by simpa using known),found]
    rfl

namespace Client

section
variable (client : Client) (submission : Engine.Submission) {target : Config.Target}
  (targeted : client.target? submission.language = some target) (carrier : Net.Carrier W) (count : Nat) (world : W)
  {answer : Net.Answer} (replied : client.replyTo carrier target submission world = .ok answer)
  {members : Json.Members} (delivered : Delivers answer members)
include targeted replied delivered

theorem answeredReport : (((client.run carrier submission).run count).run world).1.1 = answerReport members := by
  simp only [runTargeted targeted,replied,(readIff client _ members).mpr ⟨answer,rfl,delivered⟩]
  rfl

/- Of a successful answer everything with something in it is in the report, except what is shaped under a name
that the report shows. -/
theorem fieldsKeptUnlessShaped :
    let report := (((client.run carrier submission).run count).run world).1.1
    report.status = .success → ∀ key value, members.get? key = some value → Filled value →
      ((Rendered report key value ∨ Kept report key value) ↔ ¬ (key ∈ renderedFields ∧ Shaped value)) := by
  rw [answeredReport client submission targeted carrier count world replied delivered]
  intro report succeeded key value found filled
  simp only [report,answerStatus] at succeeded
  have untold : field? members "error" = none := by
    by_contra present
    rw [if_neg present] at succeeded
    contradiction
  have output : report = outputReport members := by
    simp only [report,answerReport,untold]
  rw [output]
  exact fieldShown (deliversOrdered delivered) ((untoldIff members "error").mp untold) found filled

end

theorem textDelivers {body : String} {members : Json.Members} (decoded : Text.decodeLossy (Text.encode body) = body)
    (parsed : Json.parse body = .ok (.object members)) : Delivers (accepting body) members :=
  ⟨rfl,Text.encode body,rfl,(congrArg Json.parse decoded).trans parsed⟩

def measured : String := "\x7b\"output\":\"hi\",\"cputime\":3,\"limits\":[1]\x7d"

def measuredMembers : Json.Members :=
  [("cputime",.number (.int 3)),("limits",.array [.number (.int 1)]),("output",.string "hi")]

theorem measuredFieldsKept :
    let report := (((standard.run (answering measured) ⟨"main",.java,none⟩).run 0).run ()).1.1
    Delivers (accepting measured) measuredMembers ∧ report.status = .success ∧
      (Rendered report "cputime" (.number (.int 3)) ∨ Kept report "cputime" (.number (.int 3))) ∧
      (Rendered report "limits" (.array [.number (.int 1)]) ∨ Kept report "limits" (.array [.number (.int 1)])) := by
  have delivered : Delivers (accepting measured) measuredMembers := textDelivers (by cbv) (by rfl)
  have succeeded := answerSucceeds delivered .absent
  have kept := fieldsKeptUnlessShaped standard ⟨"main",.java,none⟩ rfl (answering measured) 0 () rfl delivered succeeded
  refine ⟨delivered,succeeded,(kept "cputime" _ rfl ⟨by simp,by simp⟩).mpr ?_,
    (kept "limits" _ rfl ⟨by simp,by simp⟩).mpr ?_⟩
  · exact fun lost => numberUnshaped _ lost.2
  · exact fun lost => absurd lost.1 (by decide)

def listed : String := "\x7b\"output\":[\"hi\"]\x7d"

theorem listedOutputLost :
    let report := (((standard.run (answering listed) ⟨"main",.java,none⟩).run 0).run ()).1.1
    Delivers (accepting listed) [("output",.array [.string "hi"])] ∧ report.status = .success ∧
      Filled (.array [.string "hi"]) ∧ ¬ Rendered report "output" (.array [.string "hi"]) ∧
      ¬ Kept report "output" (.array [.string "hi"]) := by
  have delivered : Delivers (accepting listed) [("output",.array [.string "hi"])] := textDelivers (by cbv) (by rfl)
  have filled : Filled (.array [.string "hi"]) := ⟨by simp,by simp⟩
  have found : Json.Members.get? [("output",.array [.string "hi"])] "output" = some (.array [.string "hi"]) := rfl
  have lost := (fieldShown (deliversOrdered delivered) .absent found filled).not.mpr
    (not_not.mpr ⟨by decide,.array _⟩)
  have output := answeredReport standard ⟨"main",.java,none⟩ rfl (answering listed) 0 () rfl delivered
  rw [output]
  exact ⟨delivered,rfl,filled,not_or.mp lost⟩

end Client
end Playground.Remote
