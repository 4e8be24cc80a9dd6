import Playground.Proofs.Engine.Recording

/-! Which runs submit their program to the remote service. A run submits at most once, and `Submits` states
the whole condition on the request, the collaborators and the session. -/
namespace Playground.Engine

def Sends (act' : RunOn P (Recorded W) H α) (act : RunOn P W H α) (s : Session W H P) (request : Submission)
    (due : Prop) : Prop :=
  (due → Follows act' act s [request]) ∧ (¬ due → Follows act' act s [])

theorem sendsNever {act' : RunOn P (Recorded W) H α} {act : RunOn P W H α} {s request} {due : Prop}
    (silent : Follows act' act s []) (never : ¬ due) : Sends act' act s request due :=
  ⟨fun holds => absurd holds never,fun _ => silent⟩

theorem sendsIff {act' : RunOn P (Recorded W) H α} {act : RunOn P W H α} {s request} {due due' : Prop}
    (same : due ↔ due') (sends : Sends act' act s request due) : Sends act' act s request due' := by
  rw [← propext same]
  exact sends

theorem sendsBind {act' : RunOn P (Recorded W) H α} {act : RunOn P W H α} {next' : α → RunOn P (Recorded W) H β}
    {next : α → RunOn P W H β} {s request} {due : Prop} (first : Follows act' act s [])
    (rest : Sends (next' (act.run s).1) (next (act.run s).1) (act.run s).2 request due) :
    Sends (act' >>= next') (act >>= next) s request due :=
  ⟨fun holds => followsBind first (rest.1 holds),fun fails => followsBind first (rest.2 fails)⟩

theorem sendsMap {act' : RunOn P (Recorded W) H α} {act : RunOn P W H α} {s request} {due : Prop} (f : α → β)
    (first : Sends act' act s request due) :
    Sends (act' >>= fun a => pure (f a)) (act >>= fun a => pure (f a)) s request due :=
  ⟨fun holds => followsBind (first.1 holds) (followsPure _ _),
    fun fails => followsBind (first.2 fails) (followsPure _ _)⟩

def Supported (c : Collaborators W H) (language : Language) : Prop :=
  ∃ remote, c.remote = some remote ∧ remote.supports language = true

theorem remoteCases (c : Collaborators W H) (language : Language) :
    (¬ Supported c language ∧ remoteFor c language = none ∧ remoteFor c.recorded language = none) ∨
    ∃ remote, Supported c language ∧ remoteFor c language = some remote ∧
      remoteFor c.recorded language = some remote.recorded := by
  rw [remoteForRecorded]
  cases found : remoteFor c language with
  | none =>
    refine .inl ⟨?_,rfl,rfl⟩
    rintro ⟨remote,wired,supports⟩
    simp [remoteFor,wired,supports,Option.filter] at found
  | some remote =>
    obtain ⟨wired,supports⟩ := Option.filter_eq_some_iff.mp found
    exact .inr ⟨remote,⟨remote,wired,supports⟩,rfl,rfl⟩

theorem followsScript (c : Collaborators W H) (request : Submission) (s : Session W H P) :
    Follows (runScript c.recorded request) (runScript c request) s [] := by
  have prompts : ((c.recorded.requestInput.map fun ask => ask request.language).map unrecorded) =
      c.requestInput.map fun ask => ask request.language := by
    unfold Collaborators.recorded
    cases c.requestInput <;> rfl
  have evaluated : c.recorded.evaluate request.source request.stdin
      (c.recorded.requestInput.map fun ask => ask request.language) =
      silently (c.evaluate request.source request.stdin
        (c.requestInput.map fun ask => ask request.language)) := by
    rw [← prompts]
    rfl
  unfold runScript
  simp only [evaluated]
  exact followsBind (followsWorld _ s) (followsPure _ _)

theorem followsPassive [Surface P] (request : Submission) (s : Session W H P) :
    Follows (runPassive request) (runPassive request) s [] := by
  unfold runPassive
  split
  · exact followsBind (followsPreview _ s) (followsPure _ _)
  · exact followsBind (followsPreview _ s) (followsPure _ _)
  · exact followsPure _ s
  · exact followsPure _ s
  · exact followsPure _ s

theorem sendsChecked (c : Collaborators W H) (request : Submission) (s : Session W H P) :
    Sends (runChecked c.recorded request) (runChecked c request) s request
      (Check.validate request.source request.language = [] ∧ Supported c request.language) := by
  unfold runChecked
  cases found : Check.validate request.source request.language with
  | cons issue issues => exact sendsNever (followsPure _ s) (by simp)
  | nil =>
    rcases remoteCases c request.language with ⟨none,own,other⟩ | ⟨remote,supported,own,other⟩
    · simp only [own,other]
      exact sendsNever (followsPure _ s) (fun due => none due.2)
    · simp only [own,other]
      exact ⟨fun _ => followsRemote remote request s,fun fails => absurd ⟨trivial,supported⟩ fails⟩

theorem sendsInterpreted (c : Collaborators W H) (request : Submission) (s : Session W H P) :
    Sends (runInterpreted c.recorded request) (runInterpreted c request) s request
      ((∃ fault, ((ensureReady c).run s).1 = .error fault) ∧ Supported c request.language) := by
  unfold runInterpreted
  refine sendsBind (followsEnsure c s) ?_
  cases answer : ((ensureReady c).run s).1 with
  | ok handle =>
    refine sendsNever ?_ (by simp)
    exact followsBind (followsWorld _ _) (followsPure _ _)
  | error fault =>
    rcases remoteCases c request.language with ⟨none,own,other⟩ | ⟨remote,supported,own,other⟩
    · simp only [own,other]
      exact sendsNever (followsPure _ _) (fun due => none due.2)
    · simp only [own,other]
      refine ⟨fun _ => ?_,fun fails => absurd ⟨⟨fault,rfl⟩,supported⟩ fails⟩
      exact followsBind (followsRemote remote request _) (followsPure _ _)

def HandsOn (c : Collaborators W H) (request : Submission) (s : Session W H P) : Prop :=
  Supported c request.language ∧
    ((request.language = .java ∨ request.language = .cpp) ∧
        Check.validate request.source request.language = [] ∨
      request.language = .python ∧ ∃ fault, ((ensureReady c).run s).1 = .error fault)

theorem sendsStrategy [Surface P] (c : Collaborators W H) (request : Submission) (s : Session W H P) :
    Sends (runStrategy c.recorded request) (runStrategy c request) s request (HandsOn c request s) := by
  have checked := sendsChecked c request s
  have interpreted := sendsInterpreted c request s
  unfold runStrategy HandsOn
  cases language : request.language with
  | javaScript => exact sendsNever (followsScript c request s) (by simp)
  | python =>
    rw [language] at interpreted
    simpa [Strategy.ofLanguage,and_comm] using interpreted
  | java =>
    rw [language] at checked
    simpa [Strategy.ofLanguage,and_comm] using checked
  | cpp =>
    rw [language] at checked
    simpa [Strategy.ofLanguage,and_comm] using checked
  | html => exact sendsNever (followsPassive request s) (by simp)
  | css => exact sendsNever (followsPassive request s) (by simp)
  | json => exact sendsNever (followsPassive request s) (by simp)
  | sql => exact sendsNever (followsPassive request s) (by simp)

theorem sendsTagged [Surface P] (c : Collaborators W H) (request : Submission) (s : Session W H P) :
    Sends (runTagged c.recorded request) (runTagged c request) s request (HandsOn c request s) :=
  sendsMap _ (sendsStrategy c request s)

def effectiveInput (c : Collaborators W H) (source : String) (language : Language)
    (stdin : Option String) : RunOn P W H (Option String) :=
  match stdin,c.requestInput with
  | none,some ask =>
    if c.solicitInput && InputUse.needsInput source language then inWorld (ask language)
    else return none
  | given,_ => return given

def Unanswerable (c : Collaborators W H) (source : String) (language : Language)
    (stdin : Option String) : Prop :=
  stdin = none ∧ c.solicitInput = true ∧ InputUse.needsInput source language = true ∧
    c.requestInput = none

theorem lacksInputIff (c : Collaborators W H) (request : Submission) :
    lacksInput c request = true ↔ request.stdin = none ∧ c.solicitInput = true ∧
      InputUse.needsInput request.source request.language = true := by
  simp [lacksInput,and_assoc]

theorem inputGiven {c : Collaborators W H} {source language stdin}
    (enough : lacksInput c ⟨source,language,stdin⟩ = false) :
    effectiveInput c source language stdin = (pure stdin : RunOn P W H (Option String)) := by
  unfold effectiveInput
  split
  · rename_i ask _
    have unasked : (c.solicitInput && InputUse.needsInput source language) = false := by
      simpa [lacksInput] using enough
    simp [unasked]
  · rfl

theorem inputAsked {c : Collaborators W H} {source language stdin ask}
    (lacks : lacksInput c ⟨source,language,stdin⟩ = true) (provider : c.requestInput = some ask) :
    effectiveInput c source language stdin = (inWorld (ask language) : RunOn P W H (Option String)) := by
  obtain ⟨rfl,solicits,reads⟩ := (lacksInputIff c _).mp lacks
  have reads : InputUse.needsInput source language = true := reads
  simp [effectiveInput,provider,solicits,reads]

structure Started (c : Collaborators W H) (source name : String) (stdin : Option String)
    (language : Language) : Prop where
  parsed : Language.parse? name = some language
  code : Text.isBlankString source = false
  answerable : ¬ Unanswerable c source language stdin

theorem startedRuns [Surface P] {c : Collaborators W H} {source name : String} {stdin : Option String}
    {language : Language} (started : Started c source name stdin language) (s : Session W H P) :
    let input := (effectiveInput c source language stdin).run s
    (run c source name stdin).run s = (runTagged c ⟨source,language,input.1⟩).run input.2 := by
  intro input
  simp only [run,started.parsed,runRequest,started.code]
  cases lacks : lacksInput c ⟨source,language,stdin⟩ with
  | false =>
    simp only [input,inputGiven lacks]
    rfl
  | true =>
    obtain ⟨absent,solicits,reads⟩ := (lacksInputIff c _).mp lacks
    cases provider : c.requestInput with
    | none => exact absurd ⟨absent,solicits,reads,provider⟩ started.answerable
    | some ask =>
      simp only [input,inputAsked lacks provider]
      rfl

theorem sendsRequest [Surface P] (c : Collaborators W H) (source : String) (language : Language)
    (stdin : Option String) (s : Session W H P) :
    let input := (effectiveInput c source language stdin).run s
    Sends (runRequest c.recorded ⟨source,language,stdin⟩) (runRequest c ⟨source,language,stdin⟩) s
      ⟨source,language,input.1⟩
      (Text.isBlankString source = false ∧ ¬ Unanswerable c source language stdin ∧
        HandsOn c ⟨source,language,input.1⟩ input.2) := by
  intro input
  have same : lacksInput c.recorded ⟨source,language,stdin⟩ = lacksInput c ⟨source,language,stdin⟩ := rfl
  unfold runRequest
  simp only [same]
  cases blank : Text.isBlankString source with
  | true => exact sendsNever (followsPure _ s) (by simp)
  | false =>
    cases lacks : lacksInput c ⟨source,language,stdin⟩ with
    | false =>
      have given : input = (stdin,s) := by
        simp only [input,inputGiven lacks]
        rfl
      have answerable : ¬ Unanswerable c source language stdin := by
        rintro ⟨absent,solicits,reads,-⟩
        rw [(lacksInputIff c _).mpr ⟨absent,solicits,reads⟩] at lacks
        contradiction
      rw [given]
      exact sendsIff (by simp [answerable]) (sendsTagged c ⟨source,language,stdin⟩ s)
    | true =>
      obtain ⟨absent,solicits,reads⟩ := (lacksInputIff c _).mp lacks
      cases provider : c.requestInput with
      | none =>
        have unwired : c.recorded.requestInput = none := by simp [Collaborators.recorded,provider]
        simp only [unwired]
        exact sendsNever (followsPure _ s) (fun due => due.2.1 ⟨absent,solicits,reads,provider⟩)
      | some ask =>
        have wired : c.recorded.requestInput = some fun language => silently (ask language) := by
          simp [Collaborators.recorded,provider]
        have asked : input = (inWorld (ask language)).run s := by
          simp only [input,inputAsked lacks provider]
        have answerable : ¬ Unanswerable c source language stdin := by
          rintro ⟨-,-,-,unwired⟩
          rw [provider] at unwired
          contradiction
        simp only [wired]
        rw [asked]
        refine sendsBind (followsWorld (ask language) s) ?_
        exact sendsIff (by simp [answerable]) (sendsTagged c ⟨source,language,_⟩ _)

/- Everything that has to hold for the submission of a run: the name is that of its language, the code is not
blank, its input is settled, a remote executor takes the language, and either the source has no findings or
the interpreter could not be made ready. -/
structure Submits (c : Collaborators W H) (s : Session W H P) (source name : String)
    (stdin : Option String) (submission : Submission) : Prop where
  parsed : Language.parse? name = some submission.language
  verbatim : submission.source = source
  code : Text.isBlankString source = false
  answerable : ¬ Unanswerable c source submission.language stdin
  input : submission.stdin = ((effectiveInput c source submission.language stdin).run s).1
  remote : ∃ remote, c.remote = some remote ∧ remote.supports submission.language = true
  strategy : (submission.language = .java ∨ submission.language = .cpp) ∧
      Check.validate source submission.language = [] ∨
    submission.language = .python ∧ ∃ fault,
      ((ensureReady c).run ((effectiveInput c source submission.language stdin).run s).2).1 = .error fault

def submissions [Surface P] (c : Collaborators W H) (source name : String) (stdin : Option String)
    (s : Session W H P) : List Submission :=
  ((run c.recorded source name stdin).run (s.recorded [])).2.world.submissions

theorem submitsIff {c : Collaborators W H} {s : Session W H P} {source name stdin language submission}
    (parsed : Language.parse? name = some language) :
    Submits c s source name stdin submission ↔
      submission = ⟨source,language,((effectiveInput c source language stdin).run s).1⟩ ∧
      Text.isBlankString source = false ∧ ¬ Unanswerable c source language stdin ∧
      HandsOn c ⟨source,language,((effectiveInput c source language stdin).run s).1⟩
        ((effectiveInput c source language stdin).run s).2 := by
  constructor
  · rintro ⟨named,own,code,answerable,given,remote,strategy⟩
    obtain ⟨text,tongue,fed⟩ := submission
    rw [parsed] at named
    cases named
    cases own
    have given : fed = ((effectiveInput c text tongue stdin).run s).1 := given
    subst fed
    exact ⟨rfl,code,answerable,remote,strategy⟩
  · rintro ⟨rfl,code,answerable,remote,strategy⟩
    exact ⟨parsed,rfl,code,answerable,rfl,remote,strategy⟩

theorem unparsedSent [Surface P] (c : Collaborators W H) (s : Session W H P) (source : String) {name}
    (stdin : Option String) (parsed : Language.parse? name = none) :
    Follows (run c.recorded source name stdin) (run c source name stdin) s [] ∧
      ∀ submission, ¬ Submits c s source name stdin submission := by
  constructor
  · simp only [run,parsed]
    exact followsPure _ s
  · intro submission submits
    have named := submits.parsed
    rw [parsed] at named
    contradiction

theorem parsedSent [Surface P] {c : Collaborators W H} {s : Session W H P} {source name stdin language}
    (parsed : Language.parse? name = some language) :
    ∃ sent, Follows (run c.recorded source name stdin) (run c source name stdin) s sent ∧
      sent.length ≤ 1 ∧ ∀ submission, submission ∈ sent ↔ Submits c s source name stdin submission := by
  have sends := sendsRequest c source language stdin s
  simp only [run,parsed,submitsIff parsed]
  by_cases due : Text.isBlankString source = false ∧ ¬ Unanswerable c source language stdin ∧
      HandsOn c ⟨source,language,((effectiveInput c source language stdin).run s).1⟩
        ((effectiveInput c source language stdin).run s).2
  · exact ⟨_,sends.1 due,by simp,by simp [due]⟩
  · exact ⟨_,sends.2 due,by simp,by simp [due]⟩

theorem runSent [Surface P] (c : Collaborators W H) (source name : String) (stdin : Option String)
    (s : Session W H P) :
    ∃ sent, Follows (run c.recorded source name stdin) (run c source name stdin) s sent ∧
      sent.length ≤ 1 ∧ ∀ submission, submission ∈ sent ↔ Submits c s source name stdin submission := by
  cases parsed : Language.parse? name with
  | none =>
    obtain ⟨follows,never⟩ := unparsedSent c s source stdin parsed
    exact ⟨[],follows,by simp,by simp [never]⟩
  | some language => exact parsedSent parsed

theorem runSubmitsOnceWhenDue [Surface P] (c : Collaborators W H) (source name : String) (stdin : Option String)
    (s : Session W H P) :
    let result := (run c source name stdin).run s
    (∀ log, (run c.recorded source name stdin).run (s.recorded log) =
      (result.1,result.2.recorded (log ++ submissions c source name stdin s))) ∧
    (submissions c source name stdin s).length ≤ 1 ∧
    ∀ submission, submission ∈ submissions c source name stdin s ↔
      Submits c s source name stdin submission := by
  intro result
  obtain ⟨sent,follows,single,members⟩ := runSent c source name stdin s
  have own : submissions c source name stdin s = sent := by
    unfold submissions
    rw [follows []]
    rfl
  rw [own]
  exact ⟨follows,single,members⟩

def remoteOnly : Collaborators Unit Unit where
  evaluate := fun _ _ _ => pure (.ok {})
  load := pure (.failed (.invalid "empty"))
  runGuest := fun _ _ _ => pure (.error .fuelExhausted)
  remote := some ⟨fun _ => true,fun _ => pure (.success "ran")⟩
  requestInput := some fun _ => pure (some "7")

theorem failedLoadSubmitsAnsweredInput :
    let request : Submission := ⟨"print(input())",.python,some "7"⟩
    submissions remoteOnly "print(input())" " PY" none { world := () } = [request] ∧
      Submits remoteOnly { world := () } "print(input())" " PY" none request := by
  intro request
  have sent : submissions remoteOnly "print(input())" " PY" none { world := () } = [request] := by
    decide +kernel
  have exactly := (runSubmitsOnceWhenDue remoteOnly "print(input())" " PY" none { world := () }).2.2 request
  exact ⟨sent,exactly.mp (by rw [sent]; exact List.mem_cons_self)⟩

end Playground.Engine
