import Playground.Proofs.Json.Compact
import Playground.Proofs.Net.Redirects
import Playground.Proofs.Remote.Failures

/-! Calls of one client, one after the other, for any service, with all that goes over the wire. Main
statement: at every point of such a sequence the next call posts one request where its language has a
target and the address is one of the web, and sends nothing elsewhere; the request tells the service
exactly what the settings and the submission say, only redirects follow it, and the client has counted
the calls that have a target. -/
namespace Playground.Remote

def conveyed (config : Config.Remote) (target : Config.Target) (submission : Engine.Submission) : String → Option Json
  | "clientId" => (config.clientId.map Text.trimmed).map .string
  | "clientSecret" => (config.clientSecret.map Text.trimmed).map .string
  | "script" => some (.string submission.source)
  | "language" => some (.string (target.language ++ target.versionTag))
  | "versionIndex" => some (.string target.versionIndex)
  | "stdin" => submission.stdin.map .string
  | _ => none

def Conveys (config : Config.Remote) (target : Config.Target) (submission : Engine.Submission) (body : String) : Prop :=
  ∃ members : Json.Members, Json.parse body = .ok (.object members) ∧
    ∀ key, members.get? key = conveyed config target submission key

namespace Client

structure MadeFrom (config : Config.Remote) (client : Client) : Prop where
  clientId : config.clientId.map Text.trimmed = some client.clientId
  clientSecret : config.clientSecret.map Text.trimmed = some client.clientSecret
  url : Url.parse config.endpoint = .ok client.url
  targets : client.targets = config.targets

theorem madeFrom {config : Config.Remote} {client : Client} (made : ofConfig config = .ok (some client)) :
    MadeFrom config client := by
  unfold ofConfig at made
  split at made
  · cases made
  · split at made
    · rename_i id secret given givenSecret
      split at made
      · contradiction
      · rename_i url parsed
        cases made
        exact ⟨by rw [given]; rfl,by rw [givenSecret]; rfl,parsed,rfl⟩
    · cases made

section
variable {config : Config.Remote} {client : Client}

theorem madeTarget (made : MadeFrom config client) (language : Language) :
    client.target? language = config.targets.lookup language.id := by
  rw [target?,made.targets]

theorem madeUrl (made : MadeFrom config client) {url : Url} (parsed : Url.parse config.endpoint = .ok url) :
    client.url = url :=
  Except.ok.inj (made.url.symm.trans parsed)

variable (target : Config.Target) (submission : Engine.Submission)

def bodyFields (client : Client) (target : Config.Target) (submission : Engine.Submission) : List (String × Json) :=
  [("clientId",.string client.clientId),("clientSecret",.string client.clientSecret),
    ("script",.string submission.source),("language",.string target.wireLanguage),
    ("versionIndex",.string target.versionIndex)] ++
    (submission.stdin.map fun text => ("stdin",Json.string text)).toList

theorem bodyTexts (client : Client) : Json.OfTexts (client.bodyFields target submission) := by
  intro m member
  rcases List.mem_append.mp member with fixed | input
  · simp only [List.mem_cons,List.not_mem_nil,or_false] at fixed
    rcases fixed with rfl | rfl | rfl | rfl | rfl <;> exact ⟨_,rfl⟩
  · obtain ⟨text,-,rfl⟩ := Option.map_eq_some_iff.mp (Option.mem_toList.mp input)
    exact ⟨text,rfl⟩

theorem bodyMember (made : MadeFrom config client) (key : String) :
    (Json.Members.ofList (client.bodyFields target submission)).get? key = conveyed config target submission key := by
  rw [Json.getOfList,bodyFields,List.reverse_append]
  unfold conveyed
  rw [made.clientId,made.clientSecret]
  split
  all_goals cases submission.stdin <;> simp_all [lookupCons,Config.Target.wireLanguage]

theorem bodyConveys (made : MadeFrom config client) :
    Conveys config target submission (client.requestFor target submission).body :=
  ⟨_,Json.textsParsed (bodyTexts target submission client),bodyMember target submission made⟩

end

/-! ## Calls -/

@[ext]
structure Point (W : Type) where
  count : Nat := 0
  world : W
  exchanges : List Net.Exchange := []

def call (client : Client) (wire : Net.Carrier W) (submission : Engine.Submission) (p : Point W) : Report × Point W :=
  let ((report,count),seen) :=
    ((client.run (Net.following (Net.noted wire)) submission).run p.count).run (p.world,p.exchanges)
  (report,⟨count,seen.1,seen.2⟩)

def after (client : Client) (wire : Net.Carrier W) : List Engine.Submission → Point W → Point W
  | [],p => p
  | submission :: rest,p => client.after wire rest (client.call wire submission p).2

def targetedCalls (client : Client) (submissions : List Engine.Submission) : Nat :=
  submissions.countP fun submission => (client.target? submission.language).isSome

section
variable {client : Client} {submission : Engine.Submission}

theorem callUntargeted (untargeted : client.target? submission.language = none) (wire : Net.Carrier W) (p : Point W) :
    client.call wire submission p = (reportOn (.error (.unsupportedLanguage submission.language.id)),p) := by
  unfold call
  rw [runUntargeted untargeted]

theorem runOnce {target : Config.Target} (targeted : client.target? submission.language = some target)
    (carrier : Net.Carrier W) (count : Nat) (world : W) :
    ((client.run carrier submission).run count).run world =
      let sent := (Net.send carrier (client.requestFor target submission)).run world
      ((reportOn (client.read sent.1),count + 1),sent.2) := by
  rw [runCases,targeted]

theorem callUnsent {target : Config.Target} (targeted : client.target? submission.language = some target)
    (other : Net.isWebScheme client.url.scheme ≠ true) (wire : Net.Carrier W) (p : Point W) :
    client.call wire submission p =
      (reportOn (client.read (.error (.unsupportedScheme client.url))),{ p with count := p.count + 1 }) := by
  have unsent : Net.send (Net.following (Net.noted wire)) (client.requestFor target submission) = _ :=
    Net.sendOther other _
  unfold call
  rw [runOnce targeted,unsent]
  rfl

theorem callSent {target : Config.Target} (targeted : client.target? submission.language = some target)
    (web : Net.isWebScheme client.url.scheme = true) (wire : Net.Carrier W) (p : Point W) :
    ∃ trail, Net.Trail (client.requestFor target submission) trail ∧
      client.call wire submission p =
        let ran := ((client.run (Net.following wire) submission).run p.count).run p.world
        (ran.1.1,⟨p.count + 1,ran.2,p.exchanges ++ trail⟩) := by
  obtain ⟨trail,left,run⟩ :=
    Net.followingNoted wire (client.requestFor target submission) p.world p.exchanges
  have sent {V : Type} (carrier : Net.Carrier V) : Net.send carrier (client.requestFor target submission) = _ :=
    Net.sendWeb web carrier
  refine ⟨trail,left,?_⟩
  unfold call
  rw [runOnce targeted,runOnce targeted,sent,sent,run]

theorem callRuns (client : Client) (wire : Net.Carrier W) (submission : Engine.Submission) (p : Point W) :
    ((client.run (Net.following wire) submission).run p.count).run p.world =
      let called := client.call wire submission p
      ((called.1,called.2.count),called.2.world) := by
  cases targeted : client.target? submission.language with
  | none => rw [runUntargeted targeted,callUntargeted targeted]
  | some target =>
    by_cases web : Net.isWebScheme client.url.scheme = true
    · obtain ⟨trail,-,called⟩ := callSent targeted web wire p
      rw [called,runOnce targeted]
    · have unsent : Net.send (Net.following wire) (client.requestFor target submission) = _ := Net.sendOther web _
      rw [callUnsent targeted web,runOnce targeted,unsent]
      rfl

theorem callCount (client : Client) (wire : Net.Carrier W) (submission : Engine.Submission) (p : Point W) :
    (client.call wire submission p).2.count = p.count + client.targetedCalls [submission] := by
  cases targeted : client.target? submission.language with
  | none => simp [callUntargeted targeted,targetedCalls,targeted]
  | some target =>
    by_cases web : Net.isWebScheme client.url.scheme = true
    · obtain ⟨trail,-,called⟩ := callSent targeted web wire p
      simp [called,targetedCalls,targeted]
    · simp [callUnsent targeted web,targetedCalls,targeted]

theorem afterCount (client : Client) (wire : Net.Carrier W) (earlier : List Engine.Submission) (p : Point W) :
    (client.after wire earlier p).count = p.count + client.targetedCalls earlier := by
  induction earlier generalizing p with
  | nil => rfl
  | cons submission rest ih =>
    have split : client.targetedCalls ([submission] ++ rest) =
        client.targetedCalls [submission] + client.targetedCalls rest := List.countP_append
    rw [after,ih,callCount,Nat.add_assoc,← split]
    rfl

end

structure Attempts (config : Config.Remote) (target : Config.Target) (submission : Engine.Submission) (url : Url)
    (before : Point W) (report : Report) (reached : Point W) : Prop where
  sent : Net.isWebScheme url.scheme = true → ∃ request trail, request.method = .post ∧ request.url = url ∧
    Conveys config target submission request.body ∧ Net.Trail request trail ∧
    reached.exchanges = before.exchanges ++ trail
  unsent : Net.isWebScheme url.scheme = false → reached.exchanges = before.exchanges ∧ reached.world = before.world ∧
    report.status = .error ∧ WordedUnreachable report

/- After any calls of a client the next one makes a single POST to the address of the settings if its language
has a target, and follows with what redirects ask for alone; it leaves everything as it was if not. An address
that is not of the web is told to be out of reach. The client has counted the calls that have a request to
make. -/
theorem attemptsCounted {config : Config.Remote} {client : Client} (made : ofConfig config = .ok (some client))
    (wire : Net.Carrier W) (world : W) (earlier : List Engine.Submission) (submission : Engine.Submission) :
    let before := client.after wire earlier { world }
    let called := client.call wire submission before
    ((client.run (Net.following wire) submission).run before.count).run before.world =
      ((called.1,called.2.count),called.2.world) ∧
    called.2.count = (earlier ++ [submission]).countP (fun s => (config.targets.lookup s.language.id).isSome) ∧
    (∀ target, config.targets.lookup submission.language.id = some target →
      ∃ url, Url.parse config.endpoint = .ok url ∧
        Attempts config target submission url before called.1 called.2) ∧
    (config.targets.lookup submission.language.id = none → called.2 = before ∧ called.1.status = .error ∧
      called.1.message = "Remote execution does not support " ++ submission.language.id) := by
  intro before called
  have settings := madeFrom made
  refine ⟨callRuns client wire submission before,?_,?_,?_⟩
  · have count : called.2.count = client.targetedCalls earlier + client.targetedCalls [submission] := by
      rw [callCount,afterCount,Nat.zero_add]
    rw [count,← settings.targets]
    exact List.countP_append.symm
  · intro target listed
    have targeted : client.target? submission.language = some target := (madeTarget settings _).trans listed
    refine ⟨client.url,settings.url,fun web => ?_,fun other => ?_⟩
    · obtain ⟨trail,left,ran⟩ := callSent targeted web wire before
      refine ⟨_,trail,rfl,rfl,bodyConveys target submission settings,left,?_⟩
      simp only [called,ran]
    · have unsent := callUnsent targeted (ne_of_eq_of_ne other Bool.false_ne_true) wire before
      simp only [called,unsent]
      exact ⟨trivial,trivial,rfl,_,rfl⟩
  · intro unlisted
    have untargeted : client.target? submission.language = none := (madeTarget settings _).trans unlisted
    simp only [called,callUntargeted untargeted]
    exact ⟨trivial,rfl,rfl⟩

def configured : Config.Remote :=
  { endpoint := "http://localhost/run", clientId := some " id\t", clientSecret := some "secret\n" }

theorem configuredParsed : ∃ url, Url.parse configured.endpoint = .ok url ∧ Net.isWebScheme url.scheme = true :=
  ⟨_,by cbv,by decide⟩

theorem configuredMade : ∃ client, ofConfig configured = .ok (some client) := by
  have present : configured.isConfigured = true := by decide
  obtain ⟨url,parsed,-⟩ := configuredParsed
  unfold ofConfig
  rw [present,parsed]
  exact ⟨_,rfl⟩

def moved : Net.Carrier Nat := fun request asked =>
  (.ok (if asked = 0 then { status := 308, location := some request.url } else { status := 200 }),asked + 1)

theorem laterCallAttempted :
    ∃ client, ofConfig configured = .ok (some client) ∧
      let before := client.after moved [⟨"main",.java,none⟩,⟨"SELECT 1",.sql,some "1"⟩] { world := 0 }
      let called := client.call moved ⟨"print('é')\n",.python,some ""⟩ before
      configured.targets.lookup "python" = some ⟨"python","3","0"⟩ ∧ called.2.count = 2 ∧
        ∃ url, Url.parse configured.endpoint = .ok url ∧
          Attempts configured ⟨"python","3","0"⟩ ⟨"print('é')\n",.python,some ""⟩ url before called.1 called.2 := by
  obtain ⟨client,made⟩ := configuredMade
  obtain ⟨-,count,targeted,-⟩ := attemptsCounted made moved 0 [⟨"main",.java,none⟩,⟨"SELECT 1",.sql,some "1"⟩]
    ⟨"print('é')\n",.python,some ""⟩
  exact ⟨client,made,rfl,count,targeted ⟨"python","3","0"⟩ rfl⟩

def misconfigured : Config.Remote := { configured with endpoint := "ftp://localhost/run" }

theorem misconfiguredParsed :
    ∃ url, Url.parse misconfigured.endpoint = .ok url ∧ Net.isWebScheme url.scheme = false :=
  ⟨_,by cbv,by decide⟩

theorem misconfiguredMade : ∃ client, ofConfig misconfigured = .ok (some client) := by
  have present : misconfigured.isConfigured = true := by decide
  obtain ⟨url,parsed,-⟩ := misconfiguredParsed
  unfold ofConfig
  rw [present,parsed]
  exact ⟨_,rfl⟩

theorem movedFollowed {request : Net.Request} (web : Net.isWebScheme request.url.scheme = true) :
    ((Net.following (Net.noted moved) request).run (0,[])).2.2.map Net.Exchange.request = [request,request] := by
  have first : (moved request).run 0 = (.ok { status := 308, location := some request.url },1) := rfl
  have second : (moved request).run 1 = (.ok { status := 200 },2) := rfl
  have redirected : request.redirected? (.ok { status := 308, location := some request.url }) = some request := rfl
  have once := Net.followedOn (Net.notedRun first []) redirected 9
  rw [Net.sendWeb web,Net.followedHere (Net.notedRun second _) rfl] at once
  exact congrArg (·.2.2.map Net.Exchange.request) once

theorem countedOtherwise :
    (∃ client, ofConfig configured = .ok (some client) ∧
      let called := client.call moved ⟨"main",.java,none⟩ { world := 0 }
      called.2.count = 1 ∧ called.2.exchanges.map (·.request.method) = [.post,.post]) ∧
    (∃ client, ofConfig misconfigured = .ok (some client) ∧
      let called := client.call moved ⟨"main",.java,none⟩ { world := 0 }
      called.2.count = 1 ∧ called.2.exchanges = []) := by
  let submission : Engine.Submission := ⟨"main",.java,none⟩
  let target : Config.Target := ⟨"java","93","0"⟩
  constructor
  · obtain ⟨client,made⟩ := configuredMade
    obtain ⟨url,parsed,web⟩ := configuredParsed
    have settings := madeFrom made
    rw [← madeUrl settings parsed] at web
    have targeted : client.target? submission.language = some target := madeTarget settings _
    have sent : Net.send (Net.following (Net.noted moved)) (client.requestFor target submission) = _ :=
      Net.sendWeb web _
    have twice : ((Net.following (Net.noted moved) (client.requestFor target submission)).run (0,[])).2.2.map
        Net.Exchange.request = _ := movedFollowed web
    have methods := congrArg (List.map Net.Request.method) twice
    rw [List.map_map] at methods
    refine ⟨client,made,?_⟩
    unfold call
    rw [runOnce targeted,sent]
    exact ⟨rfl,methods⟩
  · obtain ⟨client,made⟩ := misconfiguredMade
    obtain ⟨url,parsed,other⟩ := misconfiguredParsed
    have settings := madeFrom made
    rw [← madeUrl settings parsed] at other
    have targeted : client.target? submission.language = some target := madeTarget settings _
    refine ⟨client,made,?_⟩
    rw [callUnsent targeted (ne_of_eq_of_ne other Bool.false_ne_true)]
    exact ⟨rfl,rfl⟩

end Client
end Playground.Remote
