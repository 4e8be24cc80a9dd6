import Playground.Proofs.Json.Members
import Playground.Server.Router

/-! What requests do to the engine behind the server. Requests that fetch and runs that are refused
leave the whole session as it was. Main statement: over any sequence of requests this holds of each of
them, and a submission that is well-formed and comes as JSON is answered with the report of its run. -/
namespace Playground.Server
variable {W H : Type}

inductive Happening where
  | asked (stamp : Stamp) (request : Request)
  | settled

def Happening.on (c : Engine.Collaborators W H) (s : Engine.Session W H) : Happening → Engine.Session W H
  | .asked stamp request => ((respond c stamp request).run s).2
  | .settled => ((Engine.settle c).run s).2

def sessionAfter (c : Engine.Collaborators W H) (s : Engine.Session W H) (happened : List Happening) :
    Engine.Session W H :=
  happened.foldl (Happening.on c) s

structure Request.Posts (request : Request) : Prop where
  posted : request.method = "POST"
  routed : Route.ofPath? request.path = some .run

structure Request.Submits (request : Request) (submission : Submission) : Prop extends request.Posts where
  typed : hasJsonType request.headers = true
  bounded : request.body.length ≤ bodyLimit
  decoded : Submission.read request.body = .ok submission
  named : Text.isBlankString submission.language = false
  fitting : submission.source.utf8ByteSize ≤ Submission.sourceLimit

theorem respondRuns (c : Engine.Collaborators W H) (stamp : Stamp) (request : Request) (s : Engine.Session W H) :
    (respond c stamp request).run s =
      (((answer c stamp request).run s).1.withHeaders sharingHeaders,((answer c stamp request).run s).2) := rfl

theorem routeKeeps (c : Engine.Collaborators W H) (stamp : Stamp) (request : Request) {route : Route}
    (fetched : route.isPosted = false) (s : Engine.Session W H) :
    ((routeResponse c stamp request route).run s).2 = s := by
  cases route with
  | run => contradiction
  | preload => contradiction
  | languages => rfl
  | starter segment => rfl
  | preview => rfl
  | health => rfl
  | ready => rfl

theorem fetchKeeps (c : Engine.Collaborators W H) (stamp : Stamp) {request : Request}
    (fetches : request.method = "GET") (s : Engine.Session W H) :
    ((respond c stamp request).run s).2 = s := by
  rw [respondRuns]
  unfold answer
  cases Route.ofPath? request.path with
  | none => simp only [fetches]; rfl
  | some route =>
    simp only [fetches,respondAt]
    cases posted : route.isPosted with
    | true => rfl
    | false => exact routeKeeps c stamp request posted s

theorem postRuns (c : Engine.Collaborators W H) (stamp : Stamp) {request : Request} (posts : request.Posts)
    (s : Engine.Session W H) :
    (respond c stamp request).run s =
      (((runResponse c stamp request).run s).1.withHeaders sharingHeaders,
        ((runResponse c stamp request).run s).2) := by
  rw [respondRuns]
  unfold answer respondAt
  simp only [posts.posted,posts.routed]
  rfl

theorem submissionRuns (c : Engine.Collaborators W H) (stamp : Stamp) (submission : Submission)
    (s : Engine.Session W H) :
    (runSubmission c stamp submission).run s =
      let ran := (Engine.run c submission.source submission.language submission.stdin).run s
      (.ofJson 200 (runAnswer stamp ran.1),ran.2) := by
  unfold runSubmission
  rw [StateT.run_bind]
  generalize (Engine.run c submission.source submission.language submission.stdin).run s = ran
  obtain ⟨report,left⟩ := ran
  rfl

theorem postCases (c : Engine.Collaborators W H) (stamp : Stamp) {request : Request} (posts : request.Posts)
    (s : Engine.Session W H) :
    (∃ refusal, submissionOf request = .error refusal ∧
      (respond c stamp request).run s = (refusal.withHeaders sharingHeaders,s)) ∨
    ∃ submission, submissionOf request = .ok submission ∧
      let ran := (Engine.run c submission.source submission.language submission.stdin).run s
      (respond c stamp request).run s =
        ((Response.ofJson 200 (runAnswer stamp ran.1)).withHeaders sharingHeaders,ran.2) := by
  rw [postRuns c stamp posts]
  unfold runResponse
  cases found : submissionOf request with
  | error refusal => exact .inl ⟨refusal,rfl,rfl⟩
  | ok submission =>
    refine .inr ⟨submission,rfl,?_⟩
    simp only [submissionRuns]

theorem submitted {request : Request} {submission : Submission} (submits : request.Submits submission) :
    submissionOf request = .ok submission := by
  have short : ¬ bodyLimit < request.body.length := Nat.not_lt.mpr submits.bounded
  have small : ¬ Submission.sourceLimit < submission.source.utf8ByteSize := Nat.not_lt.mpr submits.fitting
  unfold submissionOf Submission.objection?
  simp [submits.typed,short,submits.decoded,submits.named,small]

theorem answerMembers (stamp : Stamp) (report : Report) :
    (∀ field ∈ report.fields, (runAnswer stamp report).get? field.1 = some field.2) ∧
    (runAnswer stamp report).get? "rendered" = some (.string report.render) := by
  have members (key : String) : (runAnswer stamp report).get? key = (answerFields stamp report).lookup key := rfl
  refine ⟨fun field member => ?_,?_⟩
  · rw [members]
    simp only [Report.fields,List.mem_cons,List.not_mem_nil,or_false] at member
    rcases member with rfl | rfl | rfl | rfl <;> simp [answerFields,Report.fields,List.lookup]
  · rw [members]
    simp [answerFields,Report.fields,List.lookup]

/- At every point of every sequence of requests. -/
theorem submissionsAnsweredElseKept (c : Engine.Collaborators W H) (start : Engine.Session W H)
    (happened : List Happening) (stamp : Stamp) (request : Request) :
    let s := sessionAfter c start happened
    let result := (respond c stamp request).run s
    (request.method = "GET" → result.2 = s) ∧
    (request.Posts → result.1.status ≠ 200 → result.2 = s) ∧
    ∀ submission, request.Submits submission →
      let ran := (Engine.run c submission.source submission.language submission.stdin).run s
      result.1.status = 200 ∧ result.1.body = (runAnswer stamp ran.1).compact ∧ result.2 = ran.2 ∧
      (∀ field ∈ ran.1.fields, (runAnswer stamp ran.1).get? field.1 = some field.2) ∧
      (runAnswer stamp ran.1).get? "rendered" = some (.string ran.1.render) := by
  intro s result
  refine ⟨fun fetches => fetchKeeps c stamp fetches s,fun posts refused => ?_,fun submission submits => ?_⟩
  · rcases postCases c stamp posts s with ⟨refusal,-,responded⟩ | ⟨submission,-,responded⟩
    · exact congrArg Prod.snd responded
    · exact absurd (congrArg (·.1.status) responded) refused
  · intro ran
    rcases postCases c stamp submits.toPosts s with ⟨refusal,refused,-⟩ | ⟨known,taken,responded⟩
    · rw [submitted submits] at refused
      contradiction
    · rw [submitted submits] at taken
      cases taken
      have status : result.1.status = 200 := by rw [show result = _ from responded]; rfl
      have body : result.1.body = (runAnswer stamp ran.1).compact := by rw [show result = _ from responded]; rfl
      have left : result.2 = ran.2 := by rw [show result = _ from responded]
      exact ⟨status,body,left,answerMembers stamp ran.1⟩

def secluded : Engine.Collaborators Unit Unit where
  evaluate := fun _ _ _ => pure (.ok {})
  load := pure (.failed (.invalid "empty"))
  runGuest := fun _ _ _ => pure (.error .fuelExhausted)
  remote := none
  requestInput := none

def listed : List UInt8 := [0x5b,0x22,0x31,0x22,0x2c,0x22,0x6a,0x73,0x6f,0x6e,0x22,0x5d]

def listedSubmission : Submission where
  source := String.ofList ['1']
  language := String.ofList ['j','s','o','n']

def untyped : Request where
  method := "POST"
  target := "/run"
  body := listed

def padded (blanks : Nat) : Request where
  method := "POST"
  target := "/run"
  headers := [("content-type","application/json")]
  body := listed ++ List.replicate blanks 0x20

theorem asciiDecoded {bytes : List UInt8} (ascii : ∀ b ∈ bytes, b.toNat < 0x80) :
    Text.decode bytes = bytes.map fun b => .char (Char.ofNat b.toNat) := by
  have collected : ∀ decoded, bytes.foldl Text.Decoder.step { decoded } =
      { decoded := (bytes.map fun b => Text.Glyph.char (Char.ofNat b.toNat)).reverse ++ decoded } := by
    induction bytes with
    | nil => exact fun _ => rfl
    | cons b bytes ih =>
      intro decoded
      obtain ⟨first,others⟩ := List.forall_mem_cons.mp ascii
      have stepped : Text.Decoder.step { decoded } b = { decoded := .char (Char.ofNat b.toNat) :: decoded } := by
        simp [Text.Decoder.step,Text.Decoder.start,first]
      rw [List.foldl_cons,stepped,ih others]
      simp
  simp only [Text.decode,collected,Text.Decoder.giveUp]
  simp

theorem listedGlyphs :
    listed.map (fun b => Text.Glyph.char (Char.ofNat b.toNat)) = Text.glyphs
      ['[','"','1','"',',','"','j','s','o','n','"',']'] := by
  decide

theorem listedRead (rest : List Text.Glyph) :
    Submission.readFront (Text.glyphs ['[','"','1','"',',','"','j','s','o','n','"',']'] ++ rest) =
      .ok (listedSubmission,rest) := by
  rfl

theorem listedDecoded (blanks : Nat) :
    Submission.read (listed ++ List.replicate blanks 0x20) = .ok listedSubmission := by
  have ascii : ∀ b ∈ listed ++ List.replicate blanks 0x20, b.toNat < 0x80 := by
    intro b member
    rcases List.mem_append.mp member with front | blank
    · exact (by decide +kernel : ∀ b ∈ listed, b.toNat < 0x80) b front
    · rw [List.eq_of_mem_replicate blank]
      decide
  rw [Submission.read,asciiDecoded ascii,List.map_append,listedGlyphs,StateT.run',listedRead]
  rfl

theorem listedAnswered :
    (padded 0).Submits listedSubmission ∧
      ((respond secluded ⟨"",0⟩ (padded 0)).run { world := () }).1.status = 200 := by
  have submits : (padded 0).Submits listedSubmission :=
    { posted := rfl
      routed := by decide +kernel
      typed := by decide +kernel
      bounded := by decide
      decoded := listedDecoded 0
      named := by decide +kernel
      fitting := by decide +kernel }
  obtain ⟨-,-,answered⟩ := submissionsAnsweredElseKept secluded { world := () } [] ⟨"",0⟩ (padded 0)
  exact ⟨submits,(answered listedSubmission submits).1⟩

theorem paddedRefused {blanks : Nat} (long : bodyLimit ≤ blanks) :
    submissionOf (padded blanks) =
      .error (.ofText 413 "Failed to buffer the request body: length limit exceeded") := by
  have typed : hasJsonType [("content-type","application/json")] = true := by decide +kernel
  have size : (listed ++ List.replicate blanks 0x20).length = listed.length + blanks := by
    rw [List.length_append,List.length_replicate]
  have above : bodyLimit < (listed ++ List.replicate blanks 0x20).length := by
    rw [size]
    exact Nat.lt_of_le_of_lt long (Nat.lt_add_of_pos_left (by decide))
  unfold submissionOf padded
  simp only [typed,above,if_true]
  rfl

/- Neither of the two is answered with a report, although the body of each is a submission that can be run. -/
theorem decodedYetRefused :
    untyped.Posts ∧ Submission.read untyped.body = .ok listedSubmission ∧
    (padded bodyLimit).Posts ∧ Submission.read (padded bodyLimit).body = .ok listedSubmission ∧
    Text.isBlankString listedSubmission.language = false ∧
    listedSubmission.source.utf8ByteSize ≤ Submission.sourceLimit ∧
    ((respond secluded ⟨"",0⟩ untyped).run { world := () }).1.status = 415 ∧
    ((respond secluded ⟨"",0⟩ (padded bodyLimit)).run { world := () }).1.status = 413 := by
  have untypedPosts : untyped.Posts := ⟨rfl,by decide +kernel⟩
  have paddedPosts : (padded bodyLimit).Posts := ⟨rfl,untypedPosts.routed⟩
  have untypedRefused : submissionOf untyped =
      .error (.ofText 415 "Expected request with `Content-Type: application/json`") := rfl
  refine ⟨untypedPosts,listedDecoded 0,paddedPosts,listedDecoded bodyLimit,by decide +kernel,
    by decide +kernel,?_,?_⟩
  · rw [postRuns secluded _ untypedPosts,runResponse,untypedRefused]
    rfl
  · rw [postRuns secluded _ paddedPosts,runResponse,paddedRefused (Nat.le_refl _)]
    rfl

end Playground.Server
