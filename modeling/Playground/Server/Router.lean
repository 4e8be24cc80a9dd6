import Playground.Engine.Session
import Playground.Language.Starter
import Playground.Server.MediaType
import Playground.Server.Message
import Playground.Server.Submission
import Playground.Url.Host

/-! The server: which request does what, and what it is answered. Runs are answered with their
reports, whatever these say; only requests that are no submissions are refused. -/
namespace Playground.Server

inductive Route where
  | run
  | languages
  | starter (segment : List Char)
  | preview
  | preload
  | health
  | ready
  deriving DecidableEq, Repr

namespace Route

def ofPath? (path : List Char) : Option Route :=
  match (path.splitOn '/').map String.ofList with
  | ["","run"] => some .run
  | ["","languages"] => some .languages
  | ["","languages",segment,"template"] => some (.starter segment.toList)
  | ["","preview"] => some .preview
  | ["","runtime","preload"] => some .preload
  | ["","health"] => some .health
  | ["","ready"] => some .ready
  | _ => none

def isPosted : Route → Bool
  | .run | .preload => true
  | _ => false

def allowed (route : Route) : String := if route.isPosted then "POST" else "GET,HEAD"

end Route

structure Stamp where
  requestId : String
  durationMs : Nat
  deriving DecidableEq, Repr

variable {W H : Type}

/-! ## Answers -/

def answerFields (stamp : Stamp) (report : Report) : List (String × Json) :=
  ("request_id",.string stamp.requestId) ::
    report.fields ++ [("rendered",.string report.render),("duration_ms",.ofNat stamp.durationMs)]

def runAnswer (stamp : Stamp) (report : Report) : Json := .object (answerFields stamp report)

def languageInfo (language : Language) : Json :=
  .mkObject [("id",.string language.id),("name",.string language.displayName),
    ("extension",.string language.extension),
    ("strategy",.string (Strategy.ofLanguage language).name)]

def languagesAnswer : Json :=
  .mkObject [("count",.ofNat Language.all.length),("languages",.array (Language.all.map languageInfo))]

def starterResponse (segment : List Char) : Response :=
  match Text.decode? (Url.percentDecode segment) with
  | none => .ofText 400 "Invalid URL: Invalid UTF-8 in `id`"
  | some name =>
    match Language.parse? name with
    | none => .ofComplaint 404 (Language.unknownMessage name)
    | some language => .ofJson 200 (.mkObject
        [("language",.string language.id),("template",.string language.starter)])

def previewResponse (preview : Preview) : Response :=
  match preview.render with
  | some document => .ofDocument document
  | none => .ofComplaint 404 "No document has been opened"

def readyAnswer (c : Engine.Collaborators W H) (session : Engine.Session W H) : Json :=
  .mkObject [("status",.string "ready"),("runtime",.string session.lifecycle.phase.name),
    ("remote_enabled",.bool c.remote.isSome)]

/-! ## Runs -/

def bodyLimit : Nat := 2 * 1024 * 1024

def hasJsonType (headers : Headers) : Bool :=
  match headers.get? Response.contentType with
  | none => false
  | some value => (MediaType.parse? value).any MediaType.isJson

def refusalResponse (body : List UInt8) (refusal : Submission.Refusal) : Response :=
  let reason := refusal.describe (Text.decode body)
  if refusal.isMalformed then .ofText 400 ("Failed to parse the request body as JSON: " ++ reason)
  else .ofText 422 ("Failed to deserialize the JSON body into the target type: " ++ reason)

def submissionOf (request : Request) : Except Response Submission :=
  if !hasJsonType request.headers then
    .error (.ofText 415 "Expected request with `Content-Type: application/json`")
  else if bodyLimit < request.body.length then
    .error (.ofText 413 "Failed to buffer the request body: length limit exceeded")
  else match Submission.read request.body with
    | .error refusal => .error (refusalResponse request.body refusal)
    | .ok submission =>
      match submission.objection? with
      | some objection => .error (.ofComplaint 400 objection)
      | none => .ok submission

def runSubmission (c : Engine.Collaborators W H) (stamp : Stamp) (submission : Submission) :
    Engine.Run W H Response := do
  let report ← Engine.run c submission.source submission.language submission.stdin
  return .ofJson 200 (runAnswer stamp report)

def runResponse (c : Engine.Collaborators W H) (stamp : Stamp) (request : Request) :
    Engine.Run W H Response :=
  match submissionOf request with
  | .error response => return response
  | .ok submission => runSubmission c stamp submission

/-! ## Requests -/

def preloadResponse : Engine.Run W H Response := do
  let phase ← Engine.preload .python
  return .ofJson 202 (.mkObject [("runtime",(phase.map Json.string).getD .null)])

def routeResponse (c : Engine.Collaborators W H) (stamp : Stamp) (request : Request) :
    Route → Engine.Run W H Response
  | .run => runResponse c stamp request
  | .languages => return .ofJson 200 languagesAnswer
  | .starter segment => return starterResponse segment
  | .preview => return previewResponse (← get).preview
  | .preload => preloadResponse
  | .health => return .ofText 200 "OK"
  | .ready => return .ofJson 200 (readyAnswer c (← get))

def allowHeader (route : Route) : Headers := [("allow",route.allowed)]

def respondAt (c : Engine.Collaborators W H) (stamp : Stamp) (request : Request) (route : Route) :
    Engine.Run W H Response :=
  let wanted := if route.isPosted then ["POST"] else ["GET","HEAD"]
  if wanted.contains request.method then do
    let response ← routeResponse c stamp request route
    return if request.method == "HEAD" then response.headOnly else response
  else return { status := 405, headers := allowHeader route }

def sharingHeaders : Headers :=
  [("access-control-allow-origin","*"),
    ("vary","origin, access-control-request-method, access-control-request-headers")]

def preflightHeaders : Headers :=
  [("access-control-allow-methods","*"),("access-control-allow-headers","*")]

def preflightResponse (route : Option Route) : Response :=
  { status := 200, headers := preflightHeaders ++ (route.map allowHeader).getD [] }

def answer (c : Engine.Collaborators W H) (stamp : Stamp) (request : Request) :
    Engine.Run W H Response :=
  let route := Route.ofPath? request.path
  if request.method == "OPTIONS" then return preflightResponse route
  else match route with
    | some route => respondAt c stamp request route
    | none => return { status := 404 }

def respond (c : Engine.Collaborators W H) (stamp : Stamp) (request : Request) :
    Engine.Run W H Response := do
  return (← answer c stamp request).withHeaders sharingHeaders

end Playground.Server
