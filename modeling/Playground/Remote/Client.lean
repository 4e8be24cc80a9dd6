import Playground.Config
import Playground.Engine.Session
import Playground.Remote.Answer
import Playground.Text.Utf8

/-! The client of the remote service. Every submission in a language with a target is one request;
the client counts the requests that it attempts. -/
namespace Playground.Remote

structure Client where
  endpoint : String
  url : Url
  clientId : String
  clientSecret : String
  targets : Config.Targets
  deriving DecidableEq, Repr

namespace Client

def ofConfig (config : Config.Remote) : Except Fault (Option Client) :=
  if !config.isConfigured then .ok none
  else match config.clientId,config.clientSecret with
    | some id,some secret =>
      match Url.parse config.endpoint with
      | .error flaw =>
        .error (.invalidConfig s!"remote endpoint '{config.endpoint}': {flaw.message}")
      | .ok url => .ok (some {
          endpoint := config.endpoint
          url
          clientId := Text.trimmed id
          clientSecret := Text.trimmed secret
          targets := config.targets })
    | _,_ => .ok none

def target? (client : Client) (language : Language) : Option Config.Target :=
  client.targets.lookup language.id

def supports (client : Client) (language : Language) : Bool := (client.target? language).isSome

def body (client : Client) (target : Config.Target) (submission : Engine.Submission) : Json :=
  let stdin := submission.stdin.map fun text => ("stdin",Json.string text)
  .object ([("clientId",.string client.clientId),("clientSecret",.string client.clientSecret),
    ("script",.string submission.source),("language",.string target.wireLanguage),
    ("versionIndex",.string target.versionIndex)] ++ stdin.toList)

def requestFor (client : Client) (target : Config.Target) (submission : Engine.Submission) :
    Net.Request where
  method := .post
  url := client.url
  body := (client.body target submission).compact

def unreachable (client : Client) (breakdown : Net.Breakdown) : RemoteFault :=
  .unreachable client.endpoint breakdown.reason

/- A rejection whose body did not arrive counts as one without a body. -/
def read (client : Client) : Except Net.Breakdown Net.Answer → Except RemoteFault Json.Members
  | .error breakdown => .error (client.unreachable breakdown)
  | .ok answer =>
    match answer.isSuccess,answer.content with
    | true,.ok bytes => membersOf (Text.decodeLossy bytes)
    | true,.error breakdown => .error (client.unreachable breakdown)
    | false,content =>
      let text := Text.decodeLossy (content.toOption.getD [])
      .error (.rejected answer.status (rejectionMessage answer.status text))

def reportOn : Except RemoteFault Json.Members → Report
  | .ok members => answerReport members
  | .error fault => faultReport fault

def run (client : Client) (carrier : Net.Carrier W) (submission : Engine.Submission) :
    StateT Nat (StateM W) Report := do
  match client.target? submission.language with
  | none => return reportOn (.error (.unsupportedLanguage submission.language.id))
  | some target => do
    modify (· + 1)
    return reportOn (client.read (← Net.send carrier (client.requestFor target submission)))

end Client
end Playground.Remote
