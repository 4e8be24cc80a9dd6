/-! Causes of failure. Each type of cause has one function that words it. Main distinctions: whether
the failure lies outside the user's program, and which class a report shows for it. -/
namespace Playground

inductive LoadFault where
  | fetch (url reason : String)
  | status (url : String) (code : Nat)
  | read (path reason : String)
  | cache (path reason : String)
  | invalid (reason : String)
  deriving DecidableEq, Repr

inductive RemoteFault where
  | unreachable (endpoint reason : String)
  | rejected (code : Nat) (message : String)
  | invalidResponse (reason : String)
  | unsupportedLanguage (language : String)
  deriving DecidableEq, Repr

inductive Fault where
  | compilationFailed (reason : String)
  | trap (message : String)
  | fuelExhausted
  | runtimeLoad (cause : LoadFault)
  | remote (cause : RemoteFault)
  | scriptHostUnavailable (reason : String)
  | surface (reason : String)
  | file (reason : String)
  | invalidConfig (reason : String)
  deriving DecidableEq, Repr

inductive FaultClass where
  | infrastructure | resourceLimit | remoteService | guest
  deriving DecidableEq, Repr

def LoadFault.message : LoadFault → String
  | .fetch url reason => s!"failed to fetch runtime bundle from {url}: {reason}"
  | .status url code => s!"runtime bundle server returned HTTP {code} for {url}"
  | .read path reason => s!"cannot read runtime bundle '{path}': {reason}"
  | .cache path reason => s!"runtime bundle cache error at '{path}': {reason}"
  | .invalid reason => s!"runtime bundle is not a valid module: {reason}"

namespace RemoteFault

def message : RemoteFault → String
  | .unreachable endpoint reason => s!"cannot reach {endpoint}: {reason}"
  | .rejected code message => s!"HTTP {code}: {message}"
  | .invalidResponse reason => s!"unexpected response: {reason}"
  | .unsupportedLanguage language => s!"remote execution does not support {language}"

def isUnreachable : RemoteFault → Bool
  | .unreachable .. => true
  | _ => false

end RemoteFault

namespace Fault

def message : Fault → String
  | .compilationFailed reason => s!"Compilation failed: {reason}"
  | .trap message => s!"Wasm trap: {message}"
  | .fuelExhausted => "Fuel exhausted: CPU limit exceeded"
  | .runtimeLoad cause => s!"Runtime load failed: {cause.message}"
  | .remote cause => s!"Remote execution error: {cause.message}"
  | .scriptHostUnavailable reason => s!"Script host unavailable: {reason}"
  | .surface reason => s!"Preview surface error: {reason}"
  | .file reason => s!"IO error: {reason}"
  | .invalidConfig reason => s!"Invalid configuration: {reason}"

def isInfrastructure : Fault → Bool
  | .remote cause => cause.isUnreachable
  | .runtimeLoad _ | .scriptHostUnavailable _ | .file _ => true
  | _ => false

def isResourceLimit : Fault → Bool
  | .fuelExhausted => true
  | _ => false

def faultClass (fault : Fault) : FaultClass :=
  if fault.isResourceLimit then .resourceLimit
  else if fault.isInfrastructure then .infrastructure
  else match fault with
    | .remote _ => .remoteService
    | _ => .guest

end Fault

def FaultClass.name : FaultClass → String
  | .infrastructure => "infrastructure"
  | .resourceLimit => "resource_limit"
  | .remoteService => "remote_service"
  | .guest => "guest"

end Playground
