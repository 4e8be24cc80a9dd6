import Playground.Engine.Session
import Playground.Interpreter.Loader
import Playground.Remote.Client
import Playground.Script.Host

/-! Engines put together from settings. Scripts are evaluated by a host, the embedded interpreter is
loaded from the bundle of the settings, and a remote service is there where its credentials are. -/
namespace Playground.Engine
open Playground.Interpreter (Compiled Loader Modules)

structure Workplace (W : Type) where
  files : Files
  scripts : Script.Host := {}
  requestCount : Nat := 0
  outside : W

structure Equipment (W : Type) (M : Type := Wasm.Module) where
  carrier : Net.Carrier W
  readScript : String → List Script.Statement
  translate : Interpreter.Translate M
  requestInput : Option (Language → StateM W (Option String)) := none

namespace Workplace

def ofOutside (act : StateM W α) : StateM (Workplace W) α := fun place =>
  let (result,outside) := act.run place.outside
  (result,{ place with outside })

def ofFiles (act : StateT Files (StateM W) α) : StateM (Workplace W) α := fun place =>
  let ((result,files),outside) := (act.run place.files).run place.outside
  (result,{ place with files,outside })

def ofRequests (act : StateT Nat (StateM W) α) : StateM (Workplace W) α := fun place =>
  let ((result,requestCount),outside) := (act.run place.requestCount).run place.outside
  (result,{ place with requestCount,outside })

def ofScripts (act : StateT Script.Host (StateM (Workplace W)) α) : StateM (Workplace W) α := fun place =>
  let ((result,scripts),place) := (act.run place.scripts).run place
  (result,{ place with scripts })

end Workplace

open Workplace

def evaluateSource (equipment : Equipment W M) (source : String) (stdin : Option String)
    (prompt : Option (StateM (Workplace W) (Option String))) :
    StateM (Workplace W) (Except Fault ScriptOutcome) := do
  let evaluated ← ofScripts (Script.evaluateScript prompt (equipment.readScript source) stdin)
  return evaluated.outcome

def loadInterpreter [Modules M] (loader : Loader M) (carrier : Net.Carrier W) :
    StateM (Workplace W) (Interpreter.Outcome (Compiled M)) := do
  match ← ofFiles (loader.load carrier) with
  | .ok compiled => return .loaded compiled
  | .error fault => return .failed fault

def remoteOf (client : Remote.Client) (carrier : Net.Carrier W) : RemoteExecutor (Workplace W) where
  supports := client.supports
  run := fun submission => ofRequests (client.run carrier submission)

def assemble [Modules M] (equipment : Equipment W M) (config : Config.Components) :
    Except Fault (Collaborators (Workplace W) (Compiled M)) := do
  let machine ← Interpreter.Machine.ofConfig config.engine
  let bundle ← Interpreter.Bundle.ofSettings config.interpreter.bundlePath
    config.interpreter.bundleUrl config.engine.cachePath
  let client ← Remote.Client.ofConfig config.remote
  let loader : Loader M :=
    { machine, translate := equipment.translate, bundle, cacheDir := config.engine.cachePath }
  let settings := Interpreter.Settings.python config
  let carrier := Net.following equipment.carrier
  return {
    evaluate := evaluateSource equipment
    load := loadInterpreter loader carrier
    runGuest := fun compiled source stdin place =>
      (machine.run place.files compiled.module settings source stdin,place)
    remote := client.map fun client => remoteOf client carrier
    requestInput := equipment.requestInput.map fun ask language => ofOutside (ask language)
    solicitInput := config.execution.solicitInput }

def openSession (config : Config.Components) (place : Workplace W) :
    Session (Workplace W) (Compiled M) where
  lifecycle := if config.interpreter.preloadOnStart then ({} : Interpreter.Lifecycle (Compiled M)).preload
    else {}
  world := place

end Playground.Engine
