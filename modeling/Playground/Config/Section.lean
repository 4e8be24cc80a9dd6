import Playground.Toml.Value
import Playground.Config

/-! Settings read from the values of a configuration text. A section names its settings in a fixed
order: a table gives them by name, an array gives them by position, and a setting that is not given
falls back. -/
namespace Playground.Config

structure Given where
  lookup : String → Option Toml

namespace Given

/- A date counts as a table that gives none of the settings. -/
def ofToml? (names : List String) : Toml → Option Given
  | .table entries => some ⟨fun name => entries.lookup name⟩
  | .array items => some ⟨fun name => (names.zip items).lookup name⟩
  | .datetime => some ⟨fun _ => none⟩
  | _ => none

def setting (given : Given) (name : String) (read : Toml → Option α) (fallback : α) : Option α :=
  match given.lookup name with
  | some value => read value
  | none => some fallback

def required (given : Given) (name : String) (read : Toml → Option α) : Option α :=
  (given.lookup name).bind read

def ofSection? (names : List String) (read : Given → Option α) (value : Toml) : Option α :=
  (ofToml? names value).bind read

end Given

def text? : Toml → Option String
  | .string value => some value
  | _ => none

def flag? : Toml → Option Bool
  | .bool value => some value
  | _ => none

def count? (bits : Nat) : Toml → Option Nat
  | .int (.ofNat n) => if n < Nat.pow 2 bits then some n else none
  | _ => none

def someText? (value : Toml) : Option (Option String) := (text? value).map some

def Engine.names : List String :=
  ["pooling_allocator","max_instances","instance_memory_mb","cache_compiled_modules","cache_dir",
    "fuel_metering"]

def Engine.ofGiven? (given : Given) : Option Engine := do
  let default : Engine := {}
  return {
    poolingAllocator := ← given.setting "pooling_allocator" flag? default.poolingAllocator
    maxInstances := ← given.setting "max_instances" (count? 32) default.maxInstances
    instanceMemoryMb := ← given.setting "instance_memory_mb" (count? 32) default.instanceMemoryMb
    cacheCompiledModules :=
      ← given.setting "cache_compiled_modules" flag? default.cacheCompiledModules
    -- A section that is given names its cache directory or has none.
    cacheDir := ← given.setting "cache_dir" someText? none
    fuelMetering := ← given.setting "fuel_metering" flag? default.fuelMetering }

def Engine.ofToml? : Toml → Option Engine := Given.ofSection? Engine.names Engine.ofGiven?

def Execution.names : List String := ["max_fuel","max_output_kb","solicit_input"]

def Execution.ofGiven? (given : Given) : Option Execution := do
  let default : Execution := {}
  return {
    maxFuel := ← given.setting "max_fuel" (count? 64) default.maxFuel
    maxOutputKb := ← given.setting "max_output_kb" (count? 64) default.maxOutputKb
    solicitInput := ← given.setting "solicit_input" flag? default.solicitInput }

def Execution.ofToml? : Toml → Option Execution := Given.ofSection? Execution.names Execution.ofGiven?

def Interpreter.names : List String :=
  ["bundle_url","bundle_path","stdlib_dir","stdlib_guest_path","preload_on_start",
    "fetch_timeout_secs"]

def Interpreter.ofGiven? (given : Given) : Option Interpreter := do
  let default : Interpreter := {}
  return {
    bundleUrl := ← given.setting "bundle_url" text? default.bundleUrl
    bundlePath := ← given.setting "bundle_path" someText? default.bundlePath
    stdlibDir := ← given.setting "stdlib_dir" someText? default.stdlibDir
    stdlibGuestPath := ← given.setting "stdlib_guest_path" text? default.stdlibGuestPath
    preloadOnStart := ← given.setting "preload_on_start" flag? default.preloadOnStart
    fetchTimeoutSecs := ← given.setting "fetch_timeout_secs" (count? 64) default.fetchTimeoutSecs }

def Interpreter.ofToml? : Toml → Option Interpreter := Given.ofSection? Interpreter.names Interpreter.ofGiven?

def Target.names : List String := ["language","version_tag","version_index"]

def Target.ofGiven? (given : Given) : Option Target := do
  return {
    language := ← given.required "language" text?
    versionTag := ← given.setting "version_tag" text? ""
    versionIndex := ← given.setting "version_index" text? "0" }

def Target.ofToml? : Toml → Option Target := Given.ofSection? Target.names Target.ofGiven?

namespace Targets

def insert (id : String) (target : Target) : Targets → Targets
  | [] => [(id,target)]
  | (known,other) :: rest =>
    if id < known then (id,target) :: (known,other) :: rest
    else if id = known then (id,target) :: rest
    else (known,other) :: insert id target rest

def ofEntries? : List (String × Toml) → Option Targets
  | [] => some []
  | (id,value) :: rest => do
    let target ← Target.ofToml? value
    return insert id target (← ofEntries? rest)

def ofToml? : Toml → Option Targets
  | .table entries => ofEntries? entries
  | _ => none

end Targets

def Remote.names : List String :=
  ["endpoint","client_id","client_secret","timeout_secs","connect_timeout_secs","targets"]

def Remote.ofGiven? (given : Given) : Option Remote := do
  let default : Remote := {}
  return {
    endpoint := ← given.setting "endpoint" text? default.endpoint
    clientId := ← given.setting "client_id" someText? default.clientId
    clientSecret := ← given.setting "client_secret" someText? default.clientSecret
    timeoutSecs := ← given.setting "timeout_secs" (count? 64) default.timeoutSecs
    connectTimeoutSecs := ← given.setting "connect_timeout_secs" (count? 64) default.connectTimeoutSecs
    targets := ← given.setting "targets" Targets.ofToml? default.targets }

def Remote.ofToml? : Toml → Option Remote := Given.ofSection? Remote.names Remote.ofGiven?

def Server.names : List String := ["bind_addr","request_timeout_secs","graceful_shutdown"]

def Server.ofGiven? (given : Given) : Option Server := do
  let default : Server := {}
  return {
    bindAddr := ← given.setting "bind_addr" text? default.bindAddr
    requestTimeoutSecs :=
      ← given.setting "request_timeout_secs" (count? 64) default.requestTimeoutSecs
    gracefulShutdown := ← given.setting "graceful_shutdown" flag? default.gracefulShutdown }

def Server.ofToml? : Toml → Option Server := Given.ofSection? Server.names Server.ofGiven?

def Components.names : List String := ["engine","execution","runtime","remote"]

def Components.ofGiven? (given : Given) : Option Config.Components := do
  return {
    engine := ← given.setting "engine" Engine.ofToml? {}
    execution := ← given.setting "execution" Execution.ofToml? {}
    interpreter := ← given.setting "runtime" Interpreter.ofToml? {}
    remote := ← given.setting "remote" Remote.ofToml? {} }

def Components.ofToml? : Toml → Option Config.Components := Given.ofSection? Components.names Components.ofGiven?

def names : List String := ["workbench","server"]

def ofGiven? (given : Given) : Option Config := do
  return {
    components := ← given.setting "workbench" Components.ofToml? {}
    server := ← given.setting "server" Server.ofToml? {} }

def ofToml? : Toml → Option Config := Given.ofSection? names ofGiven?

end Playground.Config
