import Playground.Config
import Playground.Json.Value

/-! Settings as a JSON document, under the names that they are read from. -/
namespace Playground.Config

def optional : Option String → Json
  | some text => .string text
  | none => .null

def Engine.document (engine : Engine) : Json := .mkObject [
  ("pooling_allocator",.bool engine.poolingAllocator),
  ("max_instances",.ofNat engine.maxInstances),
  ("instance_memory_mb",.ofNat engine.instanceMemoryMb),
  ("cache_compiled_modules",.bool engine.cacheCompiledModules),
  ("cache_dir",optional engine.cacheDir),
  ("fuel_metering",.bool engine.fuelMetering)]

def Execution.document (execution : Execution) : Json := .mkObject [
  ("max_fuel",.ofNat execution.maxFuel),
  ("max_output_kb",.ofNat execution.maxOutputKb),
  ("solicit_input",.bool execution.solicitInput)]

def Interpreter.document (interpreter : Interpreter) : Json := .mkObject [
  ("bundle_url",.string interpreter.bundleUrl),
  ("bundle_path",optional interpreter.bundlePath),
  ("stdlib_dir",optional interpreter.stdlibDir),
  ("stdlib_guest_path",.string interpreter.stdlibGuestPath),
  ("preload_on_start",.bool interpreter.preloadOnStart),
  ("fetch_timeout_secs",.ofNat interpreter.fetchTimeoutSecs)]

def Target.document (target : Target) : Json := .mkObject [
  ("language",.string target.language),
  ("version_tag",.string target.versionTag),
  ("version_index",.string target.versionIndex)]

def Remote.document (remote : Remote) : Json := .mkObject [
  ("endpoint",.string remote.endpoint),
  ("client_id",optional remote.clientId),
  ("client_secret",optional remote.clientSecret),
  ("timeout_secs",.ofNat remote.timeoutSecs),
  ("connect_timeout_secs",.ofNat remote.connectTimeoutSecs),
  ("targets",.mkObject (remote.targets.map fun (id,target) => (id,target.document)))]

def Server.document (server : Server) : Json := .mkObject [
  ("bind_addr",.string server.bindAddr),
  ("request_timeout_secs",.ofNat server.requestTimeoutSecs),
  ("graceful_shutdown",.bool server.gracefulShutdown)]

def Components.document (components : Components) : Json := .mkObject [
  ("engine",components.engine.document),
  ("execution",components.execution.document),
  ("runtime",components.interpreter.document),
  ("remote",components.remote.document)]

def document (config : Config) : Json := .mkObject [
  ("workbench",config.components.document),
  ("server",config.server.document)]

end Playground.Config
