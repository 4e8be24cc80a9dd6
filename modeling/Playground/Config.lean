import Playground.Text.Basic

/-! Settings of a playground: the module engine, the limits of one run, the embedded interpreter,
the remote service and the server. Every setting has a default. -/
namespace Playground

namespace Config

structure Engine where
  poolingAllocator : Bool := false
  maxInstances : Nat := 16
  instanceMemoryMb : Nat := 256
  cacheCompiledModules : Bool := true
  cacheDir : Option String := some "./cache"
  fuelMetering : Bool := false
  deriving DecidableEq, Repr

def Engine.cachePath (engine : Engine) : Option String :=
  if engine.cacheCompiledModules then engine.cacheDir else none

structure Execution where
  maxFuel : Nat := 50000000000
  maxOutputKb : Nat := 1024
  solicitInput : Bool := true
  deriving DecidableEq, Repr

def byteCountLimit : Nat := 0x10000000000000000 - 1

def Execution.maxOutputBytes (execution : Execution) : Nat :=
  min (execution.maxOutputKb * 1024) byteCountLimit

def defaultBundleUrl : String :=
  "https://github.com/vmware-labs/webassembly-language-runtimes/releases/download/" ++
    "python%2F3.12.0%2B20231211-040d5a6/python-3.12.0.wasm"

/- Where the embedded interpreter comes from. A local bundle goes before the address. -/
structure Interpreter where
  bundleUrl : String := defaultBundleUrl
  bundlePath : Option String := none
  stdlibDir : Option String := none
  stdlibGuestPath : String := "/usr/local/lib"
  preloadOnStart : Bool := false
  fetchTimeoutSecs : Nat := 300
  deriving DecidableEq, Repr

structure Target where
  language : String
  versionTag : String := ""
  versionIndex : String := "0"
  deriving DecidableEq, Repr

def Target.wireLanguage (target : Target) : String := target.language ++ target.versionTag

abbrev Targets := List (String × Target)

def defaultTargets : Targets :=
  [("cpp",{ language := "cpp", versionTag := "17" }),
    ("java",{ language := "java", versionTag := "93" }),
    ("python",{ language := "python", versionTag := "3" })]

structure Remote where
  endpoint : String := "https://api.jdoodle.com/v1/execute"
  clientId : Option String := none
  clientSecret : Option String := none
  timeoutSecs : Nat := 30
  connectTimeoutSecs : Nat := 10
  targets : Targets := defaultTargets
  deriving DecidableEq, Repr

def isPresent (credential : Option String) : Bool :=
  credential.any fun text => !Text.isBlankString text

def Remote.isConfigured (remote : Remote) : Bool :=
  isPresent remote.clientId && isPresent remote.clientSecret

structure Server where
  bindAddr : String := "127.0.0.1:8080"
  requestTimeoutSecs : Nat := 600
  gracefulShutdown : Bool := true
  deriving DecidableEq, Repr

structure Components where
  engine : Engine := {}
  execution : Execution := {}
  interpreter : Interpreter := {}
  remote : Remote := {}
  deriving DecidableEq, Repr

end Config

structure Config where
  components : Config.Components := {}
  server : Config.Server := {}
  deriving DecidableEq, Repr

end Playground
