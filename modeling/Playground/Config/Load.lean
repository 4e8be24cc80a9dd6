import Playground.Config.Section
import Playground.Toml.Document
import Playground.Url
import Playground.Net.SocketAddress
import Playground.Files

/-! Loading of settings from a text or a file. Settings that are read have to hold addresses in the
places of addresses; of several bad ones the first is named. -/
namespace Playground.Config

inductive Fault where
  | file (path : String) (cause : FileFault)
  | malformed
  | invalid (field reason : String)
  deriving DecidableEq, Repr

def Fault.message : Fault → String
  | .file path cause => s!"Failed to read config file '{path}': {cause.message}"
  | .malformed => "Failed to parse config file: "
  | .invalid field reason => s!"Invalid value for '{field}': {reason}"

def checkWebAddress (field address : String) : Except Fault Unit :=
  match Url.parse address with
  | .error flaw => .error (.invalid field flaw.message)
  | .ok url =>
    if url.scheme == "http" || url.scheme == "https" then .ok ()
    else .error (.invalid field s!"unsupported scheme '{url.scheme}'")

def checkBindAddress (address : String) : Except Fault Unit :=
  if (Net.SocketAddress.parse? address).isSome then .ok ()
  else .error (.invalid "server.bind_addr" s!"'{address}' is not a socket address")

/- The address of the bundle counts only where no local bundle is set. -/
def validate (config : Config) : Except Fault Unit := do
  let interpreter := config.components.interpreter
  if interpreter.bundlePath.isNone then
    checkWebAddress "workbench.runtime.bundle_url" interpreter.bundleUrl
  checkWebAddress "workbench.remote.endpoint" config.components.remote.endpoint
  checkBindAddress config.server.bindAddr

def decode? (text : String) : Option Config := do
  let entries ← Toml.parse? text
  ofToml? (.table entries)

def ofText (text : String) : Except Fault Config :=
  match decode? text with
  | none => .error .malformed
  | some config => do
    validate config
    return config

def ofFile (files : Files) (path : String) : Except Fault Config :=
  match files.readText path with
  | .error cause => .error (.file path cause)
  | .ok text => ofText text

end Playground.Config
