import Playground.Digest
import Playground.Fault
import Playground.Files
import Playground.Net.Exchange

/-! Where the bytes of the embedded interpreter come from: a local file, or an address, whose first
download is kept in a cache directory. -/
namespace Playground.Interpreter

structure Download where
  address : String
  url : Url
  cacheDir : Option String := none
  deriving DecidableEq, Repr

namespace Download

def ofAddress (address : String) (cacheDir : Option String) : Except Fault Download :=
  match Url.parse address with
  | .error flaw => .error (.invalidConfig s!"bundle url '{address}': {flaw.message}")
  | .ok url => .ok { address,url,cacheDir }

def cacheName (d : Download) : String := "bundle-" ++ Digest.ofText d.address ++ ".wasm"

def cachePath? (d : Download) : Option String :=
  d.cacheDir.map fun directory => Files.join directory d.cacheName

def cached? (d : Download) (files : Files) : Option (List UInt8) := do
  let path ← d.cachePath?
  let bytes ← (files.read path).toOption
  if bytes.isEmpty then none else some bytes

def keep (d : Download) (bytes : List UInt8) (files : Files) : Files :=
  match d.cacheDir with
  | none => files
  | some directory => (files.replace directory d.cacheName bytes).2

def request (d : Download) : Net.Request := { method := .get, url := d.url }

def read (d : Download) : Except Net.Breakdown Net.Answer → Except LoadFault (List UInt8)
  | .error breakdown => .error (.fetch d.address breakdown.reason)
  | .ok answer =>
    if !answer.isSuccess then .error (.status d.address answer.status)
    else match answer.content with
      | .ok bytes => .ok bytes
      | .error breakdown => .error (.fetch d.address breakdown.reason)

def fetchBy (d : Download) (client : Net.Carrier W) :
    StateT Files (StateM W) (Except LoadFault (List UInt8)) := do
  match d.cached? (← get) with
  | some bytes => return .ok bytes
  | none =>
    match d.read (← client d.request) with
    | .error fault => return .error fault
    | .ok bytes =>
      modify (d.keep bytes)
      return .ok bytes

def fetch (d : Download) (carrier : Net.Carrier W) :
    StateT Files (StateM W) (Except LoadFault (List UInt8)) := d.fetchBy (Net.send carrier)

end Download

inductive Bundle where
  | file (path : String)
  | download (download : Download)
  deriving DecidableEq, Repr

namespace Bundle

def ofSettings (path : Option String) (address : String) (cacheDir : Option String) :
    Except Fault Bundle :=
  match path with
  | some path => .ok (.file path)
  | none => (Download.ofAddress address cacheDir).map .download

def fetch (carrier : Net.Carrier W) : Bundle →
    StateT Files (StateM W) (Except LoadFault (List UInt8))
  | .download d => d.fetch carrier
  | .file path => do
    match (← get).read path with
    | .ok bytes => return .ok bytes
    | .error cause => return .error (.read path cause.message)

end Bundle
end Playground.Interpreter
