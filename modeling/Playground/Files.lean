import Playground.Text.Utf8

/-! A tree of files. Every entry stands at an absolute place; relative paths start at the current
directory. Reading follows a path part by part, and whatever it passes has to be a directory. -/
namespace Playground

inductive FileFault where
  | notFound
  | notDirectory
  | isDirectory
  | occupied
  | nameTooLong
  | nulInName
  | invalidText
  deriving DecidableEq, Repr

def FileFault.message : FileFault → String
  | .notFound => "No such file or directory (os error 2)"
  | .occupied => "File exists (os error 17)"
  | .notDirectory => "Not a directory (os error 20)"
  | .isDirectory => "Is a directory (os error 21)"
  | .nameTooLong => "File name too long (os error 36)"
  | .nulInName => "file name contained an unexpected NUL byte"
  | .invalidText => "stream did not contain valid UTF-8"

namespace Files

inductive Node where
  | file (bytes : List UInt8)
  | directory
  deriving DecidableEq, Repr

abbrev Place := List String

end Files

structure Files where
  entries : List (Files.Place × Files.Node) := []
  current : Files.Place := []

namespace Files

def node? (files : Files) (place : Place) : Option Node :=
  if place = [] then some .directory else files.entries.lookup place

def put (files : Files) (place : Place) (node : Node) : Files :=
  { files with entries := (place,node) :: files.entries.filter (·.1 != place) }

def remove (files : Files) (place : Place) : Files :=
  { files with entries := files.entries.filter (·.1 != place) }

def nameLimit : Nat := 255

def step (place : Place) (name : String) : Except FileFault Place :=
  if name == "" || name == "." then .ok place
  else if name == ".." then .ok place.dropLast
  else if nameLimit < name.utf8ByteSize then .error .nameTooLong
  else .ok (place ++ [name])

def walk (files : Files) (place : Place) : List String → Except FileFault Place
  | [] => .ok place
  | name :: names =>
    match files.node? place with
    | none => .error .notFound
    | some (.file _) => .error .notDirectory
    | some .directory => do
      let next ← step place name
      walk files next names

def start (files : Files) (path : String) : Place :=
  if path.toList.head? = some '/' then [] else files.current

def placeOf (files : Files) (path : String) : Except FileFault Place :=
  if path.isEmpty then .error .notFound
  else if path.toList.contains '\x00' then .error .nulInName
  else walk files (files.start path) ((path.toList.splitOn '/').map String.ofList)

def read (files : Files) (path : String) : Except FileFault (List UInt8) := do
  let place ← files.placeOf path
  match files.node? place with
  | none => .error .notFound
  | some .directory => .error .isDirectory
  | some (.file bytes) => .ok bytes

def readText (files : Files) (path : String) : Except FileFault String := do
  let bytes ← files.read path
  match Text.decode? bytes with
  | some text => .ok text
  | none => .error .invalidText

def openDirectory (files : Files) (path : String) : Except FileFault Place := do
  let place ← files.placeOf path
  match files.node? place with
  | none => .error .notFound
  | some (.file _) => .error .notDirectory
  | some .directory => .ok place

def ensureDirectory (files : Files) (place : Place) (otherwise : FileFault) : Except FileFault Files :=
  match files.node? place with
  | none => .ok (files.put place .directory)
  | some .directory => .ok files
  | some (.file _) => .error otherwise

def makeAlong (files : Files) (place : Place) : List String → Except FileFault Unit × Files
  | [] =>
    match files.ensureDirectory place .occupied with
    | .error fault => (.error fault,files)
    | .ok files => (.ok (),files)
  | name :: names =>
    match files.ensureDirectory place .notDirectory with
    | .error fault => (.error fault,files)
    | .ok files =>
      match step place name with
      | .error fault => (.error fault,files)
      | .ok next => makeAlong files next names

def createDirectories (files : Files) (path : String) : Except FileFault Unit × Files :=
  if path.isEmpty then (.ok (),files)
  else if path.toList.contains '\x00' then (.error .nulInName,files)
  else makeAlong files (files.start path) ((path.toList.splitOn '/').map String.ofList)

def write (files : Files) (path : String) (bytes : List UInt8) : Except FileFault Files := do
  let place ← files.placeOf path
  match files.node? place with
  | some .directory => .error .isDirectory
  | _ =>
    if files.node? place.dropLast = some .directory then .ok (files.put place (.file bytes))
    else .error .notFound

def rename (files : Files) (source target : String) : Except FileFault Files := do
  let source ← files.placeOf source
  let target ← files.placeOf target
  match files.node? source,files.node? target with
  | none,_ => .error .notFound
  | some _,some .directory => .error .isDirectory
  | some node,_ => .ok ((files.remove source).put target node)

def join (directory name : String) : String :=
  if directory.isEmpty then name
  else if directory.endsWith '/' then directory ++ name
  else directory ++ "/" ++ name

/- Writes next to the target and renames, so that no reader finds half a file. What was done before a step
failed stays. -/
def replace (files : Files) (directory name : String) (bytes : List UInt8) :
    Except FileFault Unit × Files :=
  let target := join directory name
  match files.createDirectories directory with
  | (.error fault,files) => (.error fault,files)
  | (.ok (),files) =>
    match files.write (target ++ ".partial") bytes with
    | .error fault => (.error fault,files)
    | .ok written =>
      match written.rename (target ++ ".partial") target with
      | .error fault => (.error fault,written)
      | .ok renamed => (.ok (),renamed)

def parent (path : String) : String :=
  String.ofList ((path.toList.reverse.dropWhile (· != '/')).reverse)

def install (files : Files) (path : String) : Node → Files
  | .directory => (files.createDirectories path).2
  | .file bytes =>
    let made := (files.createDirectories (parent path)).2
    (made.write path bytes).toOption.getD made

def fileNames (files : Files) (place : Place) : List String :=
  files.entries.filterMap fun (p,node) =>
    match node with
    | .file _ => if p.dropLast = place then p.getLast? else none
    | .directory => none

end Files
end Playground
