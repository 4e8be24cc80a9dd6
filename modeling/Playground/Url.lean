import Playground.Url.Host

/-! Addresses: reading the text of an absolute address into its parts and writing it out again in
its one normal form. -/
namespace Playground

inductive Url.Path where
  | segments (names : List String)
  | unstructured (text : String)
  deriving DecidableEq, Repr

structure Url where
  scheme : String
  username : String := ""
  password : String := ""
  host : Option Url.Host := none
  port : Option Nat := none
  path : Url.Path
  query : Option String := none
  fragment : Option String := none
  deriving DecidableEq, Repr

namespace Url

def defaultPort : String → Option Nat
  | "http" | "ws" => some 80
  | "https" | "wss" => some 443
  | "ftp" => some 21
  | _ => none

def isHostScheme (scheme : String) : Bool := (defaultPort scheme).isSome

def isFile (scheme : String) : Bool := scheme == "file"

def isSpecial (scheme : String) : Bool := isHostScheme scheme || isFile scheme

def isOuterBlank (c : Char) : Bool := c.toNat ≤ 32

def significant (text : List Char) : List Char :=
  (Text.dropEndWhile isOuterBlank (text.dropWhile isOuterBlank)).filter fun c =>
    c != '\t' && c != '\n' && c != '\x0d'

def isSchemeChar (c : Char) : Bool := c.isAlphanum || c == '+' || c == '-' || c == '.'

def readScheme (text : List Char) : Option (String × List Char) :=
  match text.head? with
  | some c =>
    if c.isAlpha then
      match text.dropWhile isSchemeChar with
      | ':' :: rest => some (String.ofList (Text.lowerAscii (text.takeWhile isSchemeChar)),rest)
      | _ => none
    else none
  | none => none

def isSlash (scheme : String) (c : Char) : Bool := c == '/' || isSpecial scheme && c == '\\'

def endsAuthority (scheme : String) (c : Char) : Bool := isSlash scheme c || c == '?' || c == '#'

def userinfoSet : List Char :=
  [' ','"','<','>','`','#','?','\x7b','\x7d','/',':',';','=','@','[','\\',']','^','|']

def pathSet : List Char := [' ','"','<','>','`','#','?','\x7b','\x7d']

def querySet (scheme : String) : List Char :=
  [' ','"','#','<','>'] ++ if isSpecial scheme then ['\''] else []

def fragmentSet : List Char := [' ','"','<','>','`']

def readUserinfo (scheme : String) (text : List Char) :
    Except Flaw (String × String × List Char) :=
  let authority := text.takeWhile (!endsAuthority scheme ·)
  match authority.reverse.span (· != '@') with
  | (_,[]) => .ok ("","",text)
  | (after,_ :: before) =>
    let userinfo := before.reverse
    let rest := text.drop (authority.length - after.length)
    if userinfo.isEmpty then
      if after.isEmpty && !rest.isEmpty then .error .emptyHost else .ok ("","",rest)
    else
      let name := userinfo.takeWhile (· != ':')
      let password := (userinfo.drop name.length).drop 1
      let encoded (t : List Char) : String := String.ofList (percentEncode userinfoSet t)
      .ok (encoded name,encoded password,rest)

def hostText (scheme : String) : (bracketed : Bool) → List Char → List Char
  | _,[] => []
  | bracketed,c :: rest =>
    if c == ':' && !bracketed || endsAuthority scheme c then []
    else c :: hostText scheme (if c == '[' then true else if c == ']' then false else bracketed) rest

/- Only schemes that know no domains leave the host empty, and then no port follows. -/
def readHost (scheme : String) (text : List Char) : Except Flaw (Host × List Char) := do
  let name := hostText scheme false text
  let rest := text.drop name.length
  if name.isEmpty && (isHostScheme scheme || rest.head? = some ':') then .error .emptyHost
  else
    let host ← if isHostScheme scheme then Host.ofText name else Host.ofOpaque name
    return (host,rest)

def readPort (scheme : String) (text : List Char) : Except Flaw (Option Nat × List Char) :=
  let digits := text.takeWhile Char.isDigit
  let rest := text.drop digits.length
  let value := digits.foldl (fun n c => n * 10 + (c.toNat - 48)) 0
  let ends := match rest.head? with
    | some c => c == '/' || c == '\\' || c == '?' || c == '#'
    | none => true
  if 65535 < value || !ends then .error .port
  else .ok (if digits.isEmpty || defaultPort scheme = some value then none else some value,rest)

def isSingleDot (t : List Char) : Bool :=
  t = ['.'] || Text.lowerAscii t = ['%','2','e']

def isDoubleDot (t : List Char) : Bool :=
  let t := Text.lowerAscii t
  t = ['.','.'] || t = ['.','%','2','e'] || t = ['%','2','e','.'] ||
    t = ['%','2','e','%','2','e']

/- Dots in the pieces of a path move within it; the last piece leaves a segment in any case. -/
def segmentsOf : (seen : List String) → List (List Char) → List String
  | seen,[] => seen.reverse
  | seen,piece :: rest =>
    let isLast := rest.isEmpty
    if isDoubleDot piece then
      let seen := seen.drop 1
      segmentsOf (if isLast then "" :: seen else seen) rest
    else if isSingleDot piece then segmentsOf (if isLast then "" :: seen else seen) rest
    else segmentsOf (String.ofList (percentEncode pathSet piece) :: seen) rest

def cutTail (text : List Char) : List Char × Option (List Char) × Option (List Char) :=
  let (front,fragment) := match Text.splitOnce ['#'] text with
    | some (front,fragment) => (front,some fragment)
    | none => (text,none)
  match Text.splitOnce ['?'] front with
  | some (path,query) => (path,some query,fragment)
  | none => (front,none,fragment)

def pathOf (scheme : String) (path : List Char) : Path :=
  match path with
  | [] => .segments (if isSpecial scheme then [""] else [])
  | c :: rest =>
    .segments (segmentsOf [] ((if isSlash scheme c then rest else c :: rest).splitOnP (isSlash scheme)))

def withTail (url : Url) (query fragment : Option (List Char)) : Url :=
  { url with
    query := query.map fun q => String.ofList (percentEncode (querySet url.scheme) q)
    fragment := fragment.map fun f => String.ofList (percentEncode fragmentSet f) }

def readAuthority (scheme : String) (text : List Char) : Except Flaw Url := do
  let (username,password,rest) ← readUserinfo scheme text
  let (host,rest) ← readHost scheme rest
  if host = .opaqueName "" && !(username.isEmpty && password.isEmpty) then .error .emptyHost
  else
    let (port,rest) ← match rest with
      | ':' :: rest => readPort scheme rest
      | rest => pure (none,rest)
    let (path,query,fragment) := cutTail rest
    return ({ scheme, username, password, host := some host, port, path := pathOf scheme path } : Url).withTail
      query fragment

def readFile (scheme : String) (text : List Char) : Except Flaw Url := do
  let (path,query,fragment) := cutTail text
  let (host,path) ← match path with
    | a :: b :: rest =>
      if isSlash scheme a && isSlash scheme b then
        let name := rest.takeWhile (!isSlash scheme ·)
        let host ← if name.isEmpty then pure none else do
          let host ← Host.ofText name
          pure (if host = .domain "localhost" then none else some host)
        pure (host,rest.drop name.length)
      else pure (none,path)
    | _ => pure (none,path)
  return ({ scheme, host, path := pathOf scheme path } : Url).withTail query fragment

def readOpaque (scheme : String) (text : List Char) : Url :=
  let (path,query,fragment) := cutTail text
  let path := match path with
    | '/' :: _ => pathOf scheme path
    | _ => .unstructured (String.ofList (percentEncode [] path))
  ({ scheme,path } : Url).withTail query fragment

def parse (text : String) : Except Flaw Url :=
  match readScheme (significant text.toList) with
  | none => .error .relativeWithoutBase
  | some (scheme,rest) =>
    if isHostScheme scheme then readAuthority scheme (rest.dropWhile (isSlash scheme))
    else if isFile scheme then readFile scheme rest
    else match rest with
      | '/' :: '/' :: rest => readAuthority scheme rest
      | rest => .ok (readOpaque scheme rest)

def Path.text : Path → String
  | .segments names => names.foldl (fun t name => t ++ "/" ++ name) ""
  | .unstructured text => text

def target (url : Url) : String :=
  url.path.text ++ match url.query with
    | some query => "?" ++ query
    | none => ""

def authorityText (url : Url) : String :=
  match url.host with
  | none => if isFile url.scheme then "//" else ""
  | some host =>
    let userinfo :=
      if url.username.isEmpty && url.password.isEmpty then ""
      else url.username ++ (if url.password.isEmpty then "" else ":" ++ url.password) ++ "@"
    let port := match url.port with
      | some port => ":" ++ toString port
      | none => ""
    "//" ++ userinfo ++ host.text ++ port

def render (url : Url) : String :=
  url.scheme ++ ":" ++ url.authorityText ++ url.target ++ match url.fragment with
    | some fragment => "#" ++ fragment
    | none => ""

end Url
end Playground
