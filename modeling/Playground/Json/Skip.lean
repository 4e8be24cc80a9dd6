import Playground.Json.Reader

/-! Passing over a JSON value that nobody needs. Less is checked than when it is read: numbers may
have any size, strings may hold halves of characters, and values nest as deep as they like. -/
namespace Playground.Json
open Text (Glyph)

inductive Frame where
  | list | object
  deriving DecidableEq, Repr

def Frame.close : Frame → Glyph
  | .list => .char ']'
  | .object => .char '\x7d'

def Frame.eof : Frame → Cause
  | .list => .eofList
  | .object => .eofObject

def Frame.expected : Frame → Cause
  | .list => .expectedListEnd
  | .object => .expectedObjectEnd

def skipEscape : List Glyph → Reading Unit
  | [] => failAt .eofString []
  | .char 'u' :: rest => (readHex rest).map fun (_,rest) => ((),rest)
  | .char c :: rest =>
    if ['"','\\','/','b','f','n','r','t'].contains c then .ok ((),rest)
    else .error ⟨.invalidEscape,.char c :: rest,1⟩
  | rest => .error ⟨.invalidEscape,rest,1⟩

def skipString (rest : List Glyph) : Reading Unit :=
  go (rest.length + 1) rest
where
  go : Nat → List Glyph → Reading Unit
    | 0,rest => failAt .eofString rest
    | _ + 1,[] => failAt .eofString []
    | _ + 1,.char '"' :: rest => .ok ((),rest)
    | fuel + 1,.char '\\' :: rest =>
      match skipEscape rest with
      | .error failure => .error failure
      | .ok ((),rest) => go fuel rest
    | fuel + 1,.char c :: rest =>
      if c.toNat < 32 then failAt .controlCharacter (.char c :: rest) else go fuel rest
    | fuel + 1,.stray _ :: rest => go fuel rest

def skipExponent (rest : List Glyph) : Reading Unit :=
  let rest := if startsWith '-' rest || startsWith '+' rest then rest.drop 1 else rest
  if (digit? rest).isSome then .ok ((),skipDigits rest) else failPast .invalidNumber rest

def skipFraction (rest : List Glyph) : Reading Unit :=
  if (digit? rest).isNone then failPast .invalidNumber rest
  else
    let rest := skipDigits rest
    if startsExponent rest then skipExponent (rest.drop 1) else .ok ((),rest)

def skipAfterWhole (rest : List Glyph) : Reading Unit :=
  if startsWith '.' rest then skipFraction (rest.drop 1)
  else if startsExponent rest then skipExponent (rest.drop 1)
  else .ok ((),rest)

def skipNumber (rest : List Glyph) : Reading Unit :=
  match digit? rest with
  | none => failPast .invalidNumber rest
  | some 0 =>
    let rest := rest.drop 1
    if (digit? rest).isSome then failPast .invalidNumber rest else skipAfterWhole rest
  | some _ => skipAfterWhole (skipDigits rest)

def skipScalar (rest : List Glyph) : Reading Unit :=
  match rest with
  | [] => failAt .eofValue []
  | .char 'n' :: rest => readWord ['u','l','l'] () rest
  | .char 't' :: rest => readWord ['r','u','e'] () rest
  | .char 'f' :: rest => readWord ['a','l','s','e'] () rest
  | .char '"' :: rest => skipString rest
  | .char '-' :: rest => skipNumber rest
  | rest => if (digit? rest).isSome then skipNumber rest else failPast .expectedValue rest

inductive Stage where
  | value | key | opened | closed
  deriving DecidableEq, Repr

def skipStage : (fuel : Nat) → Stage → List Frame → List Glyph → Reading Unit
  | 0,_,_,rest => failAt .eofValue rest
  | fuel + 1,.value,frames,rest =>
    match skipSpace rest with
    | .char '[' :: rest => skipStage fuel .opened (.list :: frames) rest
    | .char '\x7b' :: rest => skipStage fuel .opened (.object :: frames) rest
    | rest =>
      match skipScalar rest with
      | .error failure => .error failure
      | .ok ((),rest) => skipStage fuel .closed frames rest
  | _ + 1,_,[],rest => .ok ((),rest)
  | fuel + 1,.key,frames,rest =>
    match skipSpace rest with
    | [] => failAt .eofObject []
    | .char '"' :: rest =>
      match skipString rest with
      | .error failure => .error failure
      | .ok ((),rest) =>
        match readColon rest with
        | .error failure => .error failure
        | .ok ((),rest) => skipStage fuel .value frames rest
    | rest => failPast .keyMustBeString rest
  | fuel + 1,.opened,frame :: frames,rest =>
    match skipSpace rest with
    | [] => failAt frame.eof []
    | g :: rest =>
      if g = frame.close then skipStage fuel .closed frames rest
      else skipStage fuel (if frame = .list then .value else .key) (frame :: frames) (g :: rest)
  | fuel + 1,.closed,frame :: frames,rest =>
    match skipSpace rest with
    | [] => failAt frame.eof []
    | g :: rest =>
      if g = frame.close then skipStage fuel .closed frames rest
      else if g = .char ',' then
        skipStage fuel (if frame = .list then .value else .key) (frame :: frames) rest
      else failPast frame.expected (g :: rest)

/- Passes over a value. Every stage but one in two takes a glyph. -/
def skipValue (rest : List Glyph) : Reading Unit := skipStage (2 * rest.length + 3) .value [] rest

end Playground.Json
