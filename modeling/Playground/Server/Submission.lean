import Playground.Json.Printer
import Playground.Json.Skip

/-! Submissions as the server receives them: a JSON object with a source, a language and maybe an
input, or a list of the three. A refusal names the place of what is wrong and tells text that is no
JSON from JSON that is no submission. -/
namespace Playground.Server
open Json (Failure Reading)
open Text (Glyph)

structure Submission where
  source : String
  language : String
  stdin : Option String := none
  deriving DecidableEq, Repr

namespace Submission

/- JSON that cannot be read on, or that does not fit; what does not fit ends before `rest`. -/
inductive Problem where
  | malformed (failure : Failure)
  | unfit (complaint : String) (rest : List Glyph)
  deriving DecidableEq, Repr

structure Refusal where
  place : Option String := none
  problem : Problem
  deriving DecidableEq, Repr

namespace Refusal

def isMalformed (refusal : Refusal) : Bool :=
  match refusal.problem with
  | .malformed _ => true
  | .unfit .. => false

def Problem.describe (text : List Glyph) : Problem → String
  | .malformed failure => failure.describe text
  | .unfit complaint rest => (Json.positionOf text rest 0).describe complaint

def describe (text : List Glyph) (refusal : Refusal) : String :=
  match refusal.place with
  | some place => place ++ ": " ++ Problem.describe text refusal.problem
  | none => Problem.describe text refusal.problem

end Refusal

abbrev Step := StateT (List Glyph) (Except Refusal)

def malformed (place : Option String) (failure : Failure) : Refusal := { place, problem := .malformed failure }

def lift (place : Option String) (reading : List Glyph → Reading α) : Step α := fun rest =>
  (reading rest).mapError (malformed place)

def refuse (place : Option String) (complaint : String) : Step α := fun rest =>
  .error { place, problem := .unfit complaint rest }

/-! ## Values -/

def quotedText (text : String) : String :=
  "\"" ++ String.ofList (text.toList.flatMap fun c => match c with
    | '"' => ['\\','"']
    | '\\' => ['\\','\\']
    | '\n' => ['\\','n']
    | '\r' => ['\\','r']
    | '\t' => ['\\','t']
    | '\x00' => ['\\','0']
    | c => [c]) ++ "\""

def kindOf : Json → String
  | .null => "null"
  | .bool b => if b then "boolean `true`" else "boolean `false`"
  | .number (.int n) => s!"integer `{n}`"
  | .number (.float x) => s!"floating point `{Json.floatText x}`"
  | .string text => "string " ++ quotedText text
  | .array _ => "sequence"
  | .object _ => "map"

def mismatch (found expected : String) : String := s!"invalid type: {found}, expected {expected}"

def refuseValue (place : Option String) (expected : String) : Step α := fun rest =>
  match rest with
  | .char '[' :: _ => refuse place (mismatch "sequence" expected) rest
  | .char '\x7b' :: _ => refuse place (mismatch "map" expected) rest
  | rest =>
    match Json.readScalar rest with
    | .error failure => .error (malformed place failure)
    | .ok (value,rest) => refuse place (mismatch (kindOf value) expected) rest

def readText (place : String) : Step String := fun rest =>
  match Json.skipSpace rest with
  | .char '"' :: rest => lift (some place) Json.readString rest
  | rest => refuseValue (some place) "a string" rest

def readOptionalText (place : String) : Step (Option String) := fun rest =>
  match Json.skipSpace rest with
  | .char 'n' :: rest => lift (some place) (Json.readWord ['u','l','l'] none) rest
  | rest => (some <$> readText place) rest

/-! ## Objects -/

inductive Field where
  | source | language | stdin
  deriving DecidableEq, Repr

def Field.name : Field → String
  | .source => "source"
  | .language => "language"
  | .stdin => "stdin"

def Field.ofKey? : String → Option Field
  | "source" | "code" => some .source
  | "language" => some .language
  | "stdin" => some .stdin
  | _ => none

structure Draft where
  source : Option String := none
  language : Option String := none
  stdin : Option (Option String) := none

def Draft.has (draft : Draft) : Field → Bool
  | .source => draft.source.isSome
  | .language => draft.language.isSome
  | .stdin => draft.stdin.isSome

def missing (field : Field) : String := s!"missing field `{field.name}`"

def Draft.finish (draft : Draft) : Step Submission :=
  match draft.source,draft.language with
  | none,_ => refuse none (missing .source)
  | _,none => refuse none (missing .language)
  | some source,some language => return { source, language, stdin := draft.stdin.getD none }

def Draft.read (draft : Draft) (place : String) : Field → Step Draft
  | .source => return { draft with source := some (← readText place) }
  | .language => return { draft with language := some (← readText place) }
  | .stdin => return { draft with stdin := some (← readOptionalText place) }

/- A refusal inside an object or a list looks for the end of it right there. -/
def passEnd (close : Char) (rest : List Glyph) : List Glyph :=
  match Json.skipSpace rest with
  | g :: rest => if g = .char close then rest else g :: rest
  | [] => []

def refuseWhole (close : Char) (complaint : String) : Step α := do
  modify (passEnd close)
  refuse none complaint

def readMember (draft : Draft) (key : String) : Step Draft :=
  match Field.ofKey? key with
  | none => do
    lift (some key) Json.readColon
    lift (some key) Json.skipValue
    return draft
  | some field =>
    if draft.has field then refuseWhole '\x7d' s!"duplicate field `{field.name}`"
    else do
      lift (some key) Json.readColon
      draft.read key field

def readMembers : (fuel : Nat) → (first : Bool) → Draft → Step Submission
  | 0,_,_ => lift none (Json.failAt .eofObject)
  | fuel + 1,first,draft => do
    match ← lift none (Json.nextKey first) with
    | none =>
      modify (List.drop 1)
      draft.finish
    | some key => readMembers fuel false (← readMember draft key)

/-! ## Lists -/

def itemPlace (index : Nat) : String := s!"[{index}]"

def tooShort (length : Nat) : String :=
  s!"invalid length {length}, expected struct RunRequest with 3 elements"

def readItem (index : Nat) (read : String → Step α) : Step (Option α) := fun rest =>
  match Json.nextItem (index == 0) rest with
  | .error failure => .error (malformed (some (itemPlace index)) failure)
  | .ok (none,rest) => .ok (none,rest)
  | .ok (some rest,_) => (some <$> read (itemPlace index)) rest

def readListEnd (rest : List Glyph) : Reading Unit :=
  match Json.skipSpace rest with
  | [] => Json.failAt .eofList []
  | .char ']' :: rest => .ok ((),rest)
  | .char ',' :: rest =>
    match Json.skipSpace rest with
    | .char ']' :: rest => Json.failPast .trailingComma (.char ']' :: rest)
    | rest => Json.failPast .trailingCharacters rest
  | rest => Json.failPast .trailingCharacters rest

def readList : Step Submission := do
  match ← readItem 0 readText with
  | none => refuseWhole ']' (tooShort 0)
  | some source =>
    match ← readItem 1 readText with
    | none => refuseWhole ']' (tooShort 1)
    | some language => do
      let stdin ← readItem 2 readOptionalText
      lift none readListEnd
      return { source, language, stdin := stdin.getD none }

def readFront : Step Submission := fun text =>
  match Json.skipSpace text with
  | .char '[' :: rest => readList rest
  | .char '\x7b' :: rest => readMembers (rest.length + 1) true {} rest
  | rest => refuseValue none "struct RunRequest" rest

def read (body : List UInt8) : Except Refusal Submission :=
  readFront.run' (Text.decode body)

/-! ## Limits -/

def sourceLimit : Nat := 1024 * 1024

def objection? (submission : Submission) : Option String :=
  if Text.isBlankString submission.language then some "language is required"
  else if sourceLimit < submission.source.utf8ByteSize then
    some s!"source is {submission.source.utf8ByteSize} bytes, the limit is {sourceLimit}"
  else none

end Submission
end Playground.Server
