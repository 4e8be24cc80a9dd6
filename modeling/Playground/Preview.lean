import Playground.Fault
import Playground.Text.Basic

/-! The preview: the latest document and stylesheet that were accepted, and the document with the
stylesheet put into it. -/
namespace Playground

inductive Markup where
  | document
  | stylesheet
  deriving DecidableEq, Repr

/- Where markup is shown. A surface takes a text or refuses it, and `P` is what it keeps. -/
class Surface (P : Type) where
  take : Markup → String → P → Except Fault Unit × P

structure Preview where
  limit : Nat
  document : Option String := none
  stylesheet : Option String := none
  documentsOpened : Nat := 0
  stylesheetsApplied : Nat := 0
  deriving DecidableEq, Repr

namespace Preview

def defaultLimit : Nat := 4 * 1024 * 1024

def ofLimit (limit : Nat) : Preview := { limit }

def checkSize (preview : Preview) (kind text : String) : Except Fault Unit :=
  if text.utf8ByteSize ≤ preview.limit then .ok ()
  else .error (.surface
    s!"{kind} is {text.utf8ByteSize} bytes, the preview accepts at most {preview.limit}")

def openDocument (preview : Preview) (document : String) : Except Fault Preview := do
  preview.checkSize "document" document
  return { preview with
    document := some document
    documentsOpened := preview.documentsOpened + 1 }

def applyStylesheet (preview : Preview) (stylesheet : String) : Except Fault Preview := do
  preview.checkSize "stylesheet" stylesheet
  return { preview with
    stylesheet := some stylesheet
    stylesheetsApplied := preview.stylesheetsApplied + 1 }

def accept (preview : Preview) : Markup → String → Except Fault Preview
  | .document => preview.openDocument
  | .stylesheet => preview.applyStylesheet

instance : Surface Preview where
  take markup text preview :=
    match preview.accept markup text with
    | .ok preview => (.ok (),preview)
    | .error fault => (.error fault,preview)

def headEnd : List Char := ['<','/','h','e','a','d','>']

def startsHeadEnd (text : List Char) : Bool :=
  Text.lowerAscii (text.take headEnd.length) == headEnd

def splitAtHeadEnd (text : List Char) : Option (List Char × List Char) :=
  go [] text
where
  go (passed : List Char) : List Char → Option (List Char × List Char)
    | [] => none
    | c :: rest =>
      if startsHeadEnd (c :: rest) then some (passed.reverse,c :: rest)
      else go (c :: passed) rest

def styleElement (stylesheet : String) : String :=
  "<style id=\"workbench-preview-css\">\n" ++ stylesheet ++ "\n</style>"

def withStyle (document stylesheet : String) : String :=
  match splitAtHeadEnd document.toList with
  | some (before,rest) =>
    String.ofList before ++ styleElement stylesheet ++ "\n" ++ String.ofList rest
  | none => styleElement stylesheet ++ "\n" ++ document

def render (preview : Preview) : Option String :=
  preview.document.map fun document =>
    match preview.stylesheet with
    | none => document
    | some stylesheet => withStyle document stylesheet

end Preview
end Playground
