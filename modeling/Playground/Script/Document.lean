import Playground.Json.Reader
import Playground.Script.Program

/-! Scripts written as JSON documents. A statement is a list that begins with its name; an
expression is a JSON value for itself, or an object with one member that names its kind. What is no
statement cannot be parsed. -/
namespace Playground.Script.Document

def stringOf : Json → String
  | .string text => text
  | _ => ""

def numberOf : Json.Number → Float
  | .int n => Float.ofInt n
  | .float x => x

def hexUnit (digits : String) : UInt16 := UInt16.ofNat (Numeral.natOf 16 digits.toList)

def keyOf : Json → Units
  | .object [("lone",.string digits)] => [hexUnit digits]
  | other => .ofString (stringOf other)

def cycleOf : String → Value
  | "object" => .selfObject
  | "array" => .selfArray
  | _ => .selfBare

def variableOf (text : String) : Expression :=
  match text.splitOn "." with
  | [name,member] => .memberOf name member
  | _ => .variable text

mutual

def expression : Json → Expression
  | .null => .literal .null
  | .bool b => .literal (.bool b)
  | .string s => .literal (.ofString s)
  | .number n => .literal (.number (numberOf n))
  | .array items => .array (expressions items)
  | .object [] => .literal .undefined
  | .object ((kind,content) :: _) => compound kind content

def expressions : List Json → List Expression
  | [] => []
  | item :: rest => expression item :: expressions rest

def compound (kind : String) (content : Json) : Expression :=
  match kind with
  | "num" => .literal (.number (Numeral.value (stringOf content)))
  | "bigint" => .literal (.bigint ((stringOf content).toInt?.getD 0))
  | "lone" => .literal (.text [hexUnit (stringOf content)])
  | "sym" => .literal (.symbol (.ofString (stringOf content)))
  | "fn" => .literal (.function .nothing)
  | "obj" => .object (entries content)
  | "err" => errorOf content
  | "cycle" => .literal (cycleOf (stringOf content))
  | "tojson" => .jsonForm (expression content)
  | "tostr" => .textForm (expression content)
  | "unprintable" => .literal .unprintable
  | "boxed" => .boxed (expression content)
  | "msg" => .object [(.ofString "message",expression content)]
  | "badmsg" => .literal .badMessage
  | "read" => readOf content
  | "var" => variableOf (stringOf content)
  | "global" => .global (stringOf content)
  | "typeof" => .typeOf (stringOf content)
  | "cat" => joinedOf content
  | _ => .literal .undefined

def entries : Json → List (Units × Expression)
  | .array items => entriesOf items
  | _ => []

def entriesOf : List Json → List (Units × Expression)
  | [] => []
  | .array [key,value] :: rest => (keyOf key,expression value) :: entriesOf rest
  | _ :: rest => entriesOf rest

def errorOf : Json → Expression
  | .array [name,message] => .error (stringOf name) (expression message)
  | _ => .literal .undefined

def readOf : Json → Expression
  | .array [reader] => .read (stringOf reader) none
  | .array [reader,prompt] => .read (stringOf reader) (some (expression prompt))
  | _ => .literal .undefined

def joinedOf : Json → Expression
  | .array parts => .joined (expressions parts)
  | _ => .literal .undefined

end

def tampering? : String → Option Tampering
  | "builtins" => some .replaceBuiltins
  | "prototype" => some .extendPrototype
  | "array_setter" => some .trapArrayIndex
  | "console_null" => some .nullConsole
  | "console_delete" => some .deleteConsole
  | "console_custom" => some .customConsole
  | "console_getter" => some .accessorConsole
  | "console_fixed" => some .fixedConsole
  | "own_input" => some .ownInput
  | "host_console" | "drain" => some .frozenTargets
  | _ => none

def consoleMethod? : String → Option ConsoleMethod
  | "log" => some .log
  | "info" => some .info
  | "debug" => some .debug
  | "warn" => some .warn
  | "error" => some .error
  | _ => none

def simpleStatement (name : String) (arguments : List Json) : Statement :=
  match consoleMethod? name,name,arguments with
  | some method,_,arguments => .print method (expressions arguments)
  | none,"throw",[value] => .throwValue (expression value)
  | none,"return",[value] => .returnValue (expression value)
  | none,"let",[name,value] => .constant (stringOf name) (expression value)
  | none,"global",[name,value] => .setGlobal (stringOf name) (expression value)
  | none,"push",[name,value] => .addToGlobal (stringOf name) (expression value)
  | none,"recurse",_ => .recurse
  | none,"break",[how] => ((tampering? (stringOf how)).map .tamper).getD .malformed
  | _,_,_ => .malformed

mutual

def statement : Json → Statement
  | .array (.string "later" :: body) => .later (statements body)
  | .array [.string "try",.array body,.array handler] => .attempt (statements body) (statements handler)
  | .array (.string name :: arguments) => simpleStatement name arguments
  | _ => .malformed

def statements : List Json → List Statement
  | [] => []
  | item :: rest => statement item :: statements rest

end

def script : Json → List Statement
  | .array items => statements items
  | _ => [.malformed]

def isComment (line : List Char) : Bool := "//".toList.isPrefixOf line

def read (source : String) : List Statement :=
  let lines := (source.toList.splitOn '\n').dropWhile isComment
  match Json.parse (String.ofList (List.intercalate ['\n'] lines)) with
  | .ok document => script document
  | .error _ => [.malformed]

end Playground.Script.Document
