import Playground.Check.Issue

/-! The checks of Java sources: a declaration, an entry point, balanced pairs, imports for the names
of `java.util`, and line ends without a semicolon. -/
namespace Playground.Check.Java
open Text (Part occurs)

def declaration : List (List Part) :=
  [[.boundary,.oneOf ["class","interface","enum","record"],.someBlanks,
    .charOf fun c => c.isAlpha || c == '_']]

def entryPoint : List (List Part) :=
  let modifiers (first second : String) : List Part :=
    [.boundary,.word first,.someBlanks,.word second,.someBlanks,.word "void",.someBlanks,
      .word "main",.blanks,.word "("]
  [modifiers "public" "static",modifiers "static" "public"]

def statementWords : List (List Part) :=
  [[.boundary,.oneOf ["System","int","long","double","float","char","boolean","String"],
    .boundary]]

def controlStart : List Part :=
  [.oneOf ["if","else","for","while","do","switch","case","default","try","catch",
    "finally","@"],.boundary]

def utilNames : List String :=
  ["Scanner","ArrayList","HashMap","HashSet","LinkedList","Arrays","Collections"]

def imports (source : List Char) (name : String) : Bool :=
  Text.contains ("java.util." ++ name).toList source ||
    Text.contains "java.util.*".toList source

def importIssues (source : List Char) : List Issue :=
  utilNames.flatMap fun name =>
    issueIf (usesWord source name.toList && !imports source name) .missingInclude
      s!"Using {name} but missing import java.util.{name}"

def endsWithOneOf (marks : List Char) (line : List Char) : Bool :=
  match line.getLast? with
  | some c => marks.contains c
  | none => false

def startsWithOneOf (marks : List Char) (line : List Char) : Bool :=
  match line.head? with
  | some c => marks.contains c
  | none => false

def codeOf (line : List Char) : List Char :=
  match Text.splitOnce ['/','/'] line with
  | some (before,_) => Text.trimEnd before
  | none => Text.trimEnd line

def endMarks : List Char := [';','\x7b','\x7d',':',',','(','+','=','&','|']

def continuationMarks : List Char := ['\x7b','.','+','-','?',':',')','&','|']

def continues (later : List (List Char)) : Bool :=
  match (later.map Text.trim).find? (!·.isEmpty) with
  | some line => startsWithOneOf continuationMarks line
  | none => false

def lacksSemicolon (line : List Char) (later : List (List Char)) : Bool :=
  !(Text.matchesAt controlStart none line) && occurs statementWords line &&
    !endsWithOneOf endMarks (codeOf line) && !continues later

def isCommentLine (line : List Char) : Bool :=
  line.isEmpty || ['/','/'].isPrefixOf line || ['*'].isPrefixOf line

/- Goes through the lines with their numbers; block comments open at a line's start and close at the first
line that holds their end. -/
def semicolonIssues : (number : Nat) → (inComment : Bool) → List (List Char) → List Issue
  | _,_,[] => []
  | number,inComment,line :: later =>
    let line := Text.trim line
    let ends := Text.contains ['*','/'] line
    if inComment then semicolonIssues (number + 1) (!ends) later
    else if ['/','*'].isPrefixOf line then semicolonIssues (number + 1) (!ends) later
    else if isCommentLine line then semicolonIssues (number + 1) false later
    else
      issueIf (lacksSemicolon line later) .missingSemicolon
        s!"Missing semicolon at line {number}: {String.ofList line}" ++
        semicolonIssues (number + 1) false later

def issues (source : List Char) : List Issue :=
  issueIf (!occurs declaration source) .missingDeclaration
      "Missing class or interface declaration" ++
    issueIf (!occurs entryPoint source) .missingEntryPoint
      "Missing main method (public static void main)" ++
    balanceIssues source ++ importIssues source ++ semicolonIssues 1 false (Text.lines source)

end Playground.Check.Java
