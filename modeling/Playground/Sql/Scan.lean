import Playground.Text.Basic

/-! The lexical scan of SQL scripts: comments are removed outside literals and statements end at semicolons
outside literals. The scan takes one character at a time, so that it can be cut anywhere. -/
namespace Playground.Sql

/- Where the scan stands: in code, after a dash or slash that may begin a comment, in a literal, in a line
comment, or in a block comment, whose last character may have been a star. -/
inductive Place where
  | code | dash | slash | literal | lineComment
  | blockComment (star : Bool)
  deriving DecidableEq, Repr

structure Scan where
  place : Place := .code
  current : List Char := []
  finished : List (List Char) := []
  deriving DecidableEq, Repr

namespace Scan

def keep (s : Scan) (c : Char) (place : Place) : Scan :=
  { s with place, current := c :: s.current }

def moveTo (s : Scan) (place : Place) : Scan := { s with place }

def endStatement (s : Scan) : Scan :=
  { place := .code, current := [], finished := s.current.reverse :: s.finished }

def stepCode (s : Scan) (c : Char) : Scan :=
  match c with
  | '\'' => s.keep c .literal
  | '-' => s.moveTo .dash
  | '/' => s.moveTo .slash
  | ';' => s.endStatement
  | _ => s.keep c .code

def step (s : Scan) (c : Char) : Scan :=
  match s.place with
  | .code => s.stepCode c
  | .dash => if c = '-' then s.moveTo .lineComment else (s.keep '-' .code).stepCode c
  | .slash => if c = '*' then s.keep ' ' (.blockComment false) else (s.keep '/' .code).stepCode c
  | .literal => s.keep c (if c = '\'' then .code else .literal)
  | .lineComment => if c = '\n' then s.keep '\n' .code else s
  | .blockComment star =>
    s.moveTo (if star && c == '/' then .code else .blockComment (c == '*'))

def settle (s : Scan) : Scan :=
  match s.place with
  | .dash => s.keep '-' .code
  | .slash => s.keep '/' .code
  | _ => s

def run (s : Scan) (text : List Char) : Scan := text.foldl step s

def pieces (s : Scan) : List (List Char) := s.settle.endStatement.finished.reverse

end Scan

def statements (source : List Char) : List (List Char) :=
  (((({} : Scan).run source).pieces).map Text.trim).filter (!·.isEmpty)

end Playground.Sql
