import Playground.Text.Pattern

/-! Findings of the source checks, and the checks that more than one language uses: balanced pairs
and stand-alone words. -/
namespace Playground.Check

inductive IssueKind where
  | missingEntryPoint | missingDeclaration | unbalancedBraces | unbalancedParens
  | missingInclude | missingSemicolon
  deriving DecidableEq, Repr

def IssueKind.name : IssueKind → String
  | .missingEntryPoint => "missing-entry-point"
  | .missingDeclaration => "missing-declaration"
  | .unbalancedBraces => "unbalanced-braces"
  | .unbalancedParens => "unbalanced-parens"
  | .missingInclude => "missing-include"
  | .missingSemicolon => "missing-semicolon"

structure Issue where
  kind : IssueKind
  detail : String
  deriving DecidableEq, Repr

def issueIf (condition : Bool) (kind : IssueKind) (detail : String) : List Issue :=
  if condition then [⟨kind,detail⟩] else []

def pairIssues (source : List Char) (kind : IssueKind) (label : String) (opening closing : Char) :
    List Issue :=
  let opened := source.count opening
  let closed := source.count closing
  issueIf (opened != closed) kind s!"Unbalanced {label}: {opened} open, {closed} close"

def balanceIssues (source : List Char) : List Issue :=
  pairIssues source .unbalancedBraces "braces" '\x7b' '\x7d' ++
    pairIssues source .unbalancedParens "parentheses" '(' ')'

def identifierAt : Option Char → Bool
  | some c => Text.isIdentifierChar c
  | none => false

/- Occurrences of the word are tried from the left, each beginning after the one before it; one without
identifier characters on either side is a use. The first `skip` characters are passed. -/
def usesWordFrom (word : List Char) : (before : Option Char) → (skip : Nat) → List Char → Bool
  | _,_,[] => false
  | _,skip + 1,c :: rest => usesWordFrom word (some c) skip rest
  | before,0,c :: rest =>
    if word.isPrefixOf (c :: rest) then
      (!identifierAt before && !identifierAt ((c :: rest).drop word.length).head?) ||
        usesWordFrom word (some c) (word.length - 1) rest
    else usesWordFrom word (some c) 0 rest

def usesWord (source word : List Char) : Bool := usesWordFrom word none 0 source

end Playground.Check
