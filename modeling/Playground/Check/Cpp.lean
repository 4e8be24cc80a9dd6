import Playground.Check.Issue

/-! The checks of C++ sources: an entry point, includes, balanced pairs, and the headers that the
names in use need. -/
namespace Playground.Check.Cpp
open Text (Part occurs)

def entryPoint : List (List Part) := [[.boundary,.word "main",.blanks,.word "("]]

def directive? (text : List Char) : Option (List Char × Nat) :=
  match text with
  | '#' :: rest =>
    let rest := rest.dropWhile Text.isBlank
    let word := "include".toList
    if word.isPrefixOf rest then
      match (rest.drop word.length).dropWhile Text.isBlank with
      | opening :: rest =>
        let isClosing (c : Char) : Bool := c == '>' || c == '"'
        let header := rest.takeWhile (!isClosing ·)
        match rest.dropWhile (!isClosing ·) with
        | _ :: after =>
          if (opening == '<' || opening == '"') && !header.isEmpty then
            some (header,text.length - after.length)
          else none
        | [] => none
      | [] => none
    else none
  | _ => none

def directivesFrom : (skip : Nat) → List Char → List (List Char)
  | _,[] => []
  | skip + 1,_ :: rest => directivesFrom skip rest
  | 0,c :: rest =>
    match directive? (c :: rest) with
    | some (header,length) => header :: directivesFrom (length - 1) rest
    | none => directivesFrom 0 rest

def directives (source : List Char) : List (List Char) := directivesFrom 0 source

def headers (source : List Char) : List (List Char) := (directives source).map Text.trim

structure Prerequisite where
  names : List String
  providers : List String
  label : String
  deriving DecidableEq, Repr

def prerequisites : List Prerequisite :=
  [⟨["cout","cin","cerr","clog","endl"],["iostream"],"#include <iostream>"⟩,
    ⟨["printf","scanf","puts","getchar"],["cstdio","stdio.h"],"#include <cstdio>"⟩,
    ⟨["vector"],["vector"],"#include <vector>"⟩]

def everythingHeader : List Char := "bits/stdc++.h".toList

def prerequisiteIssues (source : List Char) (headers : List (List Char)) (p : Prerequisite) :
    List Issue :=
  let used := p.names.filter fun name => usesWord source name.toList
  let provided := p.providers.any fun header => headers.contains header.toList
  issueIf (!used.isEmpty && !provided) .missingInclude
    ("Using " ++ String.intercalate "/" used ++ " but missing " ++ p.label)

def issues (source : List Char) : List Issue :=
  let headers := headers source
  issueIf (!occurs entryPoint source) .missingEntryPoint "Missing main function" ++
    issueIf headers.isEmpty .missingInclude "Missing #include directives" ++
    balanceIssues source ++
    (if headers.contains everythingHeader then []
      else prerequisites.flatMap (prerequisiteIssues source headers))

end Playground.Check.Cpp
