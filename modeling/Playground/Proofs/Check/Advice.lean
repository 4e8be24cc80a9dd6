import Mathlib.Data.List.Forall2
import Playground.Proofs.Check.Includes
import Playground.Proofs.Check.Semicolons

/-! What comes of following the advice on includes and imports. An import is a line like any other to
the checks, and brings nothing but its name; so imports are put in front one by one. Main statement:
the issue that advised a line is gone with it, no other one comes or goes, and lines are cited by the
numbers that they have then. -/
namespace Playground.Check
namespace Java
open Text (occurs)

def importLine (name : String) : String := "import java.util." ++ name ++ ";\n"

def importText (name : String) : List Char := "import java.util.".toList ++ name.toList ++ [';']

theorem importFirst (name source : String) :
    (importLine name ++ source).toList = importText name ++ '\n' :: source.toList := by
  have line (front : String) : (front ++ name ++ ";\n" ++ source).toList =
      front.toList ++ name.toList ++ [';'] ++ '\n' :: source.toList := by simp
  exact line "import java.util."

def importing (names : List String) (source : String) : String :=
  names.foldr (fun name text => importLine name ++ text) source

structure Imported (names : List String) (before after : List Char) : Prop where
  declaration : occurs declaration after = occurs declaration before
  entryPoint : occurs entryPoint after = occurs entryPoint before
  balance : balanceIssues after = balanceIssues before
  uses : ∀ name ∈ utilNames, usesWord after name.toList = (decide (name ∈ names) || usesWord before name.toList)
  imports : ∀ name ∈ utilNames, imports after name = (decide (name ∈ names) || imports before name)
  semicolons : ∀ number, semicolonIssues number false (Text.lines after) =
    semicolonIssues (number + names.length) false (Text.lines before)

theorem importedNone (source : List Char) : Imported [] source source := by
  refine ⟨rfl,rfl,rfl,?_,?_,?_⟩ <;> simp

section Line

variable {name : String} (util : name ∈ utilNames)
include util

theorem importUses {other : String} (named : other ∈ utilNames) (source : List Char) :
    usesWord (importText name ++ '\n' :: source) other.toList =
      (decide (other = name) || usesWord source other.toList) := by
  have words : ∀ name ∈ utilNames, '\n' ∉ name.toList ∧ name.toList ≠ [] := by decide
  have own : ∀ name ∈ utilNames, ∀ other ∈ utilNames,
      usesWord (importText name) other.toList = decide (other = name) := by decide
  obtain ⟨single,filled⟩ := words other named
  rw [usesWordEnded single filled,own name util other named]

theorem importImports {other : String} (named : other ∈ utilNames) (source : List Char) :
    imports (importText name ++ '\n' :: source) other = (decide (other = name) || imports source other) := by
  have marks : ∀ name ∈ utilNames, '\n' ∉ "java.util.".toList ++ name.toList := by decide
  have own : ∀ name ∈ utilNames, ∀ other ∈ utilNames,
      Text.contains ("java.util.".toList ++ other.toList) (importText name) = decide (other = name) := by decide
  have every : ∀ name ∈ utilNames, Text.contains "java.util.*".toList (importText name) = false := by decide
  have filled : "java.util.".toList ++ other.toList ≠ [] := List.append_ne_nil_of_left_ne_nil (by decide) _
  simp only [imports,String.toList_append]
  rw [Text.containsEnded (marks other named) filled,Text.containsEnded (by decide) (by decide),
    own name util other named,every name util,Bool.false_or,Bool.or_assoc]

theorem importSemicolons (number : Nat) (source : List Char) :
    semicolonIssues number false (Text.lines (importText name ++ '\n' :: source)) =
      semicolonIssues (number + 1) false (Text.lines source) := by
  have single : ∀ name ∈ utilNames, '\n' ∉ importText name := by decide
  have ended : ∀ name ∈ utilNames, let line := Text.stripEnd '\r' (importText name)
      ¬ Begins line ∧ endsWithOneOf endMarks (codeOf (Text.trim line)) = true := by decide
  obtain ⟨plain,mark⟩ := ended name util
  have complete (later : List (List Char)) : ¬ Unended (Text.stripEnd '\r' (importText name)) later := fun unended => by
    have lacks := unended.2.2
    simp [lacksSemicolon,mark] at lacks
  rw [Text.linesEnded (single name util),semicolonCons,if_neg fun cited => complete _ cited.2]
  simp [passes,plain]

end Line

theorem importedCons {names : List String} {before after : List Char} (imported : Imported names before after)
    {name : String} (util : name ∈ utilNames) : Imported (name :: names) before (importText name ++ '\n' :: after) := by
  have kinds : ∀ name ∈ utilNames, Text.Lacks (importText name) ["class","interface","enum","record"] := by decide
  have access : ∀ name ∈ utilNames, Text.Lacks (importText name) ["public"] := by decide
  have level : ∀ name ∈ utilNames, Text.Lacks (importText name) ["static"] := by decide
  have pairs : ∀ name ∈ utilNames, ['\x7b','\x7d','(',')'].any (importText name).contains = false := by decide
  refine ⟨?_,?_,?_,fun other named => ?_,fun other named => ?_,fun number => ?_⟩
  · rw [← imported.declaration]
    simp only [occurs,declaration,List.any_cons,List.any_nil,Text.occursBehind (kinds name util) (Text.ledOneOf _ _)]
  · rw [← imported.entryPoint]
    simp only [occurs,entryPoint,List.any_cons,List.any_nil,Text.occursBehind (access name util) (Text.ledWord _ _),
      Text.occursBehind (level name util) (Text.ledWord _ _)]
  · rw [balanceBehind (pairs name util),imported.balance]
  · rw [importUses util named,imported.uses other named,← Bool.or_assoc]
    simp
  · rw [importImports util named,imported.imports other named,← Bool.or_assoc]
    simp
  · rw [importSemicolons util,imported.semicolons,List.length_cons]
    congr 1
    omega

theorem importedAll {names : List String} (util : ∀ name ∈ names, name ∈ utilNames) (source : String) :
    Imported names source.toList (importing names source).toList := by
  induction names with
  | nil => exact importedNone source.toList
  | cons name names ih =>
    have further := ih fun other member => util other (List.mem_cons_of_mem name member)
    rw [importing,List.foldr_cons,importFirst]
    exact importedCons further (util name List.mem_cons_self)

def importAdvice (name : String) : Issue :=
  ⟨.missingInclude,s!"Using {name} but missing import java.util.{name}"⟩

def missingImports (source : String) : List String :=
  utilNames.filter fun name => importAdvice name ∈ validate source .java

def shapeIssues (source : List Char) : List Issue :=
  issueIf (!occurs declaration source) .missingDeclaration "Missing class or interface declaration" ++
    issueIf (!occurs entryPoint source) .missingEntryPoint "Missing main method (public static void main)" ++
    balanceIssues source

theorem issuesParts (source : String) : validate source .java =
    shapeIssues source.toList ++ importIssues source.toList ++ semicolonIssues 1 false (Text.lines source.toList) := rfl

theorem shapeKind {source : List Char} {issue : Issue} (member : issue ∈ shapeIssues source) :
    issue.kind ≠ .missingInclude ∧ issue.kind ≠ .missingSemicolon := by
  simp only [shapeIssues,balanceIssues,List.mem_append] at member
  rcases member with (declaration | entryPoint) | braces | parens
  · simp [issueIfKind declaration]
  · simp [issueIfKind entryPoint]
  · simp [pairKind braces]
  · simp [pairKind parens]

theorem adviceDue {source : String} {name : String} (util : name ∈ utilNames)
    (used : usesWord source.toList name.toList = true) (unknown : imports source.toList name = false) :
    name ∈ missingImports source := by
  have advice : importAdvice name ∈ importIssues source.toList :=
    List.mem_flatMap.mpr ⟨name,util,by simp [used,unknown,issueIf,importAdvice]⟩
  refine List.mem_filter.mpr ⟨util,decide_eq_true ?_⟩
  rw [issuesParts]
  exact List.mem_append_left _ (List.mem_append_right _ advice)

theorem adviceNamed {source : String} {issue : Issue} (member : issue ∈ validate source .java)
    (kind : issue.kind = .missingInclude) : ∃ name ∈ missingImports source, issue = importAdvice name := by
  have own : issue ∈ importIssues source.toList := by
    rw [issuesParts,List.mem_append,List.mem_append] at member
    rcases member with (shape | imports) | semicolon
    · exact absurd kind (shapeKind shape).1
    · exact imports
    · rw [semicolonKind semicolon] at kind
      cases kind
  obtain ⟨name,util,here⟩ := List.mem_flatMap.mp own
  have same : issue = importAdvice name := issueIfOnly here
  exact ⟨name,List.mem_filter.mpr ⟨util,decide_eq_true (same ▸ member)⟩,same⟩

theorem adviceMet {names : List String} {source : String} (all : ∀ name ∈ missingImports source, name ∈ names)
    {after : List Char} (imported : Imported names source.toList after) : importIssues after = [] := by
  refine List.flatMap_eq_nil_iff.mpr fun name util => ?_
  have needless : (usesWord after name.toList && !imports after name) = false := by
    rw [imported.uses name util,imported.imports name util]
    by_cases member : name ∈ names
    · simp [member]
    · simp only [member,decide_false,Bool.false_or]
      refine Bool.eq_false_iff.mpr fun due => member (all name ?_)
      obtain ⟨used,unknown⟩ := Bool.and_eq_true_iff.mp due
      exact adviceDue util used (by simpa using unknown)
  rw [needless]
  rfl

/- An issue behind so many lines: where it cites a line, by the number that the line has then. -/
inductive Moved (added : Nat) : Issue → Issue → Prop
  | same {issue : Issue} (other : issue.kind ≠ .missingSemicolon) : Moved added issue issue
  | later (number : Nat) (line : List Char) : Moved added (lineIssue number line) (lineIssue (number + added) line)

theorem sameMoved {added : Nat} {issues : List Issue} (other : ∀ issue ∈ issues, issue.kind ≠ .missingSemicolon) :
    List.Forall₂ (Moved added) issues issues := List.forall₂_same.mpr fun issue member => .same (other issue member)

theorem semicolonsMoved (added number : Nat) (inComment : Bool) (lines : List (List Char)) :
    List.Forall₂ (Moved added) (semicolonIssues number inComment lines)
      (semicolonIssues (number + added) inComment lines) := by
  induction lines generalizing number inComment with
  | nil => exact .nil
  | cons line later ih =>
    have further := ih (number + 1) (passes inComment line)
    rw [Nat.add_right_comm] at further
    rw [semicolonCons,semicolonCons]
    refine List.rel_append ?_ further
    split
    · exact .cons (.later number _) .nil
    · exact .nil

theorem besidesImports (source : String) : besides (validate source .java) =
    shapeIssues source.toList ++ semicolonIssues 1 false (Text.lines source.toList) := by
  have shape : besides (shapeIssues source.toList) = _ := besidesOther fun _ member => (shapeKind member).1
  have imports : besides (importIssues source.toList) = [] := besidesNone fun _ => importKind
  have semicolons : besides (semicolonIssues 1 false (Text.lines source.toList)) = _ :=
    besidesOther fun issue member => by simp [semicolonKind member]
  rw [issuesParts,besidesAppend,besidesAppend,shape,imports,semicolons,List.append_nil]

theorem importsMeet {names : List String} {source : String} (all : names.Perm (missingImports source)) :
    List.Forall₂ (Moved names.length) (besides (validate source .java)) (validate (importing names source) .java) := by
  have imported : Imported names source.toList (importing names source).toList :=
    importedAll (fun name member => (List.mem_filter.mp (all.mem_iff.mp member)).1) source
  have shape : shapeIssues (importing names source).toList = shapeIssues source.toList := by
    rw [shapeIssues,shapeIssues,imported.declaration,imported.entryPoint,imported.balance]
  have met := adviceMet (fun name member => all.mem_iff.mpr member) imported
  rw [besidesImports,issuesParts,shape,met,imported.semicolons,List.append_nil]
  exact List.rel_append (sameMoved fun _ member => (shapeKind member).2) (semicolonsMoved names.length 1 false _)

end Java

/- Each line is put in front of the source as its issue advises. -/
theorem adviceMeets (source : String) :
    (∀ header ∈ Cpp.advised,
      Cpp.Met header (validate source .cpp) (validate (Cpp.includeLine header ++ source) .cpp)) ∧
    (∀ issue ∈ validate source .java, issue.kind = .missingInclude →
      ∃ name ∈ Java.missingImports source, issue = Java.importAdvice name) ∧
    ∀ names : List String, names.Perm (Java.missingImports source) →
      List.Forall₂ (Java.Moved names.length) (besides (validate source .java))
        (validate (Java.importing names source) .java) :=
  ⟨fun _ advice => Cpp.includeMeets advice source,fun _ => Java.adviceNamed,fun _ => Java.importsMeet⟩

def scanning : String := "printf(); Scanner s; int x"

def lackingPrintf : Issue := ⟨.missingInclude,"Using printf but missing #include <cstdio>"⟩

theorem scanningAdvice :
    lackingPrintf ∈ validate scanning .cpp ∧
    lackingPrintf ∉ validate (Cpp.includeLine "cstdio" ++ scanning) .cpp ∧
    "cstdio" ∈ Cpp.advised ∧ ["Scanner"].Perm (Java.missingImports scanning) ∧
    Cpp.Met "cstdio" (validate scanning .cpp) (validate (Cpp.includeLine "cstdio" ++ scanning) .cpp) ∧
    Java.importAdvice "Scanner" ∈ validate scanning .java ∧
    (∃ name ∈ Java.missingImports scanning, Java.importAdvice "Scanner" = Java.importAdvice name) ∧
    List.Forall₂ (Java.Moved 1) (besides (validate scanning .java))
      (validate (Java.importing ["Scanner"] scanning) .java) := by
  obtain ⟨includes,named,imports⟩ := adviceMeets scanning
  have advised : "cstdio" ∈ Cpp.advised := by decide
  have missing : Java.missingImports scanning = ["Scanner"] := by decide
  have all : ["Scanner"].Perm (Java.missingImports scanning) := missing ▸ List.Perm.refl _
  have member : "Scanner" ∈ Java.missingImports scanning := missing ▸ List.mem_singleton_self _
  have advice : Java.importAdvice "Scanner" ∈ validate scanning .java := of_decide_eq_true (List.mem_filter.mp member).2
  have lacking : lackingPrintf ∈ validate scanning .cpp := by decide
  have met : lackingPrintf ∉ validate (Cpp.includeLine "cstdio" ++ scanning) .cpp := by decide
  exact ⟨lacking,met,advised,all,includes _ advised,advice,named _ advice rfl,imports _ all⟩

end Playground.Check
