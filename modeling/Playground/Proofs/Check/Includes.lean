import Playground.Proofs.Check.Balance
import Playground.Proofs.Check.Words
import Playground.Proofs.Text.Patterns

/-! What an include does to the issues of a source. The directive is put in front on a line of its
own, where every check meets it; each of them takes the text behind it as if it stood alone. Main
statement: so the issues that the header meets are gone, and no other one comes or goes. -/
namespace Playground.Check
open Text (occurs)

def besides (issues : List Issue) : List Issue := issues.filter fun issue => issue.kind ≠ .missingInclude

theorem besidesAppend (first last : List Issue) : besides (first ++ last) = besides first ++ besides last :=
  List.filter_append ..

theorem besidesOther {issues : List Issue} (other : ∀ issue ∈ issues, issue.kind ≠ .missingInclude) :
    besides issues = issues := by
  simpa [besides,List.filter_eq_self] using other

theorem besidesNone {issues : List Issue} (all : ∀ issue ∈ issues, issue.kind = .missingInclude) :
    besides issues = [] := by
  simpa [besides,List.filter_eq_nil_iff] using all

theorem balanceOther {source : List Char} {issue : Issue} (member : issue ∈ balanceIssues source) :
    issue.kind ≠ .missingInclude := by
  rcases List.mem_append.mp member with braces | parens
  · simp [pairKind braces]
  · simp [pairKind parens]

namespace Cpp

def includeLine (header : String) : String := "#include <" ++ header ++ ">\n"

def includeText (header : List Char) : List Char := '#' :: ("include".toList ++ ' ' :: '<' :: (header ++ ['>']))

theorem includeFirst (header source : String) :
    (includeLine header ++ source).toList = includeText header.toList ++ '\n' :: source.toList := by
  have front : "#include <".toList = '#' :: ("include".toList ++ [' ','<']) := by decide
  have back : ">\n".toList = ['>','\n'] := rfl
  simp only [includeLine,includeText,String.toList_append,front,back,List.cons_append,List.append_assoc,List.nil_append]

theorem directivesSkip (skip : Nat) (text : List Char) :
    directivesFrom skip text = directivesFrom 0 (text.drop skip) := by
  induction text generalizing skip with
  | nil => cases skip <;> rfl
  | cons c rest ih =>
    cases skip with
    | zero => rfl
    | succ skip => exact ih skip

section Directive

variable {header : List Char} (filled : header ≠ []) (unclosed : ∀ c ∈ header, c ≠ '>' ∧ c ≠ '"')
include filled unclosed

theorem directiveAhead (rest : List Char) :
    directive? (includeText header ++ rest) = some (header,(includeText header).length) := by
  have inner : ∀ c ∈ header, (!(c == '>' || c == '"')) = true := fun c member => by
    simp [(unclosed c member).1,(unclosed c member).2]
  have taken : (header ++ '>' :: rest).takeWhile (fun c => !(c == '>' || c == '"')) = header := by
    rw [List.takeWhile_append_of_pos inner]
    simp
  have dropped : (header ++ '>' :: rest).dropWhile (fun c => !(c == '>' || c == '"')) = '>' :: rest := by
    rw [List.dropWhile_append_of_pos inner]
    simp
  have shown : header.isEmpty = false := by simpa using filled
  have word (text : List Char) : ("include".toList ++ text).dropWhile Text.isBlank = "include".toList ++ text := rfl
  have starts (text : List Char) : "include".toList.isPrefixOf ("include".toList ++ text) = true := by simp
  have opening (text : List Char) : (' ' :: '<' :: text).dropWhile Text.isBlank = '<' :: text := rfl
  simp only [includeText,List.cons_append,List.append_assoc,List.nil_append,directive?,word,starts,if_true,
    List.drop_left,opening,taken,dropped,shown]
  simp only [List.length_cons,List.length_append,List.length_nil,beq_self_eq_true,Bool.true_or,Bool.not_false,
    Bool.and_true,if_true]
  congr 2
  omega

theorem headersIncluded (trimmed : Text.trim header = header) (source : List Char) :
    headers (includeText header ++ '\n' :: source) = header :: headers source := by
  have first := directiveAhead filled unclosed ('\n' :: source)
  have behind : directivesFrom 0 ('\n' :: source) = directivesFrom 0 source := rfl
  have found : directives (includeText header ++ '\n' :: source) = header :: directives source := by
    rw [includeText,List.cons_append] at first ⊢
    rw [directives,directivesFrom,first]
    simp only [List.length_cons,Nat.add_sub_cancel]
    rw [directivesSkip,List.drop_left,behind]
    rfl
  rw [headers,found,List.map_cons,trimmed]
  rfl

end Directive

/- What is asked of a header so that its line includes it and does nothing else. -/
structure Plain (header : String) : Prop where
  filled : header.toList ≠ []
  unclosed : ∀ c ∈ header.toList, c ≠ '>' ∧ c ≠ '"'
  trimmed : Text.trim header.toList = header.toList
  pairs : ['\x7b','\x7d','(',')'].any (includeText header.toList).contains = false
  entry : Text.Lacks (includeText header.toList) ["main"]
  names : ∀ p ∈ prerequisites, header ∉ p.providers →
    ∀ name ∈ p.names, usesWord (includeText header.toList) name.toList = false

def advised : List String := ["iostream","cstdio","stdio.h","vector","bits/stdc++.h"]

theorem advisedPlain {header : String} (member : header ∈ advised) : Plain header := by
  have filled : ∀ header ∈ advised, header.toList ≠ [] := by decide
  have unclosed : ∀ header ∈ advised, header.toList.all (fun c => c ≠ '>' ∧ c ≠ '"') = true := by decide
  have trimmed : ∀ header ∈ advised, Text.trim header.toList = header.toList := by decide
  have pairs : ∀ header ∈ advised, ['\x7b','\x7d','(',')'].any (includeText header.toList).contains = false := by decide
  have entry : ∀ header ∈ advised, Text.Lacks (includeText header.toList) ["main"] := by decide
  have names : ∀ header ∈ advised, ∀ p ∈ prerequisites, header ∉ p.providers →
      ∀ name ∈ p.names, usesWord (includeText header.toList) name.toList = false := by decide
  have inner := List.all_eq_true.mp (unclosed _ member)
  exact ⟨filled _ member,fun c listed => of_decide_eq_true (inner c listed),trimmed _ member,pairs _ member,
    entry _ member,names _ member⟩

def Advises (issue : Issue) (p : Prerequisite) : Prop :=
  issue.kind = .missingInclude ∧ p.label.toList <:+ issue.detail.toList
instance (issue : Issue) (p : Prerequisite) : Decidable (Advises issue p) := inferInstanceAs (Decidable (_ ∧ _))

theorem prerequisiteAdvises {source : List Char} {headers : List (List Char)} {p : Prerequisite} {issue : Issue}
    (member : issue ∈ prerequisiteIssues source headers p) : Advises issue p := by
  rw [issueIfOnly member]
  refine ⟨rfl,?_⟩
  simp only [String.toList_append]
  exact List.suffix_append _ _

section Included

variable {header : String} (plain : Plain header)
include plain

theorem prerequisiteIncluded {p : Prerequisite} (member : p ∈ prerequisites) (source : List Char)
    (others : List (List Char)) :
    prerequisiteIssues (includeText header.toList ++ '\n' :: source) (header.toList :: others) p =
      if header ∈ p.providers then [] else prerequisiteIssues source others p := by
  split
  · rename_i provider
    have provided : (p.providers.any fun name => (header.toList :: others).contains name.toList) = true :=
      List.any_eq_true.mpr ⟨header,provider,by simp⟩
    simp only [prerequisiteIssues,provided,Bool.not_true,Bool.and_false]
    rfl
  · rename_i other
    have words : ∀ p ∈ prerequisites, ∀ name ∈ p.names, '\n' ∉ name.toList ∧ name.toList ≠ [] := by decide
    have used : (p.names.filter fun name => usesWord (includeText header.toList ++ '\n' :: source) name.toList) =
        p.names.filter fun name => usesWord source name.toList := by
      refine List.filter_congr fun name named => ?_
      obtain ⟨single,filled⟩ := words p member name named
      rw [usesWordEnded single filled,plain.names p member other name named,Bool.false_or]
    have provided : (p.providers.any fun name => (header.toList :: others).contains name.toList) =
        p.providers.any fun name => others.contains name.toList := by
      rw [Bool.eq_iff_iff,List.any_eq_true,List.any_eq_true]
      refine exists_congr fun name => and_congr_right fun listed => ?_
      have apart : name.toList ≠ header.toList := fun same => other (String.toList_inj.mp same ▸ listed)
      simp [apart]
    simp only [prerequisiteIssues,used,provided]

theorem entryIncluded (source : List Char) :
    occurs entryPoint (includeText header.toList ++ '\n' :: source) = occurs entryPoint source := by
  simp only [occurs,entryPoint,List.any_cons,List.any_nil,Text.occursBehind plain.entry (Text.ledWord _ _)]

theorem issuesIncluded (source : String) : issues (includeLine header ++ source).toList =
    issueIf (!occurs entryPoint source.toList) .missingEntryPoint "Missing main function" ++
      balanceIssues source.toList ++
      (if header.toList = everythingHeader ∨ everythingHeader ∈ headers source.toList then []
        else prerequisites.flatMap fun p =>
          if header ∈ p.providers then [] else prerequisiteIssues source.toList (headers source.toList) p) := by
  rw [includeFirst,issues]
  simp only [headersIncluded plain.filled plain.unclosed plain.trimmed,entryIncluded plain,balanceBehind plain.pairs]
  have shown : issueIf (header.toList :: headers source.toList).isEmpty .missingInclude
      "Missing #include directives" = [] := rfl
  have each : prerequisites.flatMap (prerequisiteIssues (includeText header.toList ++ '\n' :: source.toList)
      (header.toList :: headers source.toList)) = prerequisites.flatMap fun p =>
        if header ∈ p.providers then [] else prerequisiteIssues source.toList (headers source.toList) p := by
    rw [List.flatMap_def,List.flatMap_def]
    exact congrArg List.flatten (List.map_congr_left fun p member => prerequisiteIncluded plain member _ _)
  rw [shown,each,List.append_nil]
  simp only [List.contains_cons,Bool.or_eq_true,beq_iff_eq,List.contains_iff_mem,@eq_comm _ everythingHeader]

theorem adviceLeft {source : String} {issue : Issue} (member : issue ∈ issues (includeLine header ++ source).toList)
    (kind : issue.kind = .missingInclude) :
    header.toList ≠ everythingHeader ∧ ∃ p ∈ prerequisites, header ∉ p.providers ∧ Advises issue p := by
  rw [issuesIncluded plain,List.mem_append,List.mem_append] at member
  rcases member with (entry | balance) | prerequisite
  · rw [issueIfKind entry] at kind
    cases kind
  · exact absurd kind (balanceOther balance)
  · split at prerequisite
    · cases prerequisite
    · rename_i needed
      obtain ⟨p,listed,here⟩ := List.mem_flatMap.mp prerequisite
      refine ⟨fun every => needed (.inl every),p,listed,?_⟩
      split at here
      · cases here
      · exact ⟨‹_›,prerequisiteAdvises here⟩

theorem fewerIncluded (source : String) :
    (issues (includeLine header ++ source).toList).Sublist (issues source.toList) := by
  have each : (prerequisites.flatMap fun p => if header ∈ p.providers then [] else
      prerequisiteIssues source.toList (headers source.toList) p).Sublist
        (prerequisites.flatMap (prerequisiteIssues source.toList (headers source.toList))) := by
    induction prerequisites with
    | nil => exact List.Sublist.refl _
    | cons p rest ih =>
      simp only [List.flatMap_cons]
      refine List.Sublist.append ?_ ih
      split
      · exact List.nil_sublist _
      · exact List.Sublist.refl _
  rw [issuesIncluded plain,issues]
  simp only [List.contains_iff_mem]
  refine List.Sublist.append ((List.sublist_append_left _ _).append (List.Sublist.refl _)) ?_
  split
  · exact List.nil_sublist _
  · rename_i needed
    rw [if_neg fun every => needed (.inr every)]
    exact each

theorem keptIncluded (source : String) :
    besides (issues (includeLine header ++ source).toList) = besides (issues source.toList) := by
  have shown : besides (issueIf (headers source.toList).isEmpty .missingInclude "Missing #include directives") = [] :=
    besidesNone fun _ => issueIfKind
  have before : besides (if (headers source.toList).contains everythingHeader then []
      else prerequisites.flatMap (prerequisiteIssues source.toList (headers source.toList))) = [] := by
    refine besidesNone fun issue member => ?_
    split at member
    · cases member
    · exact prerequisiteKind member
  have after : besides (if header.toList = everythingHeader ∨ everythingHeader ∈ headers source.toList then []
      else prerequisites.flatMap fun p =>
        if header ∈ p.providers then [] else prerequisiteIssues source.toList (headers source.toList) p) = [] := by
    refine besidesNone fun issue member => ?_
    split at member
    · cases member
    · obtain ⟨p,-,here⟩ := List.mem_flatMap.mp member
      split at here
      · cases here
      · exact issueIfKind here
  rw [issuesIncluded plain,issues]
  simp only [besidesAppend,shown,before,after,List.append_nil]

end Included

/- What the include of a header makes of the issues of a source. -/
structure Met (header : String) (before after : List Issue) : Prop where
  fewer : after.Sublist before
  kept : besides after = besides before
  included : ⟨.missingInclude,"Missing #include directives"⟩ ∉ after
  provided : ∀ p ∈ prerequisites, header ∈ p.providers → ∀ issue ∈ after, ¬ Advises issue p
  everything : header.toList = everythingHeader → ∀ issue ∈ after, issue.kind ≠ .missingInclude

theorem includeMeets {header : String} (advice : header ∈ advised) (source : String) :
    Met header (validate source .cpp) (validate (includeLine header ++ source) .cpp) := by
  have plain := advisedPlain advice
  refine ⟨fewerIncluded plain source,keptIncluded plain source,fun member => ?_,
    fun p listed provider issue member asks => ?_,fun every issue member kind => (adviceLeft plain member kind).1 every⟩
  · have none : ∀ p ∈ prerequisites, ¬ Advises ⟨.missingInclude,"Missing #include directives"⟩ p := by decide
    obtain ⟨-,p,listed,-,asks⟩ := adviceLeft plain member rfl
    exact none p listed asks
  · have apart : ∀ p ∈ prerequisites, ∀ q ∈ prerequisites, p.label.toList <:+ q.label.toList → p = q := by decide
    obtain ⟨-,q,other,missing,asks'⟩ := adviceLeft plain member asks.1
    have same : p = q := by
      rcases List.suffix_or_suffix_of_suffix asks.2 asks'.2 with into | into
      · exact apart p listed q other into
      · exact (apart q other p listed into).symm
    exact missing (same ▸ provider)

end Cpp
end Playground.Check
