import Playground.Check

/-! Which issues tell of pairs that are not balanced. Of all checks of a source only the counts of its
characters give issues of these two kinds. Main statement: in every battery there is one issue of a
kind where its counts differ, and none where they agree. -/
namespace Playground.Check

def ofKind (kind : IssueKind) (issues : List Issue) : List Issue := issues.filter fun issue => issue.kind = kind

theorem ofKindAppend (kind : IssueKind) (first last : List Issue) :
    ofKind kind (first ++ last) = ofKind kind first ++ ofKind kind last := List.filter_append ..

theorem ofKindOther {kind : IssueKind} {issues : List Issue} (other : ∀ issue ∈ issues, issue.kind ≠ kind) :
    ofKind kind issues = [] := by
  simpa [ofKind,List.filter_eq_nil_iff] using other

theorem ofKindSame {kind : IssueKind} {issues : List Issue} (same : ∀ issue ∈ issues, issue.kind = kind) :
    ofKind kind issues = issues := by
  simpa [ofKind,List.filter_eq_self] using same

section Single

variable {condition : Bool} {kind : IssueKind} {detail : String} {issue : Issue}

theorem issueIfOnly (member : issue ∈ issueIf condition kind detail) : issue = ⟨kind,detail⟩ := by
  unfold issueIf at member
  split at member
  · exact List.mem_singleton.mp member
  · cases member

theorem issueIfKind (member : issue ∈ issueIf condition kind detail) : issue.kind = kind := by
  rw [issueIfOnly member]

end Single

theorem pairKind {source : List Char} {kind : IssueKind} {label : String} {opening closing : Char} {issue : Issue}
    (member : issue ∈ pairIssues source kind label opening closing) : issue.kind = kind := issueIfKind member

theorem semicolonKind {number : Nat} {inComment : Bool} {lines : List (List Char)} {issue : Issue}
    (member : issue ∈ Java.semicolonIssues number inComment lines) : issue.kind = .missingSemicolon := by
  induction lines generalizing number inComment with
  | nil => cases member
  | cons line later ih =>
    unfold Java.semicolonIssues at member
    simp only at member
    split at member
    · exact ih member
    · split at member
      · exact ih member
      · split at member
        · exact ih member
        · rcases List.mem_append.mp member with here | further
          · exact issueIfKind here
          · exact ih further

theorem importKind {source : List Char} {issue : Issue} (member : issue ∈ Java.importIssues source) :
    issue.kind = .missingInclude := by
  obtain ⟨name,-,here⟩ := List.mem_flatMap.mp member
  exact issueIfKind here

theorem prerequisiteKind {source : List Char} {headers : List (List Char)} {issue : Issue}
    (member : issue ∈ Cpp.prerequisites.flatMap (Cpp.prerequisiteIssues source headers)) :
    issue.kind = .missingInclude := by
  obtain ⟨p,-,here⟩ := List.mem_flatMap.mp member
  exact issueIfKind here

def Battery (language : Language) : Prop := language = .java ∨ language = .cpp

/- In every battery the pairs are checked once, and all else gives issues of other kinds. -/
theorem balanceAmid {language : Language} (battery : Battery language) (source : String) :
    ∃ first last, validate source language = first ++ balanceIssues source.toList ++ last ∧
      ∀ issue ∈ first ++ last, issue.kind ≠ .unbalancedBraces ∧ issue.kind ≠ .unbalancedParens := by
  rcases battery with rfl | rfl
  · refine ⟨_,Java.importIssues source.toList ++ Java.semicolonIssues 1 false (Text.lines source.toList),
      by rw [validate,Java.issues,List.append_assoc,List.append_assoc],fun issue member => ?_⟩
    simp only [List.mem_append] at member
    rcases member with (declaration | entryPoint) | imports | semicolon
    · simp [issueIfKind declaration]
    · simp [issueIfKind entryPoint]
    · simp [importKind imports]
    · simp [semicolonKind semicolon]
  · refine ⟨_,_,rfl,fun issue member => ?_⟩
    simp only [List.mem_append] at member
    rcases member with (entryPoint | directives) | prerequisites
    · simp [issueIfKind entryPoint]
    · simp [issueIfKind directives]
    · split at prerequisites
      · cases prerequisites
      · simp [prerequisiteKind prerequisites]

theorem balanceOfKind {language : Language} (battery : Battery language) (source : String) {kind : IssueKind}
    (pair : kind = .unbalancedBraces ∨ kind = .unbalancedParens) :
    ofKind kind (validate source language) = ofKind kind (balanceIssues source.toList) := by
  obtain ⟨first,last,parts,others⟩ := balanceAmid battery source
  have other (issue : Issue) (member : issue ∈ first ++ last) : issue.kind ≠ kind := by
    rcases pair with rfl | rfl
    · exact (others issue member).1
    · exact (others issue member).2
  have before := ofKindOther fun issue member => other issue (List.mem_append_left last member)
  have after := ofKindOther fun issue member => other issue (List.mem_append_right first member)
  rw [parts,ofKindAppend,ofKindAppend,before,after,List.nil_append,List.append_nil]

theorem bracesOfKind {language : Language} (battery : Battery language) (source : String) :
    ofKind .unbalancedBraces (validate source language) =
      pairIssues source.toList .unbalancedBraces "braces" '\x7b' '\x7d' := by
  have parens : ofKind .unbalancedBraces (pairIssues source.toList .unbalancedParens "parentheses" '(' ')') = [] :=
    ofKindOther fun issue member => by simp [pairKind member]
  rw [balanceOfKind battery source (.inl rfl),balanceIssues,ofKindAppend,ofKindSame fun _ => pairKind,parens,
    List.append_nil]

theorem parensOfKind {language : Language} (battery : Battery language) (source : String) :
    ofKind .unbalancedParens (validate source language) =
      pairIssues source.toList .unbalancedParens "parentheses" '(' ')' := by
  have braces : ofKind .unbalancedParens (pairIssues source.toList .unbalancedBraces "braces" '\x7b' '\x7d') = [] :=
    ofKindOther fun issue member => by simp [pairKind member]
  rw [balanceOfKind battery source (.inr rfl),balanceIssues,ofKindAppend,braces,ofKindSame fun _ => pairKind,
    List.nil_append]

def Unbalanced (source : List Char) : Prop :=
  source.count '\x7b' ≠ source.count '\x7d' ∨ source.count '(' ≠ source.count ')'
instance (source : List Char) : Decidable (Unbalanced source) := inferInstanceAs (Decidable (_ ∨ _))

theorem unbalancedFlagged {language : Language} (battery : Battery language) {source : String}
    (unbalanced : Unbalanced source.toList) : validate source language ≠ [] := by
  intro none
  have braces := bracesOfKind battery source
  have parens := parensOfKind battery source
  rw [none] at braces parens
  rcases unbalanced with odd | odd
  · simp [pairIssues,issueIf,odd,ofKind] at braces
  · simp [pairIssues,issueIf,odd,ofKind] at parens

theorem unbalancedCode {source : String} (unbalanced : Unbalanced source.toList) :
    Text.isBlankString source = false := by
  refine Bool.eq_false_iff.mpr fun blank => ?_
  have absent (c : Char) (visible : Text.isBlank c = false) : source.toList.count c = 0 :=
    List.count_eq_zero.mpr fun member => by
      rw [List.all_eq_true.mp blank c member] at visible
      cases visible
  rcases unbalanced with odd | odd
  · exact odd (by rw [absent _ (by decide),absent _ (by decide)])
  · exact odd (by rw [absent _ (by decide),absent _ (by decide)])

theorem balanceBehind {line : List Char} (unpaired : ['\x7b','\x7d','(',')'].any line.contains = false)
    (rest : List Char) :
    balanceIssues (line ++ '\n' :: rest) = balanceIssues rest := by
  have count (c : Char) (member : c ∈ ['\x7b','\x7d','(',')']) : (line ++ '\n' :: rest).count c = rest.count c := by
    have absent : line.count c = 0 := List.count_eq_zero.mpr (by simpa using List.any_eq_false.mp unpaired c member)
    have other : '\n' ≠ c := fun same => by
      rw [← same] at member
      exact absurd member (by decide)
    rw [List.count_append,absent,Nat.zero_add,List.count_cons_of_ne other]
  simp [balanceIssues,pairIssues,count]

end Playground.Check
