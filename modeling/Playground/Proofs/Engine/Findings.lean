import Playground.Proofs.Check.Balance
import Playground.Proofs.Engine.Submissions

/-! What becomes of a source with issues. It is never handed on, whatever the collaborators are. Main
statement: pairs that are not balanced are told of by their exact counts, so the order of the
characters does not matter, and the run ends in a warning that shows these texts. -/
namespace Playground.Engine
open Playground.Check (Battery Issue IssueKind Unbalanced ofKind validate)

variable {W H : Type}

theorem flaggedRuns (c : Collaborators W H) (request : Submission) (battery : Battery request.language)
    (flagged : validate request.source request.language ≠ []) (s : Session W H) :
    let report := ((runTagged c request).run s).1
    report.status = .warning ∧ ∀ issue ∈ validate request.source request.language,
      ⟨.warning,issue.detail⟩ ∈ report.diagnostics := by
  intro report
  have strategy : Strategy.ofLanguage request.language = .heuristicRemote := by
    rcases battery with language | language <;> rw [language] <;> rfl
  have checked : (runStrategy c request : Run W H Report) =
      pure (issuesReport request.language (validate request.source request.language)) := by
    unfold runStrategy runChecked
    rw [strategy]
    cases found : validate request.source request.language with
    | nil => exact absurd found flagged
    | cons issue issues => rfl
  have shown : report.diagnostics =
      (issuesReport request.language (validate request.source request.language)).diagnostics := by
    simp only [report,runTagged,checked]
    rfl
  refine ⟨by simp only [report,runTagged,checked]; rfl,fun issue member => ?_⟩
  rw [shown]
  simp only [issuesReport,Report.withMetadata,Report.withDiagnostic,Report.withDiagnostics]
  exact List.mem_append_left _ (List.mem_append_right _ (List.mem_map_of_mem member))

theorem flaggedAnswered (c : Collaborators W H) {source name : String} {language : Language} (stdin : Option String)
    (battery : Battery language) (parsed : Language.parse? name = some language)
    (code : Text.isBlankString source = false) (flagged : validate source language ≠ []) (s : Session W H) :
    let report := ((run c source name stdin).run s).1
    (Unanswerable c source language stdin → report = needsInputReport language) ∧
    (¬ Unanswerable c source language stdin → report.status = .warning ∧
      ∀ issue ∈ validate source language, ⟨.warning,issue.detail⟩ ∈ report.diagnostics) := by
  intro report
  have asked : report = ((runRequest c ⟨source,language,stdin⟩).run s).1 := by simp only [report,run,parsed]
  rw [asked]
  unfold runRequest
  simp only [code]
  cases lacks : lacksInput c ⟨source,language,stdin⟩ with
  | false =>
    have answerable : ¬ Unanswerable c source language stdin := fun unanswerable => by
      obtain ⟨absent,solicits,reads,-⟩ := unanswerable
      rw [(lacksInputIff c _).mpr ⟨absent,solicits,reads⟩] at lacks
      cases lacks
    exact ⟨fun unanswerable => absurd unanswerable answerable,fun _ => flaggedRuns c _ battery flagged s⟩
  | true =>
    obtain ⟨absent,solicits,reads⟩ := (lacksInputIff c _).mp lacks
    cases provider : c.requestInput with
    | none => exact ⟨fun _ => rfl,fun answerable => absurd ⟨absent,solicits,reads,provider⟩ answerable⟩
    | some ask =>
      have answerable : ¬ Unanswerable c source language stdin := fun unanswerable => by
        obtain ⟨-,-,-,unwired⟩ := unanswerable
        rw [provider] at unwired
        cases unwired
      refine ⟨fun unanswerable => absurd unanswerable answerable,fun _ => ?_⟩
      exact flaggedRuns c ⟨source,language,_⟩ battery flagged _

/- The number of one bracket and that of the other decide; the text cites both. -/
theorem unbalancedPairsReported (source : String) {language : Language} (battery : Battery language) :
    let text := source.toList
    let issues := validate source language
    let lefts := text.count '\x7b'
    let rights := text.count '\x7d'
    let opened := text.count '('
    let closed := text.count ')'
    (ofKind .unbalancedBraces issues = if lefts = rights then [] else
      [⟨.unbalancedBraces,s!"Unbalanced braces: {lefts} open, {rights} close"⟩]) ∧
    (ofKind .unbalancedParens issues = if opened = closed then [] else
      [⟨.unbalancedParens,s!"Unbalanced parentheses: {opened} open, {closed} close"⟩]) ∧
    (∀ permuted : String, permuted.toList.Perm text →
      ∀ kind ∈ [IssueKind.unbalancedBraces,.unbalancedParens],
        ofKind kind (validate permuted language) = ofKind kind issues) ∧
    (Unbalanced text → ∀ {W H : Type} (c : Collaborators W H) (name : String) (stdin : Option String) (s : Session W H),
      Language.parse? name = some language →
      let report := ((run c source name stdin).run s).1
      (Unanswerable c source language stdin → report = needsInputReport language) ∧
      (¬ Unanswerable c source language stdin → report.status = .warning ∧
        ∀ issue ∈ issues, ⟨.warning,issue.detail⟩ ∈ report.diagnostics)) := by
  intro text issues lefts rights opened closed
  have counted (kind : IssueKind) (label : String) (opening closing : Char) :
      Check.pairIssues text kind label opening closing = if text.count opening = text.count closing then [] else
        [⟨kind,s!"Unbalanced {label}: {text.count opening} open, {text.count closing} close"⟩] := by
    simp [Check.pairIssues,Check.issueIf]
  refine ⟨?_,?_,fun permuted same kind member => ?_,fun unbalanced W H c name stdin s parsed => ?_⟩
  · rw [Check.bracesOfKind battery,counted]
    rfl
  · rw [Check.parensOfKind battery,counted]
    rfl
  · have pair : kind = .unbalancedBraces ∨ kind = .unbalancedParens := by simpa using member
    have counts (c : Char) : permuted.toList.count c = text.count c := same.count_eq c
    rw [Check.balanceOfKind battery permuted pair,Check.balanceOfKind battery source pair]
    simp only [Check.balanceIssues,Check.pairIssues,counts]
    rfl
  · exact flaggedAnswered c stdin battery parsed (Check.unbalancedCode unbalanced)
      (Check.unbalancedFlagged battery unbalanced) s

def unclosed : String := "#include <cstdio>\nint main() \x7b if (1) \x7b return 0; \x7d"

theorem unclosedBlockWarned : Battery .cpp ∧
    ofKind .unbalancedBraces (validate unclosed .cpp) =
      [⟨.unbalancedBraces,"Unbalanced braces: 2 open, 1 close"⟩] ∧
    ofKind .unbalancedParens (validate unclosed .cpp) = [] ∧
    ((run remoteOnly unclosed "cpp" none).run { world := () }).1.status = .warning := by
  have battery : Battery .cpp := .inr rfl
  obtain ⟨braces,parens,-,reported⟩ := unbalancedPairsReported unclosed battery
  have unbalanced : Unbalanced unclosed.toList := by decide
  have answerable : ¬ Unanswerable remoteOnly unclosed .cpp none := fun ⟨_,_,_,unwired⟩ => by cases unwired
  obtain ⟨-,answered⟩ := reported unbalanced remoteOnly "cpp" none { world := () } (by decide)
  exact ⟨battery,braces.trans (by decide),parens.trans (by decide),(answered answerable).1⟩

end Playground.Engine
