import Playground.Proofs.Sql.Pieces
import Playground.Sql.Analysis

/-! How the analysis of a script is put together from its parts. Outside literals and comments a
semicolon, a comment or a line end makes the scan forget what it was in the middle of, and an issue
tells of one statement and its number. Main statement: scripts that are joined by a semicolon are
analysed one by one, and comments count as blanks. -/
namespace Playground.Sql

/- The scan is neither in a literal nor in a comment; a dash or slash may be undecided. -/
def Scan.Outside (s : Scan) : Prop := s.place = .code ∨ s.place = .dash ∨ s.place = .slash
instance (s : Scan) : Decidable s.Outside := inferInstanceAs (Decidable (_ ∨ _ ∨ _))

namespace Scan

variable {s : Scan}

theorem outsideStep (outside : s.Outside) {c : Char} (dash : s.place = .dash → c ≠ '-')
    (slash : s.place = .slash → c ≠ '*') : s.step c = s.settle.stepCode c := by
  unfold step settle
  rcases outside with place | place | place
  · simp only [place]
  · simp only [place,dash place,if_false]
  · simp only [place,slash place,if_false]

theorem semicolonStep (outside : s.Outside) : s.step ';' = s.settle.endStatement :=
  outsideStep outside (fun _ => by decide) fun _ => by decide

theorem blankStep (outside : s.Outside) : s.step ' ' = s.settle.keep ' ' .code :=
  outsideStep outside (fun _ => by decide) fun _ => by decide

theorem commentSkipped {c : List Char} (star : Bool) (place : s.place = .blockComment star)
    (endless : ¬ ['*','/'] <:+: (if star then '*' :: c else c)) : s.run (c ++ ['*','/']) = s.moveTo .code := by
  induction c generalizing s star with
  | nil => simp [run,step,place,moveTo]
  | cons d c ih =>
    have goesOn : (star && d == '/') = false := by
      refine Bool.eq_false_iff.mpr fun ends => ?_
      obtain ⟨rfl,slash⟩ := Bool.and_eq_true_iff.mp ends
      rw [beq_iff_eq.mp slash] at endless
      exact endless ⟨[],c,rfl⟩
    have stepped : s.step d = s.moveTo (.blockComment (d == '*')) := by
      simp only [step,place,goesOn]
      rfl
    have rest : ¬ ['*','/'] <:+: (if d == '*' then '*' :: c else c) := by
      refine fun found => endless (found.trans ?_)
      have tail : (if d == '*' then '*' :: c else c) <:+: d :: c := by
        by_cases first : d = '*'
        · simp [first]
        · simpa [first] using (List.suffix_cons d c).isInfix
      cases star with
      | false => exact tail
      | true => exact tail.trans (List.suffix_cons '*' (d :: c)).isInfix
    calc s.run (d :: c ++ ['*','/']) = (s.step d).run (c ++ ['*','/']) := rfl
      _ = (s.step d).moveTo .code := ih (d == '*') (by rw [stepped]; rfl) rest
      _ = s.moveTo .code := by rw [stepped]; rfl

theorem blockCommentRuns (outside : s.Outside) {c : List Char} (endless : ¬ ['*','/'] <:+: c) :
    s.run ('/' :: '*' :: c ++ ['*','/']) = s.run [' '] := by
  have slash : s.step '/' = s.settle.moveTo .slash :=
    outsideStep outside (fun _ => by decide) fun _ => by decide
  have opened : (s.step '/').step '*' = s.settle.keep ' ' (.blockComment false) := by
    rw [slash]
    rfl
  calc s.run ('/' :: '*' :: c ++ ['*','/']) = ((s.step '/').step '*').run (c ++ ['*','/']) := rfl
    _ = ((s.step '/').step '*').moveTo .code := by
      rw [opened]
      exact commentSkipped false rfl endless
    _ = s.settle.keep ' ' .code := by
      rw [opened]
      rfl
    _ = s.run [' '] := (blankStep outside).symm

theorem lineSkipped {c : List Char} (place : s.place = .lineComment) (unended : '\n' ∉ c) : s.run c = s := by
  induction c with
  | nil => rfl
  | cons d c ih =>
    obtain ⟨here,later⟩ := List.ne_and_not_mem_of_not_mem_cons unended
    have stays : s.step d = s := by simp [step,place,here.symm]
    calc s.run (d :: c) = (s.step d).run c := rfl
      _ = s.run c := by rw [stays]
      _ = s := ih later

theorem lineCommentRuns (outside : s.Outside) (undashed : s.place ≠ .dash) {c : List Char} (unended : '\n' ∉ c) :
    s.run ('-' :: '-' :: c ++ ['\n']) = s.run ['\n'] := by
  have dash : s.step '-' = s.settle.moveTo .dash :=
    outsideStep outside (fun place => absurd place undashed) fun _ => by decide
  have opened : (s.step '-').step '-' = s.settle.moveTo .lineComment := by
    rw [dash]
    rfl
  have ended : s.step '\n' = s.settle.keep '\n' .code :=
    outsideStep outside (fun _ => by decide) fun _ => by decide
  calc s.run ('-' :: '-' :: c ++ ['\n']) = (((s.step '-').step '-').run c).step '\n' := runAppend _ c ['\n']
    _ = ((s.step '-').step '-').step '\n' := by
      rw [opened,lineSkipped rfl unended]
    _ = s.settle.keep '\n' .code := by
      rw [opened]
      rfl
    _ = s.run ['\n'] := ended.symm

theorem stepDash {c : Char} (undecided : (s.step c).place = .dash) : c = '-' := by
  have code (s : Scan) (there : (s.stepCode c).place = .dash) : c = '-' := by
    unfold stepCode at there
    split at there <;> first | rfl | cases there
  unfold step at undecided
  cases place : s.place with
  | code => exact code s (by simpa only [place] using undecided)
  | dash =>
    simp only [place] at undecided
    split at undecided
    · assumption
    · exact code _ undecided
  | slash =>
    simp only [place] at undecided
    split at undecided
    · cases undecided
    · exact code _ undecided
  | literal =>
    simp only [place,keep] at undecided
    split at undecided <;> cases undecided
  | lineComment =>
    simp only [place] at undecided
    split at undecided
    · cases undecided
    · rw [place] at undecided
      cases undecided
  | blockComment star =>
    simp only [place,moveTo] at undecided
    split at undecided <;> cases undecided

theorem runDash {text : List Char} (undecided : (({} : Scan).run text).place = .dash) :
    text.getLast? = some '-' := by
  rcases List.eq_nil_or_concat text with rfl | ⟨front,c,rfl⟩
  · cases undecided
  · rw [List.concat_eq_append,runAppend] at undecided
    rw [List.concat_eq_append,List.getLast?_concat,stepDash undecided]

end Scan

theorem statementsSame {front front' : List Char} (same : ({} : Scan).run front = ({} : Scan).run front')
    (rest : List Char) : statements (front ++ rest) = statements (front' ++ rest) := by
  rw [statements,statements,Scan.runAppend,Scan.runAppend,same]

theorem analyzeSame {source source' : List Char} (same : statements source = statements source') :
    analyze source = analyze source' := by
  rw [analyze,analyze,same]

theorem analyzeReplaced {a comment blank : List Char}
    (same : (({} : Scan).run a).run comment = (({} : Scan).run a).run blank) (b : List Char) :
    analyze (a ++ comment ++ b) = analyze (a ++ blank ++ b) := by
  refine analyzeSame (statementsSame ?_ b)
  rw [Scan.runAppend,Scan.runAppend,same]

theorem blockCommentBlank {a : List Char} (outside : (({} : Scan).run a).Outside) {c : List Char}
    (endless : ¬ ['*','/'] <:+: c) (b : List Char) :
    analyze (a ++ '/' :: '*' :: c ++ '*' :: '/' :: b) = analyze (a ++ ' ' :: b) := by
  simpa using analyzeReplaced (Scan.blockCommentRuns outside endless) b

theorem lineCommentEnd {a : List Char} (outside : (({} : Scan).run a).Outside) (undashed : a.getLast? ≠ some '-')
    {c : List Char} (unended : '\n' ∉ c) (b : List Char) :
    analyze (a ++ '-' :: '-' :: c ++ '\n' :: b) = analyze (a ++ '\n' :: b) := by
  have place : (({} : Scan).run a).place ≠ .dash := fun undecided => undashed (Scan.runDash undecided)
  simpa using analyzeReplaced (Scan.lineCommentRuns outside place unended) b

theorem statementsJoined {a : List Char} (outside : (({} : Scan).run a).Outside) (b : List Char) :
    statements (a ++ ';' :: b) = statements a ++ statements b := by
  have joined : (({} : Scan).run (a ++ ';' :: b)).pieces =
      (({} : Scan).run a).pieces ++ (({} : Scan).run b).pieces := by
    calc (({} : Scan).run (a ++ ';' :: b)).pieces = (((({} : Scan).run a).step ';').run b).pieces :=
          congrArg Scan.pieces (Scan.runAppend {} a (';' :: b))
      _ = ((({} : Scan).run a).settle.endStatement.run b).pieces := by rw [Scan.semicolonStep outside]
      _ = (({} : Scan).run a).pieces ++ ({} : Scan).extend (piecesFrom .code b) := Scan.runPieces _ b
      _ = _ := by rw [← Scan.runPieces {} b]
  have whole := congrArg unblank joined
  rw [unblankAppend] at whole
  exact whole

/-! ## Issues -/

def missingFrom (count number : Nat) : String :=
  if count > 1 then s!"SELECT statement missing FROM clause (statement {number})"
  else "SELECT statement missing FROM clause"

def noCommand : String := "No valid SQL command detected"

def Analysis.Reports (analysis : Analysis) (index : Nat) : Prop :=
  index < analysis.operations.length ∧ missingFrom analysis.operations.length (index + 1) ∈ analysis.issues
instance (analysis : Analysis) (index : Nat) : Decidable (analysis.Reports index) :=
  inferInstanceAs (Decidable (_ ∧ _))

theorem missingNumber {count n m : Nat} (many : count > 1) (same : missingFrom count n = missingFrom count m) :
    n = m := by
  simp only [missingFrom,many,if_true] at same
  have texts := congrArg String.toList same
  simp only [String.toList_append,List.append_cancel_left_eq,List.append_cancel_right_eq] at texts
  have digits : Nat.toDigits 10 n = Nat.toDigits 10 m := by
    rw [← Nat.toList_repr,← Nat.toList_repr]
    exact texts
  have read (k : Nat) : Nat.ofDigitChars 10 (Nat.toDigits 10 k) 0 = k :=
    Nat.ofDigitChars_toDigits (by decide) (by decide)
  rw [← read n,digits,read]

theorem missingNotNone (count number : Nat) : missingFrom count number ≠ noCommand := by
  intro same
  have heads := congrArg (·.toList.head?) same
  unfold missingFrom at heads
  split at heads
  · simp only [String.toList_append,List.head?_append] at heads
    cases heads
  · cases heads

theorem memFromIssues (statements : List (List Char)) (issue : String) :
    issue ∈ fromIssues statements ↔ ∃ index statement, statements[index]? = some statement ∧
      missesFrom statement = true ∧ issue = missingFrom statements.length (index + 1) := by
  simp only [fromIssues,List.mem_filterMap,Prod.exists,List.mk_mem_zipIdx_iff_le_and_getElem?_sub,
    Option.ite_none_right_eq_some,Option.some.injEq]
  constructor
  · rintro ⟨statement,number,⟨first,found⟩,misses,text⟩
    refine ⟨number - 1,statement,found,misses,?_⟩
    rw [Nat.sub_add_cancel first,← text,missingFrom]
  · rintro ⟨index,statement,found,misses,text⟩
    refine ⟨statement,index + 1,⟨Nat.le_add_left 1 index,found⟩,misses,?_⟩
    rw [text,missingFrom]

theorem noCommandIff (source : List Char) :
    noCommand ∈ (analyze source).issues ↔ ∀ statement ∈ statements source, operation statement = .unknown := by
  have absent : noCommand ∉ fromIssues (statements source) := by
    intro found
    obtain ⟨index,_,_,_,text⟩ := (memFromIssues _ _).mp found
    exact missingNotNone _ _ text.symm
  have all : ((statements source).map operation).all (· == .unknown) = true ↔
      ∀ statement ∈ statements source, operation statement = .unknown := by simp
  simp only [analyze]
  rw [← all]
  split
  · rename_i unknown
    exact iff_of_true List.mem_cons_self unknown
  · rename_i known
    exact iff_of_false absent known

theorem memIssues (source : List Char) (count number : Nat) :
    missingFrom count number ∈ (analyze source).issues ↔ missingFrom count number ∈ fromIssues (statements source) := by
  simp only [analyze]
  split
  · exact List.mem_cons.trans (or_iff_right (missingNotNone count number))
  · exact Iff.rfl

theorem countOperations (source : List Char) : (analyze source).operations.length = (statements source).length :=
  List.length_map _

theorem reportsIff (source : List Char) (index : Nat) :
    (analyze source).Reports index ↔
      ∃ statement, (statements source)[index]? = some statement ∧ missesFrom statement = true := by
  rw [Analysis.Reports,countOperations,memIssues,memFromIssues]
  constructor
  · rintro ⟨inside,other,statement,found,misses,same⟩
    have bound : other < (statements source).length := (List.getElem?_eq_some_iff.mp found).1
    have agree : other = index := by
      by_cases many : (statements source).length > 1
      · have numbers := missingNumber many same
        omega
      · omega
    exact ⟨statement,agree ▸ found,misses⟩
  · rintro ⟨statement,found,misses⟩
    exact ⟨(List.getElem?_eq_some_iff.mp found).1,index,statement,found,misses,rfl⟩

/- The second script is numbered on from the first, and a comment is as good as a blank or as its line end. -/
theorem analysisComposes (a b : List Char) (outside : (({} : Scan).run a).Outside) :
    let joined := analyze (a ++ ';' :: b)
    let first := (analyze a).operations.length
    joined.operations = (analyze a).operations ++ (analyze b).operations ∧
    (∀ index < first, joined.Reports index ↔ (analyze a).Reports index) ∧
    (∀ index, joined.Reports (first + index) ↔ (analyze b).Reports index) ∧
    (∀ c, ¬ ['*','/'] <:+: c →
      analyze (a ++ '/' :: '*' :: c ++ '*' :: '/' :: b) = analyze (a ++ ' ' :: b)) ∧
    (∀ c, '\n' ∉ c → a.getLast? ≠ some '-' →
      analyze (a ++ '-' :: '-' :: c ++ '\n' :: b) = analyze (a ++ '\n' :: b)) := by
  intro joined first
  have parts : statements (a ++ ';' :: b) = statements a ++ statements b := statementsJoined outside b
  have before : first = (statements a).length := countOperations a
  refine ⟨?_,fun index inside => ?_,fun index => ?_,fun c endless => blockCommentBlank outside endless b,
    fun c unended undashed => lineCommentEnd outside undashed unended b⟩
  · simp only [joined,analyze,parts,List.map_append]
  · rw [reportsIff,reportsIff,parts,List.getElem?_append_left (before ▸ inside)]
  · rw [reportsIff,reportsIff,parts,before,List.getElem?_append_right (Nat.le_add_right _ _),
      Nat.add_sub_cancel_left]

def mixed : List Char := "SELECT 'a;-- /*' /* ' */ /".toList

def plain : List Char := "SELECT 1 FROM t; SELECT 2".toList

theorem mixedMarksCompose :
    (({} : Scan).run mixed).Outside ∧ (analyze (mixed ++ ';' :: plain)).operations = [.select,.select,.select] ∧
      (analyze (mixed ++ ';' :: plain)).Reports 0 ∧ (analyze (mixed ++ ';' :: plain)).Reports 2 := by
  have outside : (({} : Scan).run mixed).Outside := by decide +kernel
  obtain ⟨operations,first,second,-,-⟩ := analysisComposes mixed plain outside
  have one : (analyze mixed).operations = [.select] := by decide +kernel
  have two : (analyze plain).operations = [.select,.select] := by decide +kernel
  rw [one] at first second operations
  rw [two] at operations
  exact ⟨outside,operations,(first 0 (by decide)).mpr (by decide +kernel),(second 1).mpr (by decide +kernel)⟩

end Playground.Sql
