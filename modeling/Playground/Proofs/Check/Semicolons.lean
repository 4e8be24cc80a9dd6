import Playground.Proofs.Check.Balance
import Playground.Proofs.Text.Lines
import Playground.Proofs.Text.Trimming

/-! Which lines are cited for a missing semicolon. An issue gives its line by number, and the scan
carries nothing from line to line but whether it passes over a block comment. Main statement: it does
so from a line that begins with the opening mark to the first line that has the closing one. -/
namespace Playground.Check.Java
open Text (trim)

def lineIssue (number : Nat) (line : List Char) : Issue :=
  ⟨.missingSemicolon,s!"Missing semicolon at line {number}: {String.ofList line}"⟩

theorem lineIssueNumber {n m : Nat} {line other : List Char} (same : lineIssue n line = lineIssue m other) : n = m := by
  have texts := congrArg (·.detail.toList) same
  simp only [lineIssue,String.toList_append,List.append_assoc,List.append_cancel_left_eq] at texts
  have told (k : Nat) (rest : List Char) :
      ((toString k).toList ++ ((toString ": ").toList ++ rest)).takeWhile Char.isDigit = Nat.toDigits 10 k := by
    have digits : ∀ c ∈ (toString k).toList, c.isDigit = true := fun c member =>
      Nat.isDigit_of_mem_toDigits (by decide) (by decide) (Nat.toList_repr (n := k) ▸ member)
    have colon : ((toString ": ").toList ++ rest).takeWhile Char.isDigit = [] := by
      rw [show (toString ": ").toList = [':',' '] from rfl]
      rfl
    rw [List.takeWhile_append_of_pos digits,colon,List.append_nil]
    exact Nat.toList_repr
  have numerals : Nat.toDigits 10 n = Nat.toDigits 10 m := by
    rw [← told n,texts,told m]
  have read (k : Nat) : Nat.ofDigitChars 10 (Nat.toDigits 10 k) 0 = k :=
    Nat.ofDigitChars_toDigits (by decide) (by decide)
  rw [← read n,numerals,read]

def Begins (line : List Char) : Prop := ['/','*'] <+: trim line
instance (line : List Char) : Decidable (Begins line) := inferInstanceAs (Decidable (_ <+: _))

def Closes (line : List Char) : Prop := ['*','/'] <:+: line
instance (line : List Char) : Decidable (Closes line) := inferInstanceAs (Decidable (_ <:+: _))

/- A line that is taken for a statement whose end is missing, with the lines after it. -/
def Unended (line : List Char) (later : List (List Char)) : Prop :=
  ¬ Begins line ∧ isCommentLine (trim line) = false ∧ lacksSemicolon (trim line) later = true
instance (line : List Char) (later : List (List Char)) : Decidable (Unended line later) :=
  inferInstanceAs (Decidable (_ ∧ _ ∧ _))

def passes (inComment : Bool) (line : List Char) : Bool := (inComment || decide (Begins line)) && !decide (Closes line)

theorem closesTrim (line : List Char) : Text.contains ['*','/'] (trim line) = decide (Closes line) := by
  have visible : ∀ c ∈ ['*','/'], Text.isBlank c = false := by
    rw [List.forall_mem_cons,List.forall_mem_singleton]
    decide
  rw [Bool.eq_iff_iff,Text.containsIff,Text.infixTrimmed visible (by decide),decide_eq_true_iff]
  rfl

theorem semicolonCons (number : Nat) (inComment : Bool) (line : List Char) (later : List (List Char)) :
    semicolonIssues number inComment (line :: later) =
      (if inComment = false ∧ Unended line later then [lineIssue number (trim line)] else []) ++
        semicolonIssues (number + 1) (passes inComment line) later := by
  rw [semicolonIssues]
  simp only [closesTrim]
  cases inComment with
  | true => simp [passes]
  | false =>
    by_cases begins : Begins line
    · have mark : ['/','*'].isPrefixOf (trim line) = true := List.isPrefixOf_iff_prefix.mpr begins
      simp [passes,mark,begins,Unended]
    · have mark : ['/','*'].isPrefixOf (trim line) = false :=
        Bool.eq_false_iff.mpr fun found => begins (List.isPrefixOf_iff_prefix.mp found)
      cases comment : isCommentLine (trim line) with
      | true => simp [passes,mark,begins,Unended,comment]
      | false => simp [passes,mark,begins,Unended,comment,issueIf,lineIssue]

def passing (lines : List (List Char)) (count : Nat) : Bool := (lines.take count).foldl passes false

theorem memSemicolon {issue : Issue} (number : Nat) (inComment : Bool) (lines : List (List Char)) :
    issue ∈ semicolonIssues number inComment lines ↔ ∃ index line, lines[index]? = some line ∧
      (lines.take index).foldl passes inComment = false ∧ Unended line (lines.drop (index + 1)) ∧
      issue = lineIssue (number + index) (trim line) := by
  induction lines generalizing number inComment with
  | nil => simp [semicolonIssues]
  | cons line later ih =>
    rw [semicolonCons,List.mem_append,ih]
    constructor
    · rintro (here | ⟨index,other,found,outside,unended,same⟩)
      · split at here
        · rename_i cited
          exact ⟨0,line,rfl,cited.1,cited.2,List.mem_singleton.mp here⟩
        · cases here
      · exact ⟨index + 1,other,found,outside,unended,by rw [same,Nat.add_assoc,Nat.add_comm 1]⟩
    · rintro ⟨index,other,found,outside,unended,same⟩
      cases index with
      | zero =>
        cases Option.some.inj found
        exact .inl (by rw [if_pos ⟨outside,unended⟩,same]; exact List.mem_singleton_self _)
      | succ index =>
        exact .inr ⟨index,other,found,outside,unended,by rw [same,Nat.add_assoc,Nat.add_comm 1]⟩

def Cites (source : String) (number : Nat) : Prop := ∃ line, lineIssue number line ∈ validate source .java

theorem memJava {source : String} {issue : Issue} (kind : issue.kind = .missingSemicolon) :
    issue ∈ validate source .java ↔ issue ∈ semicolonIssues 1 false (Text.lines source.toList) := by
  have other {condition kind' detail} (member : issue ∈ issueIf condition kind' detail) : kind' = .missingSemicolon :=
    (issueIfKind member).symm.trans kind
  simp only [validate,issues,List.mem_append]
  constructor
  · rintro ((((declaration | entryPoint) | balance) | imports) | semicolon)
    · cases other declaration
    · cases other entryPoint
    · rcases List.mem_append.mp balance with braces | parens
      · cases other braces
      · cases other parens
    · rw [importKind imports] at kind
      cases kind
    · exact semicolon
  · exact .inr

theorem citesIff (source : String) (index : Nat) :
    let lines := Text.lines source.toList
    Cites source (index + 1) ↔ ∃ line, lines[index]? = some line ∧ passing lines index = false ∧
      Unended line (lines.drop (index + 1)) := by
  intro lines
  have member (line : List Char) : lineIssue (index + 1) line ∈ validate source .java ↔ _ :=
    (memJava rfl).trans (memSemicolon 1 false lines)
  constructor
  · rintro ⟨text,cited⟩
    obtain ⟨other,line,found,outside,unended,same⟩ := (member text).mp cited
    have there : other = index := by
      have numbers := lineIssueNumber same
      omega
    subst there
    exact ⟨line,found,outside,unended⟩
  · rintro ⟨line,found,outside,unended⟩
    exact ⟨trim line,(member _).mpr ⟨index,line,found,outside,unended,by rw [Nat.add_comm]⟩⟩

/-! ## The comments that the scan passes over -/

def BeginsAt (lines : List (List Char)) (index : Nat) : Prop := ∃ line, lines[index]? = some line ∧ Begins line

def ClosesAt (lines : List (List Char)) (index : Nat) : Prop := ∃ line, lines[index]? = some line ∧ Closes line

theorem passingSucc {lines : List (List Char)} {index : Nat} {line : List Char} (found : lines[index]? = some line) :
    passing lines (index + 1) = passes (passing lines index) line := by
  rw [passing,List.take_add_one,found,Option.toList_some,List.foldl_append]
  rfl

/- By induction on the lines: each one either goes on with what is passed over or begins it. -/
theorem passingIff {lines : List (List Char)} {count : Nat} (bound : count ≤ lines.length) :
    passing lines count = true ↔
      ∃ first < count, BeginsAt lines first ∧ ∀ k, first ≤ k → k < count → ¬ ClosesAt lines k := by
  induction count with
  | zero => simp [passing]
  | succ count ih =>
    obtain ⟨line,found⟩ : ∃ line, lines[count]? = some line := ⟨_,List.getElem?_eq_getElem bound⟩
    have begins : BeginsAt lines count ↔ Begins line := by simp [BeginsAt,found]
    have closes : ClosesAt lines count ↔ Closes line := by simp [ClosesAt,found]
    rw [passingSucc found,passes,Bool.and_eq_true,Bool.or_eq_true,ih (Nat.le_of_succ_le bound)]
    simp only [Bool.not_eq_true',decide_eq_true_iff,decide_eq_false_iff_not]
    rw [← begins,← closes]
    constructor
    · rintro ⟨⟨first,before,begun,unclosed⟩ | begun,here⟩
      · refine ⟨first,Nat.lt_succ_of_lt before,begun,fun k from' till => ?_⟩
        rcases Nat.lt_succ_iff_lt_or_eq.mp till with earlier | rfl
        · exact unclosed k from' earlier
        · exact here
      · refine ⟨count,Nat.lt_succ_self count,begun,fun k from' till => ?_⟩
        have last : k = count := Nat.le_antisymm (Nat.le_of_lt_succ till) from'
        exact last ▸ here
    · rintro ⟨first,before,begun,unclosed⟩
      refine ⟨?_,unclosed count (Nat.le_of_lt_succ before) (Nat.lt_succ_self count)⟩
      rcases Nat.lt_succ_iff_lt_or_eq.mp before with earlier | rfl
      · exact .inl ⟨first,earlier,begun,fun k from' till => unclosed k from' (Nat.lt_succ_of_lt till)⟩
      · exact .inr begun

end Playground.Check.Java
