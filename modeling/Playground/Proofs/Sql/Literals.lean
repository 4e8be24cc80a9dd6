import Playground.Proofs.Sql.Keywords

/-! What the content of a literal does to the analysis. The scan takes a literal into one statement,
and the operation of that is settled before the literal; but the word that a query needs is looked for
in its literals as well. Main statement: two contents are alike unless just one of them has that word
and the statement lacks it elsewhere. -/
namespace Playground.Sql
open Text (isBlank isIdentifierChar)

def quoted (content : List Char) : List Char := '\'' :: content ++ ['\'']

def endedIn (text : List Char) : List (List Char) := unblank (({} : Scan).run text).finished.reverse

namespace Scan

variable {s : Scan} {content : List Char}

theorem contentRuns (place : s.place = .literal) (unquoted : '\'' ∉ content) :
    s.run content = { s with current := content.reverse ++ s.current } := by
  induction content generalizing s with
  | nil => rfl
  | cons c content ih =>
    obtain ⟨here,later⟩ := List.ne_and_not_mem_of_not_mem_cons unquoted
    have stepped : s.step c = s.keep c .literal := by simp [step,place,here.symm]
    calc s.run (c :: content) = (s.keep c .literal).run content := by rw [← stepped]; rfl
      _ = { s.keep c .literal with current := content.reverse ++ (s.keep c .literal).current } := ih rfl later
      _ = _ := by simp [keep,place]

theorem literalRuns (outside : s.Outside) (unquoted : '\'' ∉ content) : s.run (quoted content) =
    { place := .code, current := (quoted content).reverse ++ s.settle.current, finished := s.settle.finished } := by
  have opened : s.step '\'' = s.settle.keep '\'' .literal :=
    outsideStep outside (fun _ => by decide) fun _ => by decide
  calc s.run (quoted content) = ((s.step '\'').run content).step '\'' := runAppend _ content ['\'']
    _ = ({ s.settle.keep '\'' .literal with
          current := content.reverse ++ (s.settle.keep '\'' .literal).current } : Scan).step '\'' := by
      rw [opened,contentRuns rfl unquoted]
    _ = _ := by simp [step,keep,quoted]

theorem settleFinished (s : Scan) : s.settle.finished = s.finished := by
  unfold settle
  split <;> rfl

end Scan

theorem partedCons (inLiteral : Bool) (text : List Char) : ∃ first more, parted inLiteral text = first :: more := by
  induction text generalizing inLiteral with
  | nil => exact ⟨[],[],rfl⟩
  | cons c text ih =>
    unfold parted
    split
    · exact ⟨[],_,rfl⟩
    · obtain ⟨first,more,found⟩ := ih (inLiteral != (c == '\''))
      rw [found]
      exact ⟨c :: first,more,rfl⟩

theorem unblankKeeps {piece : List Char} (kept : Text.trim piece ≠ []) (pieces : List (List Char)) :
    unblank (piece :: pieces) = Text.trim piece :: unblank pieces := by
  simp [unblank,kept]

/- A literal stands in one statement, and that one and all others are the same whatever it holds. -/
theorem statementsAround {before : List Char} (outside : (({} : Scan).run before).Outside) (after : List Char) :
    ∃ front back later, ∀ content, '\'' ∉ content → statements (before ++ quoted content ++ after) =
      endedIn before ++ (front ++ quoted content ++ back) :: later := by
  obtain ⟨first,more,found⟩ : ∃ first more, piecesFrom .code after = first :: more := partedCons false _
  let s := ({} : Scan).run before
  refine ⟨Text.trimStart s.settle.current.reverse,Text.trimEnd first,unblank more,fun content unquoted => ?_⟩
  have pieces : (({} : Scan).run (before ++ quoted content ++ after)).pieces =
      s.finished.reverse ++ (s.settle.current.reverse ++ quoted content ++ first) :: more := by
    rw [Scan.runAppend,Scan.runAppend,Scan.literalRuns outside unquoted,Scan.runPieces,found]
    simp [Scan.extend,Scan.settleFinished,s]
  have held : Text.trim (s.settle.current.reverse ++ quoted content ++ first) =
      Text.trimStart s.settle.current.reverse ++ quoted content ++ Text.trimEnd first := by
    have trimmed := Text.trimBetween (by decide : isBlank '\'' = false) (by decide : isBlank '\'' = false)
      s.settle.current.reverse content first
    simpa [quoted] using trimmed
  have kept : Text.trim (s.settle.current.reverse ++ quoted content ++ first) ≠ [] := by
    rw [held]
    simp [quoted]
  have whole : statements (before ++ quoted content ++ after) = unblank (s.finished.reverse ++
      (s.settle.current.reverse ++ quoted content ++ first) :: more) := congrArg unblank pieces
  rw [whole,unblankAppend,unblankKeeps kept,held]
  rfl

/-! ## The statement around a literal -/

theorem operationBefore (front rest rest' : List Char) :
    operation (front ++ '\'' :: rest) = operation (front ++ '\'' :: rest') := by
  have other : isIdentifierChar '\'' = false := by decide
  have unmarked : ('\'' == '(') = false := by decide
  have word (rest : List Char) : leadingWord (front ++ '\'' :: rest) = leadingWord front :=
    Text.takeStops other front rest
  have behind (rest : List Char) : behindWord (front ++ '\'' :: rest) = behindWord front ++ '\'' :: rest :=
    Text.dropStops other front rest
  have ahead (rest : List Char) : SetOff (behindWord front ++ '\'' :: rest) ↔
      (((behindWord front).dropWhile (· == '(')).head?.or (some '\'')).all isBlank = true := by
    rw [SetOff,Text.dropStops (p := (· == '(')) unmarked,List.head?_append,List.head?_cons]
  simp only [operationNamed,named,word,behind,ahead]

theorem hasWordStops {x : Char} (other : isIdentifierChar x = false) (front rest : List Char) (word : String) :
    hasWord (front ++ x :: rest) word = (hasWord front word || hasWord rest word) := by
  have cut : words (front ++ x :: rest) = words front ++ words rest :=
    List.splitOnP_append_cons front rest (by simp [other])
  simp only [hasWord,cut,List.any_append]

theorem missesAround (front content back : List Char) :
    missesFrom (front ++ quoted content ++ back) =
      (missesFrom (front ++ quoted [] ++ back) && !hasWord content "FROM") := by
  have other : isIdentifierChar '\'' = false := by decide
  have shape (content : List Char) : front ++ quoted content ++ back = front ++ '\'' :: (content ++ '\'' :: back) := by
    simp [quoted]
  have empty : hasWord [] "FROM" = false := by decide
  have found (content : List Char) : hasWord (front ++ '\'' :: (content ++ '\'' :: back)) "FROM" =
      (hasWord front "FROM" || (hasWord content "FROM" || hasWord back "FROM")) := by
    rw [hasWordStops other,hasWordStops other]
  rw [shape,shape,missesFrom,missesFrom,found,found,empty,operationBefore front _ ([] ++ '\'' :: back)]
  cases operation (front ++ '\'' :: ([] ++ '\'' :: back)) == .select <;> cases hasWord front "FROM" <;>
    cases hasWord content "FROM" <;> cases hasWord back "FROM" <;> rfl

theorem fromIssuesFlags (statements : List (List Char)) : fromIssues statements =
    ((statements.map missesFrom).zipIdx 1).filterMap fun (misses,number) =>
      if misses then some (missingFrom statements.length number) else none := by
  rw [List.zipIdx_map,List.filterMap_map,fromIssues]
  congr 1

theorem analyzeFlags {source source' : List Char}
    (operations : (statements source).map operation = (statements source').map operation)
    (flags : (statements source).map missesFrom = (statements source').map missesFrom) :
    analyze source = analyze source' := by
  have size : (statements source).length = (statements source').length := by
    simpa using congrArg List.length operations
  have issues : fromIssues (statements source) = fromIssues (statements source') := by
    rw [fromIssuesFlags,fromIssuesFlags,flags,size]
  rw [analyze,analyze]
  simp only [operations,issues]

theorem reportsElsewhere {source source' : List Char} {earlier later : List (List Char)} {one one' : List Char}
    (this : statements source = earlier ++ one :: later) (that : statements source' = earlier ++ one' :: later)
    {k : Nat} (elsewhere : k ≠ earlier.length) : (analyze source).Reports k ↔ (analyze source').Reports k := by
  have same : (earlier ++ one :: later)[k]? = (earlier ++ one' :: later)[k]? := by
    by_cases before : k < earlier.length
    · rw [List.getElem?_append_left before,List.getElem?_append_left before]
    · obtain ⟨n,rfl⟩ : ∃ n, k = earlier.length + (n + 1) := ⟨k - earlier.length - 1,by omega⟩
      rw [List.getElem?_append_right (Nat.le_add_right _ _),List.getElem?_append_right (Nat.le_add_right _ _),
        Nat.add_sub_cancel_left,List.getElem?_cons_succ,List.getElem?_cons_succ]
  rw [reportsIff,reportsIff,this,that,same]

theorem reportsThere {source : List Char} {earlier later : List (List Char)} {one : List Char}
    (this : statements source = earlier ++ one :: later) :
    (analyze source).Reports earlier.length ↔ missesFrom one = true := by
  rw [reportsIff,this,List.getElem?_append_right (Nat.le_refl _),Nat.sub_self,List.getElem?_cons_zero]
  simp

/- For every literal that is closed, with all contents that it can have; and what a comment holds has no part
in the analysis at all. -/
theorem literalsSearchedForFrom (before after : List Char) (outside : (({} : Scan).run before).Outside) :
    let held (content : List Char) := analyze (before ++ quoted content ++ after)
    let index := (endedIn before).length
    (∀ content other, '\'' ∉ content → '\'' ∉ other →
      (held content).operations = (held other).operations ∧
      (∀ k, k ≠ index → ((held content).Reports k ↔ (held other).Reports k)) ∧
      ((held content).Reports index ↔ (held []).Reports index ∧ hasWord content "FROM" = false) ∧
      (held content = held other ↔
        ((held []).Reports index → hasWord content "FROM" = hasWord other "FROM"))) ∧
    (∀ c, ¬ ['*','/'] <:+: c →
      analyze (before ++ '/' :: '*' :: c ++ '*' :: '/' :: after) = analyze (before ++ ' ' :: after)) := by
  intro held index
  obtain ⟨front,back,later,around⟩ := statementsAround outside after
  have there (content : List Char) (unquoted : '\'' ∉ content) : (held content).Reports index ↔
      (held []).Reports index ∧ hasWord content "FROM" = false := by
    have whole : (held content).Reports index ↔ missesFrom (front ++ quoted content ++ back) = true :=
      reportsThere (around content unquoted)
    have empty : (held []).Reports index ↔ missesFrom (front ++ quoted [] ++ back) = true :=
      reportsThere (around [] List.not_mem_nil)
    rw [whole,empty,missesAround,Bool.and_eq_true,Bool.not_eq_true']
  have operations (content other : List Char) (unquoted : '\'' ∉ content) (unquoted' : '\'' ∉ other) :
      (statements (before ++ quoted content ++ after)).map operation =
        (statements (before ++ quoted other ++ after)).map operation := by
    have same : operation (front ++ quoted content ++ back) = operation (front ++ quoted other ++ back) := by
      simpa [quoted] using operationBefore front (content ++ '\'' :: back) (other ++ '\'' :: back)
    rw [around content unquoted,around other unquoted']
    simp only [List.map_append,List.map_cons,same]
  refine ⟨fun content other unquoted unquoted' => ⟨operations content other unquoted unquoted',
    fun k elsewhere => reportsElsewhere (around content unquoted) (around other unquoted') elsewhere,
    there content unquoted,?_⟩,fun c endless => ?_⟩
  · constructor
    · intro same missing
      have both : hasWord content "FROM" = false ↔ hasWord other "FROM" = false := by
        have reports := there content unquoted
        rw [same,there other unquoted'] at reports
        simpa only [missing,true_and] using reports.symm
      cases found : hasWord content "FROM" with
      | false => exact (both.mp found).symm
      | true =>
        cases found' : hasWord other "FROM" with
        | false => rw [both.mpr found'] at found; exact found.symm
        | true => rfl
    · intro alike
      refine analyzeFlags (operations content other unquoted unquoted') ?_
      have same : missesFrom (front ++ quoted content ++ back) = missesFrom (front ++ quoted other ++ back) := by
        rw [missesAround front content,missesAround front other]
        cases empty : missesFrom (front ++ quoted [] ++ back) with
        | false => rfl
        | true => rw [alike ((reportsThere (around [] List.not_mem_nil)).mpr empty)]
      rw [around content unquoted,around other unquoted']
      simp only [List.map_append,List.map_cons,same]
  · exact blockCommentBlank outside endless after

def query : List Char := "SELECT ".toList

def source : List Char := "from".toList

theorem contentsDiffer :
    (({} : Scan).run (source ++ ';' :: query)).Outside ∧ '\'' ∉ source ∧ '\'' ∉ query ∧
      analyze (source ++ ';' :: query ++ quoted source ++ []) ≠
        analyze (source ++ ';' :: query ++ quoted query ++ []) := by
  have outside : (({} : Scan).run (source ++ ';' :: query)).Outside := by decide +kernel
  have unquoted : '\'' ∉ source := by decide
  have unquoted' : '\'' ∉ query := by decide
  obtain ⟨contents,-⟩ := literalsSearchedForFrom (source ++ ';' :: query) [] outside
  obtain ⟨-,-,-,alike⟩ := contents source query unquoted unquoted'
  refine ⟨outside,unquoted,unquoted',fun same => ?_⟩
  exact absurd (alike.mp same (by decide +kernel)) (by decide +kernel)

theorem literalHidesMissing :
    (analyze (query ++ quoted query)).Reports 0 ∧ ¬ (analyze (query ++ quoted source)).Reports 0 ∧
      (analyze (query ++ '/' :: '*' :: source ++ ['*','/'])).Reports 0 := by
  decide +kernel

end Playground.Sql
