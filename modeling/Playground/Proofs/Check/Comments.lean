import Playground.Proofs.Check.Semicolons

/-! What belongs to the comments of a Java source. A block comment runs from an opening mark in the
code to the next closing one, a line comment to the end of its line, and neither begins within a
literal. Main statement: the scan for semicolons passes over nothing else, but it overlooks the block
comments that no line begins with, and it is early to leave others; so their lines may be cited. -/
namespace Playground.Check.Java
open Text (trim trimStart trimEnd isBlank allBlank)

inductive Region where
  | code | literal | comment
  deriving DecidableEq, Repr

/- What a line has outside its comments, and the region it ends in. The next character after a backslash
belongs to the literal. -/
def strip : Region → List Char → List Char × Region
  | region,[] => ([],region)
  | .code,'/' :: '/' :: _ => ([],.code)
  | .code,'/' :: '*' :: rest => strip .comment rest
  | .code,c :: rest => (strip (if c = '"' then .literal else .code) rest).map (c :: ·) id
  | .literal,'\\' :: c :: rest => (strip .literal rest).map (fun text => '\\' :: c :: text) id
  | .literal,c :: rest => (strip (if c = '"' then .code else .literal) rest).map (c :: ·) id
  | .comment,'*' :: '/' :: rest => strip .code rest
  | .comment,_ :: rest => strip .comment rest

def stripLine (inside : Bool) (line : List Char) : List Char × Region :=
  strip (if inside then .comment else .code) line

def staysIn (inside : Bool) (line : List Char) : Bool := (stripLine inside line).2 = .comment

def commented (lines : List (List Char)) (count : Nat) : Bool := (lines.take count).foldl staysIn false

theorem stripLength (region : Region) (line : List Char) : (strip region line).1.length ≤ line.length := by
  fun_induction strip region line with
  | case1 => exact Nat.le_refl _
  | case2 => exact Nat.zero_le _
  | case3 rest ih => exact Nat.le_add_right_of_le (Nat.le_add_right_of_le ih)
  | case4 c rest _ _ ih => exact Nat.succ_le_succ ih
  | case5 c rest ih => exact Nat.succ_le_succ (Nat.succ_le_succ ih)
  | case6 c rest _ ih => exact Nat.succ_le_succ ih
  | case7 rest ih => exact Nat.le_add_right_of_le (Nat.le_add_right_of_le ih)
  | case8 c rest _ ih => exact Nat.le_add_right_of_le ih

theorem stripUnclosed {line : List Char} (unclosed : ¬ Closes line) : strip .comment line = ([],.comment) := by
  induction line with
  | nil => rfl
  | cons c rest ih =>
    have later : ¬ Closes rest := fun found => unclosed (found.trans (List.suffix_cons c rest).isInfix)
    rw [strip]
    · exact ih later
    · intro after star slash
      exact unclosed ⟨[],after,by rw [star,slash]; rfl⟩

theorem stripBlanks (line : List Char) :
    strip .code line = (strip .code (trimStart line)).map (line.takeWhile isBlank ++ ·) id := by
  induction line with
  | nil => rfl
  | cons c rest ih =>
    cases blank : isBlank c with
    | false =>
      have none : (c :: rest).takeWhile isBlank = [] := by simp [blank]
      have all : trimStart (c :: rest) = c :: rest := by simp [trimStart,blank]
      rw [none,all]
      rfl
    | true =>
      have slash : c ≠ '/' := fun same => by rw [same] at blank; exact absurd blank (by decide)
      have quote : c ≠ '"' := fun same => by rw [same] at blank; exact absurd blank (by decide)
      have kept : strip .code (c :: rest) = (strip .code rest).map (c :: ·) id := by
        rw [strip,if_neg quote]
        · exact fun _ same => absurd same slash
        · exact fun _ same => absurd same slash
      rw [kept,ih]
      simp [trimStart,blank,Prod.map]

theorem markTrimmed {x y : Char} (visible : isBlank y = false) (line : List Char) :
    [x,y] <+: trim line ↔ [x,y] <+: trimStart line := by
  constructor
  · intro starts
    have front : trim line <+: trimStart line := by
      rw [trim,trimEnd,Text.dropEndWhile,← List.reverse_suffix,List.reverse_reverse]
      exact List.dropWhile_suffix isBlank
    exact starts.trans front
  · rintro ⟨rest,whole⟩
    have kept : trim line = [x] ++ y :: trimEnd rest := by
      rw [trim,← whole]
      exact Text.dropEndStops visible [x] rest
    exact ⟨trimEnd rest,kept.symm⟩

theorem beginsIff (line : List Char) : Begins line ↔ ['/','*'] <+: trimStart line := markTrimmed (by decide) line

theorem passesStays {inComment inside : Bool} (within : inComment = true → inside = true) {line : List Char}
    (passed : passes inComment line = true) : staysIn inside line = true := by
  simp only [passes,Bool.and_eq_true,Bool.or_eq_true,Bool.not_eq_true',decide_eq_true_iff,
    decide_eq_false_iff_not] at passed
  obtain ⟨begun,unclosed⟩ := passed
  cases inside with
  | true => simp [staysIn,stripLine,stripUnclosed unclosed]
  | false =>
    have begins : Begins line := begun.resolve_left fun comment => absurd (within comment) (by decide)
    obtain ⟨rest,whole⟩ := (beginsIff line).mp begins
    have part : rest <:+ line := (List.suffix_append ['/','*'] rest).trans
      (whole ▸ List.dropWhile_suffix isBlank)
    have later : ¬ Closes rest := fun found => unclosed (found.trans part.isInfix)
    have opened : strip .code (trimStart line) = ([],.comment) := by
      rw [← whole,← stripUnclosed later]
      rfl
    simp [staysIn,stripLine,stripBlanks line,opened]

theorem passingCommented {lines : List (List Char)} {count : Nat} (passed : passing lines count = true) :
    commented lines count = true := by
  have along : ∀ (lines : List (List Char)) (inComment inside : Bool), (inComment = true → inside = true) →
      lines.foldl passes inComment = true → lines.foldl staysIn inside = true := by
    intro lines
    induction lines with
    | nil => exact fun _ _ within => within
    | cons line later ih => exact fun _ _ within passed => ih _ _ (passesStays within) passed
  exact along _ false false (fun none => none) passed

theorem stripCode (c : Char) (rest : List Char) :
    (c = '/' ∧ ∃ after, rest = '/' :: after) ∨ (c = '/' ∧ ∃ after, rest = '*' :: after) ∨
      ∃ more, (strip .code (c :: rest)).1 = c :: more := by
  by_cases line : c = '/' ∧ ∃ after, rest = '/' :: after
  · exact .inl line
  · by_cases block : c = '/' ∧ ∃ after, rest = '*' :: after
    · exact .inr (.inl block)
    · refine .inr (.inr ?_)
      rw [strip]
      · exact ⟨_,rfl⟩
      · exact fun after first second => line ⟨first,after,second⟩
      · exact fun after first second => block ⟨first,after,second⟩

theorem insideMarked {line : List Char} (inside : allBlank (strip .code line).1 = true) :
    Begins line ∨ isCommentLine (trim line) = true := by
  rw [stripBlanks] at inside
  rcases Text.trimCases line with ⟨-,empty⟩ | ⟨-,first,more,visible,whole⟩
  · right
    rw [empty]
    rfl
  · cases started : trimStart line with
    | nil =>
      rw [trim,started] at whole
      cases whole
    | cons c rest =>
      rw [started] at inside
      rcases stripCode c rest with ⟨rfl,after,rfl⟩ | ⟨rfl,after,rfl⟩ | ⟨kept,shown⟩
      · have mark : ['/','/'] <+: trim line := (markTrimmed (by decide) line).mpr ⟨after,started.symm⟩
        simp [isCommentLine,List.isPrefixOf_iff_prefix.mpr mark]
      · exact .inl ((beginsIff line).mpr ⟨after,started.symm⟩)
      · have same : isBlank c = false := by
          have head := List.head?_dropWhile_not isBlank line
          rw [show line.dropWhile isBlank = c :: rest from started] at head
          exact head
        simp [Prod.map,shown,allBlank,same] at inside

/-! ## The block comments that are open -/

def Opens (lines : List (List Char)) (index : Nat) : Prop :=
  ∃ line, lines[index]? = some line ∧ staysIn (commented lines index) line = true ∧
    (commented lines index = true → Closes line)

def OpenFrom (lines : List (List Char)) (opener index : Nat) : Prop :=
  opener < index ∧ Opens lines opener ∧ ∀ k, opener < k → k < index → ¬ ClosesAt lines k

theorem commentedSucc {lines : List (List Char)} {index : Nat} {line : List Char} (found : lines[index]? = some line) :
    commented lines (index + 1) = staysIn (commented lines index) line := by
  rw [commented,List.take_add_one,found,Option.toList_some,List.foldl_append]
  rfl

/- By induction on the lines: each one goes on with what is open or opens another comment. -/
theorem commentedIff {lines : List (List Char)} {count : Nat} (bound : count ≤ lines.length) :
    commented lines count = true ↔ ∃ opener, OpenFrom lines opener count := by
  induction count with
  | zero => simp [commented,OpenFrom]
  | succ count ih =>
    obtain ⟨line,found⟩ : ∃ line, lines[count]? = some line := ⟨_,List.getElem?_eq_getElem bound⟩
    have closes : ClosesAt lines count ↔ Closes line := by simp [ClosesAt,found]
    have before := ih (Nat.le_of_succ_le bound)
    have opensHere (opens : Opens lines count) : ∃ opener, OpenFrom lines opener (count + 1) :=
      ⟨count,Nat.lt_succ_self count,opens,fun k later earlier => by omega⟩
    rw [commentedSucc found]
    constructor
    · intro stays
      by_cases fresh : commented lines count = true → Closes line
      · exact opensHere ⟨line,found,stays,fresh⟩
      · obtain ⟨inside,unclosed⟩ := Classical.not_imp.mp fresh
        obtain ⟨opener,earlier,opens,open'⟩ := before.mp inside
        refine ⟨opener,Nat.lt_succ_of_lt earlier,opens,fun k after till => ?_⟩
        rcases Nat.lt_succ_iff_lt_or_eq.mp till with there | rfl
        · exact open' k after there
        · exact fun found => unclosed (closes.mp found)
    · rintro ⟨opener,earlier,opens,open'⟩
      rcases Nat.lt_succ_iff_lt_or_eq.mp earlier with there | rfl
      · have inside : commented lines count = true :=
          before.mpr ⟨opener,there,opens,fun k after till => open' k after (Nat.lt_succ_of_lt till)⟩
        have unclosed : ¬ Closes line := fun ends => open' count there (Nat.lt_succ_self count) (closes.mpr ends)
        simp [staysIn,stripLine,inside,stripUnclosed unclosed]
      · obtain ⟨own,same,stays,-⟩ := opens
        rw [found] at same
        cases same
        exact stays

/- Each line up to the opener that begins with the opening mark has the closing one, or a later
line has it. -/
def Overlooked (lines : List (List Char)) (opener : Nat) : Prop :=
  ∀ first ≤ opener, BeginsAt lines first → ∃ k, first ≤ k ∧ k ≤ opener ∧ ClosesAt lines k

theorem overlookedIff {lines : List (List Char)} {opener index : Nat} (bound : index ≤ lines.length)
    (opened : OpenFrom lines opener index) :
    passing lines index = false ↔
      Overlooked lines opener ∧ ∀ k, opener < k → k < index → ¬ BeginsAt lines k := by
  obtain ⟨earlier,-,unclosed⟩ := opened
  rw [Bool.eq_false_iff,Ne,passingIff bound]
  constructor
  · intro outside
    refine ⟨fun first before begins => ?_,fun k after till begins => ?_⟩
    · refine Classical.byContradiction fun never => ?_
      refine outside ⟨first,Nat.lt_of_le_of_lt before earlier,begins,fun k from' till closes => ?_⟩
      rcases Nat.lt_or_ge opener k with after | within
      · exact unclosed k after till closes
      · exact never ⟨k,from',within,closes⟩
    · exact outside ⟨k,till,begins,fun l from' till' => unclosed l (Nat.lt_of_lt_of_le after from') till'⟩
  · rintro ⟨overlooked,none⟩ ⟨first,before,begins,open'⟩
    rcases Nat.lt_or_ge opener first with after | within
    · exact none first after before begins
    · obtain ⟨k,from',till,closes⟩ := overlooked first within begins
      exact open' k from' (Nat.lt_of_le_of_lt till earlier) closes

/- Over the lines that have nothing outside comments. Only in a block comment that was opened on an earlier
line can they be cited. -/
theorem commentLinesCitedIfOverlooked (source : String) {index : Nat} {line : List Char}
    (found : (Text.lines source.toList)[index]? = some line)
    (inside : allBlank (stripLine (commented (Text.lines source.toList) index) line).1 = true) :
    let lines := Text.lines source.toList
    Cites source (index + 1) ↔ ∃ opener, OpenFrom lines opener index ∧ Overlooked lines opener ∧
      (∀ k, opener < k → k < index → ¬ BeginsAt lines k) ∧ Unended line (lines.drop (index + 1)) := by
  intro lines
  have bound : index ≤ lines.length := Nat.le_of_lt (List.getElem?_eq_some_iff.mp found).1
  refine (citesIff source index).trans ⟨?_,?_⟩
  · rintro ⟨own,same,outside,unended⟩
    rw [found] at same
    cases same
    cases within : commented lines index with
    | false =>
      rw [show commented (Text.lines source.toList) index = false from within] at inside
      rcases insideMarked inside with begins | comment
      · exact absurd begins unended.1
      · rw [unended.2.1] at comment
        cases comment
    | true =>
      obtain ⟨opener,opened⟩ := (commentedIff bound).mp within
      obtain ⟨overlooked,none⟩ := (overlookedIff bound opened).mp outside
      exact ⟨opener,opened,overlooked,none,unended⟩
  · rintro ⟨opener,opened,overlooked,none,unended⟩
    exact ⟨line,found,(overlookedIff bound opened).mpr ⟨overlooked,none⟩,unended⟩

def trailing : String := "int a; /* first\nint b\n*/"

theorem trailingCommentCited :
    let lines := Text.lines trailing.toList
    lines[1]? = some "int b".toList ∧ allBlank (stripLine (commented lines 1) "int b".toList).1 = true ∧
      Cites trailing 2 := by
  intro lines
  have found : lines[1]? = some "int b".toList := by decide
  have inside : allBlank (stripLine (commented lines 1) "int b".toList).1 = true := by decide
  have first : lines[0]? = some "int a; /* first".toList := by decide
  have unmarked : ¬ BeginsAt lines 0 := fun ⟨line,same,begins⟩ => by
    rw [first] at same
    cases same
    exact absurd begins (by decide)
  have opens : Opens lines 0 := ⟨_,first,by decide,fun within => absurd within (by decide)⟩
  refine ⟨found,inside,(commentLinesCitedIfOverlooked trailing found inside).mpr ⟨0,?_,?_,?_,by decide⟩⟩
  · exact ⟨Nat.zero_lt_one,opens,fun k after till => by omega⟩
  · intro first before begins
    cases Nat.le_zero.mp before
    exact absurd begins unmarked
  · exact fun k after till => by omega

def commentedOut : String :=
  "class A \x7b public static void main(String[] a) \x7b\n\x7d /* one\nint x\n*/ \x7d\n/*/ two\nint y\n*/"

theorem commentLinesCited :
    let lines := Text.lines commentedOut.toList
    (∀ index ∈ [2,5], ∃ line ∈ lines[index]?, allBlank (stripLine (commented lines index) line).1 = true) ∧
      Cites commentedOut 3 ∧ Cites commentedOut 6 := by
  refine ⟨by decide,⟨"int x".toList,by decide⟩,⟨"int y".toList,by decide⟩⟩

end Playground.Check.Java
