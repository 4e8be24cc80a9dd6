import Playground.Proofs.Text.Lines
import Playground.Text.Pattern

/-! Where patterns occur in a text of several lines. Of what comes before a place only counts whether
it is a word character, so a text behind a line end is searched as if it stood alone. Main statement:
a line without the words that a pattern begins with adds no occurrence. -/
namespace Playground.Text

variable {before before' : Option Char}

theorem wordLast (same : wordAt before = wordAt before') (passed : List Char) :
    wordAt (lastOf before passed) = wordAt (lastOf before' passed) := by
  unfold lastOf
  split
  · rfl
  · exact same

theorem matchesSame (same : wordAt before = wordAt before') (parts : List Part) (rest : List Char) :
    matchesAt parts before rest = matchesAt parts before' rest := by
  induction parts generalizing before before' rest with
  | nil => rfl
  | cons part parts ih =>
    cases part with
    | word text => simp only [matchesAt,ih (wordLast same text.toList)]
    | oneOf texts =>
      have each (text : String) := ih (wordLast same text.toList) (rest.drop text.toList.length)
      simp only [matchesAt,each]
    | charOf holds => cases rest <;> rfl
    | boundary => simp only [matchesAt,same,ih same]
    | blanks => simp only [matchesAt,ih (wordLast same _)]
    | someBlanks => simp only [matchesAt,ih (wordLast same _)]

theorem occursSame (same : wordAt before = wordAt before') (parts : List Part) (rest : List Char) :
    occursFrom parts before rest = occursFrom parts before' rest := by
  cases rest <;> simp only [occursFrom,matchesSame same]

def Led (words : List String) (parts : List Part) : Prop :=
  ∀ before rest, matchesAt parts before rest = true → ∃ word ∈ words, word.toList <+: rest

theorem ledWord (word : String) (parts : List Part) : Led [word] (.boundary :: .word word :: parts) := by
  intro before rest found
  simp only [matchesAt,Bool.and_eq_true,List.isPrefixOf_iff_prefix] at found
  exact ⟨word,List.mem_singleton_self word,found.2.1⟩

theorem ledOneOf (words : List String) (parts : List Part) : Led words (.boundary :: .oneOf words :: parts) := by
  intro before rest found
  simp only [matchesAt,Bool.and_eq_true,List.any_eq_true,List.isPrefixOf_iff_prefix] at found
  obtain ⟨-,word,member,starts,-⟩ := found
  exact ⟨word,member,starts⟩

def Lacks (line : List Char) (words : List String) : Prop :=
  ∀ word ∈ words, word.toList ≠ [] ∧ '\n' ∉ word.toList ∧ ¬ word.toList <:+: line
instance (line : List Char) (words : List String) : Decidable (Lacks line words) :=
  decidable_of_iff (∀ word ∈ words, word.toList ≠ [] ∧ '\n' ∉ word.toList ∧ contains word.toList line = false)
    (by simp only [Lacks,← containsIff,Bool.not_eq_true])

theorem lacksMatch (before : Option Char) {line : List Char} {words : List String} (lacks : Lacks line words)
    {parts : List Part} (led : Led words parts) {front : List Char} (part : front <:+ line) (rest : List Char) :
    matchesAt parts before (front ++ '\n' :: rest) = false := by
  refine Bool.eq_false_iff.mpr fun found => ?_
  obtain ⟨word,member,starts⟩ := led before _ found
  obtain ⟨-,single,absent⟩ := lacks word member
  exact absent (((prefixStops single front rest).mp starts).isInfix.trans part.isInfix)

theorem occursBehind {line : List Char} {words : List String} (lacks : Lacks line words) {parts : List Part}
    (led : Led words parts) (rest : List Char) :
    occursFrom parts before (line ++ '\n' :: rest) = occursFrom parts none rest := by
  have along : ∀ front, front <:+ line → ∀ before,
      occursFrom parts before (front ++ '\n' :: rest) = occursFrom parts none rest := by
    intro front
    induction front with
    | nil =>
      intro part before
      have here := lacksMatch before lacks led part rest
      have same : wordAt (some '\n') = wordAt none := by decide
      rw [List.nil_append] at here ⊢
      rw [occursFrom,here,Bool.false_or,occursSame same]
    | cons c front ih =>
      intro part before
      have here := lacksMatch before lacks led part rest
      rw [List.cons_append] at here ⊢
      rw [occursFrom,here,Bool.false_or]
      exact ih ((List.suffix_cons c front).trans part) (some c)
  exact along line (List.suffix_refl line) before

theorem wordAny (o : Option Char) : o.any isWordChar = wordAt o := by
  cases o <;> rfl

theorem lastCons (c : Char) (passed : List Char) : lastOf before (c :: passed) = lastOf (some c) passed := by
  cases passed with
  | nil => rfl
  | cons d passed =>
    rw [lastOf,lastOf,List.getLast?_cons_cons,List.getLast?_eq_some_getLast (List.cons_ne_nil d passed)]

theorem lastFirst (passed : List Char) : lastOf none passed = passed.getLast? := by
  unfold lastOf
  split <;> simp [*]

theorem occursIff (parts : List Part) (text : List Char) : occursFrom parts before text = true ↔
    ∃ passed rest, text = passed ++ rest ∧ matchesAt parts (lastOf before passed) rest = true := by
  induction text generalizing before with
  | nil =>
    rw [occursFrom]
    constructor
    · exact fun here => ⟨[],[],rfl,here⟩
    · rintro ⟨passed,rest,none,here⟩
      obtain ⟨rfl,rfl⟩ := List.append_eq_nil_iff.mp none.symm
      exact here
  | cons c text ih =>
    rw [occursFrom,Bool.or_eq_true,ih]
    constructor
    · rintro (here | ⟨passed,rest,rfl,later⟩)
      · exact ⟨[],c :: text,rfl,here⟩
      · exact ⟨c :: passed,rest,rfl,by rw [lastCons]; exact later⟩
    · rintro ⟨passed,rest,whole,found⟩
      cases passed with
      | nil =>
        rw [List.nil_append] at whole
        exact .inl (whole ▸ found)
      | cons d passed =>
        obtain ⟨rfl,rfl⟩ := List.cons_eq_cons.mp whole
        exact .inr ⟨passed,rest,rfl,by rw [← lastCons]; exact found⟩

def edged (name : String) : Bool := name.toList.head?.any isWordChar && name.toList.getLast?.any isWordChar

theorem namedMatches {names : List String} (worded : ∀ name ∈ names, edged name = true) (parts : List Part)
    (rest : List Char) : matchesAt (.boundary :: .oneOf names :: parts) before rest = true ↔
      wordAt before = false ∧ ∃ name ∈ names, ∃ tail, rest = name.toList ++ tail ∧
        matchesAt parts name.toList.getLast? tail = true := by
  simp only [matchesAt,Bool.and_eq_true,List.any_eq_true,List.isPrefixOf_iff_prefix,bne_iff_ne]
  have begun {name : String} (member : name ∈ names) (tail : List Char) :
      wordAt (name.toList ++ tail).head? = true ∧ lastOf before name.toList = name.toList.getLast? := by
    have edges := worded name member
    unfold edged at edges
    cases spelled : name.toList with
    | nil => simp [spelled] at edges
    | cons c letters =>
      rw [spelled,Bool.and_eq_true] at edges
      refine ⟨edges.1,?_⟩
      rw [lastOf,List.getLast?_eq_some_getLast (List.cons_ne_nil c letters)]
  constructor
  · rintro ⟨boundary,name,member,⟨tail,rfl⟩,matched⟩
    obtain ⟨first,last⟩ := begun member tail
    rw [first,ne_eq,Bool.not_eq_true] at boundary
    rw [last,List.drop_left] at matched
    exact ⟨boundary,name,member,tail,rfl,matched⟩
  · rintro ⟨outside,name,member,tail,rfl,matched⟩
    obtain ⟨first,last⟩ := begun member tail
    refine ⟨by rw [outside,first]; exact Bool.noConfusion,name,member,List.prefix_append _ _,?_⟩
    rw [last,List.drop_left]
    exact matched

theorem parenthesisMatches (rest : List Char) : matchesAt [.blanks,.word "("] before rest = true ↔
    ∃ blanks after, rest = blanks ++ '(' :: after ∧ ∀ c ∈ blanks, isBlank c = true := by
  have opening : isBlank '(' = false := by decide
  simp only [matchesAt,Bool.and_true,List.isPrefixOf_iff_prefix]
  constructor
  · rintro ⟨after,opened⟩
    refine ⟨rest.takeWhile isBlank,after,?_,fun c => List.all_eq_true.mp List.all_takeWhile c⟩
    rw [show '(' :: after = _ from opened,List.takeWhile_append_dropWhile]
  · rintro ⟨blanks,after,rfl,all⟩
    rw [List.dropWhile_append_of_pos all,List.dropWhile_cons_of_neg (by simp [opening])]
    exact ⟨after,rfl⟩

end Playground.Text
