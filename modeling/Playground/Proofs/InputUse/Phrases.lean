import Playground.InputUse
import Playground.Proofs.Text.Patterns
import Playground.Proofs.Text.Tokens
import Playground.Proofs.Text.Trimming

/-! What counts as a read of input, on the tokens of a source. Its identifiers are the longest runs of
word characters. Main statement: a program seems to read input where the tokens of its source contain
one of the phrases of its language. So an identifier that is none of theirs never counts, whatever it
contains. -/
namespace Playground.InputUse
open Text (Token Tokens Alone tokens Part isBlank isWordChar matchesAt occursFrom)

inductive Phrase where
  | call (name : String)
  | mention (name : String)
  | member (object field : String)
  deriving DecidableEq, Repr

namespace Phrase

def identifiers : Phrase → List String
  | .call name => [name]
  | .mention name => [name]
  | .member object field => [object,field]

/- The tokens make up the phrase. A call is its name and an opening parenthesis, with blanks between them or
none. -/
def Spelled : Phrase → List Token → Prop
  | .call name,list => ∃ blanks : List Char, (∀ c ∈ blanks, isBlank c = true) ∧
      list = .word name.toList :: (blanks ++ ['(']).map .mark
  | .mention name,list => list = [.word name.toList]
  | .member object field,list => list = [.word object.toList,.mark '.',.word field.toList]

def StandsIn (phrase : Phrase) (list : List Token) : Prop := ∃ part, phrase.Spelled part ∧ part <:+: list

end Phrase

def phrases : Language → List Phrase
  | .javaScript => [.call "prompt",.call "readline",.call "input"]
  | .python => [.call "input",.member "sys" "stdin"]
  | .java =>
    [.call "Scanner",.call "nextInt",.call "nextDouble",.call "nextLine",.call "next",.call "nextLong",
      .call "nextBoolean",.member "System" "in",.mention "BufferedReader"]
  | .cpp => [.mention "scanf",.mention "cin",.mention "getline",.mention "getchar"]
  | .html | .css | .json | .sql => []

def Reads (language : Language) (list : List Token) : Prop := ∃ phrase ∈ phrases language, phrase.StandsIn list

def identifiers (language : Language) : List String := (phrases language).flatMap Phrase.identifiers

def Named (name : String) : Prop := name.toList ≠ [] ∧ ∀ c ∈ name.toList, isWordChar c = true
instance (name) : Decidable (Named name) := @instDecidableAnd _ _ _ (List.decidableBAll _ _)

theorem parenthesisUnworded : isWordChar '(' = false := by decide

theorem pointUnworded : isWordChar '.' = false := by decide

theorem openedUnworded {blanks : List Char} (all : ∀ c ∈ blanks, isBlank c = true) :
    ∀ c ∈ blanks ++ ['('], isWordChar c = false := by
  intro c member
  rcases List.mem_append.mp member with blank | last
  · exact Text.blankUnworded (all c blank)
  · rw [List.mem_singleton.mp last]
    exact parenthesisUnworded

theorem callStands {name : String} (named : Named name) (text : List Char) :
    (Phrase.call name).StandsIn (tokens isWordChar text) ↔ ∃ before blanks after,
      text = before ++ (name.toList ++ (blanks ++ '(' :: after)) ∧ before.getLast?.any isWordChar = false ∧
        ∀ c ∈ blanks, isBlank c = true := by
  constructor
  · rintro ⟨_,⟨blanks,all,rfl⟩,front,back,whole⟩
    have held := whole ▸ Text.tokensHold (p := isWordChar) text
    rw [List.append_assoc,List.cons_append] at held
    obtain ⟨before,_,rfl,alone,-,right⟩ := Text.wordCut held
    obtain ⟨after,rfl,-⟩ := Text.marksCut _ right
    exact ⟨before,blanks,after,by simp,alone.left,all⟩
  · rintro ⟨before,blanks,after,rfl,left,all⟩
    have marks := openedUnworded all
    have ends : (blanks ++ '(' :: after).head?.any isWordChar = false := by
      cases blanks with
      | nil => simpa using parenthesisUnworded
      | cons c blanks => simpa using marks c List.mem_cons_self
    have alone : Alone isWordChar before name.toList (blanks ++ '(' :: after) := ⟨named.1,named.2,left,ends⟩
    have behind : tokens isWordChar (blanks ++ '(' :: after) =
        (blanks ++ ['(']).map .mark ++ tokens isWordChar after := by
      rw [← Text.tokensMarks marks,List.append_assoc]
      rfl
    refine ⟨.word name.toList :: (blanks ++ ['(']).map .mark,⟨blanks,all,rfl⟩,tokens isWordChar before,
      tokens isWordChar after,?_⟩
    rw [Text.tokensAlone alone,behind]
    simp

theorem mentionStands (name : String) (text : List Char) : (Phrase.mention name).StandsIn (tokens isWordChar text) ↔
    ∃ before after, text = before ++ (name.toList ++ after) ∧ Alone isWordChar before name.toList after := by
  rw [← Text.wordIff]
  constructor
  · rintro ⟨_,rfl,part⟩
    exact part.subset List.mem_cons_self
  · intro member
    obtain ⟨front,back,list⟩ := List.append_of_mem member
    exact ⟨[.word name.toList],rfl,front,back,by simp [list]⟩

theorem memberStands {object field : String} (owner : Named object) (owned : Named field) (text : List Char) :
    (Phrase.member object field).StandsIn (tokens isWordChar text) ↔ ∃ before after,
      text = before ++ (object.toList ++ '.' :: (field.toList ++ after)) ∧
        before.getLast?.any isWordChar = false ∧ after.head?.any isWordChar = false := by
  constructor
  · rintro ⟨_,rfl,front,back,whole⟩
    have held := whole ▸ Text.tokensHold (p := isWordChar) text
    rw [List.append_assoc,List.cons_append,List.cons_append,List.cons_append,List.nil_append] at held
    obtain ⟨before,_,rfl,alone,-,right⟩ := Text.wordCut held
    obtain ⟨_,rfl,further⟩ := Text.marksCut ['.'] right
    cases further with
    | @word _ after _ filled own ends rest => exact ⟨before,after,rfl,alone.left,ends⟩
  · rintro ⟨before,after,rfl,left,right⟩
    have first : Alone isWordChar before object.toList ('.' :: (field.toList ++ after)) :=
      ⟨owner.1,owner.2,left,by simpa using pointUnworded⟩
    have second : Alone isWordChar [] field.toList after := ⟨owned.1,owned.2,rfl,right⟩
    have behind : tokens isWordChar (field.toList ++ after) = .word field.toList :: tokens isWordChar after :=
      Text.tokensAlone second
    refine ⟨[.word object.toList,.mark '.',.word field.toList],rfl,tokens isWordChar before,
      tokens isWordChar after,?_⟩
    rw [Text.tokensAlone first,tokens,behind]
    simp [pointUnworded]

theorem namedEdged {name : String} (named : Named name) : Text.edged name = true := by
  obtain ⟨filled,own⟩ := named
  have first : name.toList.head?.any isWordChar = true := by
    rw [List.head?_eq_some_head filled]
    exact own _ (List.head_mem filled)
  have last : name.toList.getLast?.any isWordChar = true := by
    rw [List.getLast?_eq_some_getLast filled]
    exact own _ (List.getLast_mem filled)
  rw [Text.edged,first,last]
  rfl

theorem callOccurs (names : List String) (named : ∀ name ∈ names, Named name) (text : List Char) :
    occursFrom (call names) none text = true ↔
      ∃ name ∈ names, (Phrase.call name).StandsIn (tokens isWordChar text) := by
  have edges : ∀ name ∈ names, Text.edged name = true := fun name member => namedEdged (named name member)
  simp only [Text.occursIff,call,Text.namedMatches edges,Text.parenthesisMatches,Text.lastFirst,← Text.wordAny]
  constructor
  · rintro ⟨before,_,rfl,left,name,member,_,rfl,blanks,after,rfl,all⟩
    exact ⟨name,member,(callStands (named name member) _).mpr ⟨before,blanks,after,rfl,left,all⟩⟩
  · rintro ⟨name,member,stands⟩
    obtain ⟨before,blanks,after,rfl,left,all⟩ := (callStands (named name member) _).mp stands
    exact ⟨before,_,rfl,left,name,member,_,rfl,blanks,after,rfl,all⟩

theorem mentionOccurs {names : List String} (edges : ∀ name ∈ names, Text.edged name = true) (text : List Char) :
    occursFrom (mention names) none text = true ↔ ∃ name ∈ names, ∃ before after,
      text = before ++ (name.toList ++ after) ∧ before.getLast?.any isWordChar = false ∧
        after.head?.any isWordChar = false := by
  simp only [Text.occursIff,mention,Text.namedMatches edges,Text.lastFirst,← Text.wordAny]
  have ended {name : String} (member : name ∈ names) (after : List Char) :
      matchesAt [.boundary] name.toList.getLast? after = true ↔ after.head?.any isWordChar = false := by
    have last : name.toList.getLast?.any isWordChar = true := (Bool.and_eq_true_iff.mp (edges name member)).2
    simp only [matchesAt,Bool.and_true,bne_iff_ne,← Text.wordAny,last]
    simp
  constructor
  · rintro ⟨before,_,rfl,left,name,member,after,rfl,matched⟩
    exact ⟨name,member,before,after,rfl,left,(ended member after).mp matched⟩
  · rintro ⟨name,member,before,after,rfl,left,right⟩
    exact ⟨before,_,rfl,left,name,member,after,rfl,(ended member after).mpr right⟩

theorem namesOccur (names : List String) (named : ∀ name ∈ names, Named name) (text : List Char) :
    occursFrom (mention names) none text = true ↔
      ∃ name ∈ names, (Phrase.mention name).StandsIn (tokens isWordChar text) := by
  rw [mentionOccurs fun name member => namedEdged (named name member)]
  refine exists_congr fun name => and_congr_right fun member => ?_
  obtain ⟨filled,own⟩ := named name member
  rw [mentionStands]
  constructor
  · rintro ⟨before,after,whole,left,right⟩
    exact ⟨before,after,whole,filled,own,left,right⟩
  · rintro ⟨before,after,whole,alone⟩
    exact ⟨before,after,whole,alone.left,alone.right⟩

theorem memberOccurs (name object field : String) (edges : Text.edged name = true) (owner : Named object)
    (owned : Named field) (spelled : name.toList = object.toList ++ '.' :: field.toList) (text : List Char) :
    occursFrom (mention [name]) none text = true ↔ (Phrase.member object field).StandsIn (tokens isWordChar text) := by
  rw [mentionOccurs (List.forall_mem_singleton.mpr edges),memberStands owner owned]
  simp [spelled]

theorem readsIff (language : Language) (source : String) :
    needsInput source language = true ↔ Reads language (tokens isWordChar source.toList) := by
  unfold needsInput Text.occurs Reads
  rw [List.any_eq_true]
  cases language with
  | javaScript =>
    have calls := callOccurs ["prompt","readline","input"] (by decide) source.toList
    simp [patterns,phrases,calls]
  | python =>
    have calls := callOccurs ["input"] (by decide) source.toList
    have stream := memberOccurs "sys.stdin" "sys" "stdin" (by decide) (by decide) (by decide) (by decide) source.toList
    simp [patterns,phrases,calls,stream]
  | java =>
    have calls := callOccurs ["Scanner","nextInt","nextDouble","nextLine","next","nextLong","nextBoolean"]
      (by decide) source.toList
    have stream := memberOccurs "System.in" "System" "in" (by decide) (by decide) (by decide) (by decide) source.toList
    have reader := namesOccur ["BufferedReader"] (by decide) source.toList
    simp [patterns,phrases,calls,stream,reader,or_assoc]
  | cpp =>
    have names := namesOccur ["scanf","cin","getline","getchar"] (by decide) source.toList
    simp [patterns,phrases,names]
  | html => simp [patterns,phrases]
  | css => simp [patterns,phrases]
  | json => simp [patterns,phrases]
  | sql => simp [patterns,phrases]

theorem spelledOwn {phrase : Phrase} {part : List Token} (spelled : phrase.Spelled part) :
    part ≠ [] ∧ ∀ letters, .word letters ∈ part → ∃ name ∈ phrase.identifiers, letters = name.toList := by
  cases phrase with
  | call name =>
    obtain ⟨blanks,-,rfl⟩ := spelled
    refine ⟨List.cons_ne_nil _ _,fun letters member => ⟨name,List.mem_singleton_self name,?_⟩⟩
    simpa using member
  | mention name =>
    cases spelled
    refine ⟨List.cons_ne_nil _ _,fun letters member => ⟨name,List.mem_singleton_self name,?_⟩⟩
    simpa using member
  | member object field =>
    cases spelled
    refine ⟨List.cons_ne_nil _ _,fun letters member => ?_⟩
    have either : letters = object.toList ∨ letters = field.toList := by simpa using member
    rcases either with rfl | rfl
    · exact ⟨object,List.mem_cons_self,rfl⟩
    · exact ⟨field,List.mem_cons_of_mem _ List.mem_cons_self,rfl⟩

theorem readsParted {language : Language} {word : String} (other : word ∉ identifiers language)
    (front back : List Token) :
    Reads language (front ++ .word word.toList :: back) ↔ Reads language front ∨ Reads language back := by
  have parted {phrase : Phrase} (member : phrase ∈ phrases language) :
      phrase.StandsIn (front ++ .word word.toList :: back) ↔ phrase.StandsIn front ∨ phrase.StandsIn back := by
    unfold Phrase.StandsIn
    rw [← exists_or]
    refine exists_congr fun part => ?_
    rw [← and_or_left]
    refine and_congr_right fun spelled => ?_
    obtain ⟨filled,own⟩ := spelledOwn spelled
    refine Text.infixStops (fun found => ?_) filled front back
    obtain ⟨name,named,same⟩ := own _ found
    exact other (List.mem_flatMap.mpr ⟨phrase,member,String.toList_inj.mp same ▸ named⟩)
  unfold Reads
  constructor
  · rintro ⟨phrase,member,stands⟩
    exact ((parted member).mp stands).imp (⟨phrase,member,·⟩) (⟨phrase,member,·⟩)
  · rintro (⟨phrase,member,stands⟩ | ⟨phrase,member,stands⟩)
    · exact ⟨phrase,member,(parted member).mpr (.inl stands)⟩
    · exact ⟨phrase,member,(parted member).mpr (.inr stands)⟩

theorem readsWider {language : Language} {part list : List Token} (within : part <:+: list)
    (reads : Reads language part) : Reads language list := by
  obtain ⟨phrase,member,spelling,spelled,stands⟩ := reads
  exact ⟨phrase,member,spelling,spelled,stands.trans within⟩

theorem lineTokens (front back : List Char) : tokens isWordChar (front ++ '\n' :: back) =
    tokens isWordChar front ++ .mark '\n' :: tokens isWordChar back := by
  have ends : isWordChar '\n' = false := by decide
  rw [Text.tokensJoined (by simp [ends]),tokens,if_neg (by simp [ends])]

/- What is read on the tokens of a source, that an identifier of no phrase has no part in it, and that a line
more takes nothing away. -/
theorem phrasesReadOnTokens (language : Language) (source : String) :
    (∃ list, (∀ other, Tokens isWordChar source.toList other ↔ other = list) ∧
      (needsInput source language = true ↔ Reads language list)) ∧
    (∀ before word after : String, source = before ++ word ++ after →
      Alone isWordChar before.toList word.toList after.toList → word ∉ identifiers language →
      needsInput source language = (needsInput before language || needsInput after language)) ∧
    (∀ further : String, (needsInput source language || needsInput further language) = true →
      needsInput (source ++ "\n" ++ further) language = true) := by
  refine ⟨⟨tokens isWordChar source.toList,fun other => Text.tokensIff,readsIff language source⟩,?_,?_⟩
  · rintro before word after rfl alone other
    have list : tokens isWordChar (before ++ word ++ after).toList =
        tokens isWordChar before.toList ++ .word word.toList :: tokens isWordChar after.toList := by
      rw [← Text.tokensAlone alone]
      simp
    rw [Bool.eq_iff_iff,Bool.or_eq_true,readsIff,readsIff,readsIff,list]
    exact readsParted other _ _
  · intro further either
    have list : tokens isWordChar (source ++ "\n" ++ further).toList =
        tokens isWordChar source.toList ++ .mark '\n' :: tokens isWordChar further.toList := by
      rw [← lineTokens]
      simp
    rw [Bool.or_eq_true,readsIff,readsIff] at either
    rw [readsIff,list]
    rcases either with first | second
    · exact readsWider (List.prefix_append _ _).isInfix first
    · exact readsWider ((List.suffix_cons _ _).trans (List.suffix_append _ _)).isInfix second

example : needsInput "input_line(1)" .python = false ∧ needsInput "x = input\n (1)" .python = true := by decide

end Playground.InputUse
