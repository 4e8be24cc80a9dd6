import Playground.Check.Issue
import Playground.Proofs.Text.Tokens

/-! Uses of a word and the identifiers of a text. An occurrence that overlaps one before it is not
tried; it lies behind a letter of that one, so it does not stand alone. Main statement: a text uses a
word exactly where the word is one of the identifiers of the text, the longest runs of identifier
characters. -/
namespace Playground.Check
open Text (Alone Tokens isIdentifierChar tokens)

def triedFrom (word : List Char) : (passed : List Char) → (skip : Nat) → List Char → List (List Char × List Char)
  | _,_,[] => []
  | passed,skip + 1,c :: rest => triedFrom word (passed ++ [c]) skip rest
  | passed,0,c :: rest =>
    if word.isPrefixOf (c :: rest) then
      (passed,(c :: rest).drop word.length) :: triedFrom word (passed ++ [c]) (word.length - 1) rest
    else triedFrom word (passed ++ [c]) 0 rest

def tried (source word : List Char) : List (List Char × List Char) := triedFrom word [] 0 source

variable {word : List Char}

theorem identifierAtAny (c : Option Char) : identifierAt c = c.any isIdentifierChar := by
  cases c <;> rfl

def isAlone (occurrence : List Char × List Char) : Bool :=
  !identifierAt occurrence.1.getLast? && !identifierAt occurrence.2.head?

theorem aloneIff (filled : word ≠ []) (own : ∀ c ∈ word, isIdentifierChar c = true)
    (occurrence : List Char × List Char) :
    isAlone occurrence = true ↔ Alone isIdentifierChar occurrence.1 word occurrence.2 := by
  unfold isAlone
  rw [Bool.and_eq_true,Bool.not_eq_true',Bool.not_eq_true',identifierAtAny,identifierAtAny]
  exact ⟨fun ⟨left,right⟩ => ⟨filled,own,left,right⟩,fun alone => ⟨alone.left,alone.right⟩⟩

theorem triedUses (passed : List Char) (skip : Nat) (text : List Char) :
    usesWordFrom word passed.getLast? skip text = (triedFrom word passed skip text).any isAlone := by
  induction text generalizing passed skip with
  | nil => cases skip <;> rfl
  | cons c text ih =>
    have last : (passed ++ [c]).getLast? = some c := List.getLast?_concat
    cases skip with
    | succ skip =>
      have later := ih (passed ++ [c]) skip
      rw [last] at later
      exact later
    | zero =>
      rw [usesWordFrom,triedFrom]
      split
      · have later := ih (passed ++ [c]) (word.length - 1)
        rw [last] at later
        rw [List.any_cons,later]
        rfl
      · have later := ih (passed ++ [c]) 0
        rw [last] at later
        exact later

theorem triedOccurs {passed : List Char} {skip : Nat} {text : List Char} {occurrence : List Char × List Char}
    (member : occurrence ∈ triedFrom word passed skip text) :
    ∃ between, occurrence.1 = passed ++ between ∧ text = between ++ (word ++ occurrence.2) := by
  induction text generalizing passed skip with
  | nil => cases skip <;> cases member
  | cons c text ih =>
    have behind {skip : Nat} (later : occurrence ∈ triedFrom word (passed ++ [c]) skip text) :
        ∃ between, occurrence.1 = passed ++ between ∧ c :: text = between ++ (word ++ occurrence.2) := by
      obtain ⟨between,front,rfl⟩ := ih later
      exact ⟨c :: between,by rw [front,List.append_assoc]; rfl,rfl⟩
    cases skip with
    | succ skip => exact behind member
    | zero =>
      rw [triedFrom] at member
      split at member
      · rename_i found
        rcases List.mem_cons.mp member with rfl | later
        · obtain ⟨after,whole⟩ := List.isPrefixOf_iff_prefix.mp found
          exact ⟨[],(List.append_nil _).symm,by rw [← whole,List.drop_left]; rfl⟩
        · exact behind later
      · exact behind member

theorem triedBeyond {passed : List Char} {skip : Nat} {text : List Char} {occurrence : List Char × List Char}
    (member : occurrence ∈ triedFrom word passed skip text) : passed.length + skip ≤ occurrence.1.length := by
  induction text generalizing passed skip with
  | nil => cases skip <;> cases member
  | cons c text ih =>
    have behind {next : Nat} (later : occurrence ∈ triedFrom word (passed ++ [c]) next text) :
        passed.length + next + 1 ≤ occurrence.1.length := by
      have least := ih later
      rw [List.length_append,List.length_singleton] at least
      omega
    cases skip with
    | succ skip => exact behind member
    | zero =>
      rw [triedFrom] at member
      split at member
      · rcases List.mem_cons.mp member with rfl | later
        · exact Nat.le_refl _
        · have least := behind later
          omega
      · have least := behind member
        omega

def Apart (word : List Char) (first second : List Char × List Char) : Prop :=
  first.1.length + word.length ≤ second.1.length

theorem triedApart (passed : List Char) (skip : Nat) (text : List Char) :
    (triedFrom word passed skip text).Pairwise (Apart word) := by
  induction text generalizing passed skip with
  | nil => cases skip <;> exact List.Pairwise.nil
  | cons c text ih =>
    cases skip with
    | succ skip => exact ih _ _
    | zero =>
      rw [triedFrom]
      split
      · refine List.pairwise_cons.mpr ⟨fun second later => ?_,ih _ _⟩
        have least := triedBeyond later
        rw [List.length_append,List.length_singleton] at least
        show passed.length + word.length ≤ second.1.length
        omega
      · exact ih _ _

structure Amid (passed : List Char) (skip : Nat) (text : List Char) : Prop where
  begun : 0 < skip → passed.getLast?.any isIdentifierChar = true
  own : ∀ c ∈ text.take skip, isIdentifierChar c = true

theorem amidStart (passed text : List Char) : Amid passed 0 text where
  begun := fun none => absurd none (Nat.lt_irrefl 0)
  own := fun c member => by simp at member

theorem amidNext {passed text : List Char} {skip : Nat} {c : Char} (amid : Amid passed (skip + 1) (c :: text)) :
    Amid (passed ++ [c]) skip text where
  begun := fun _ => by
    rw [List.getLast?_concat]
    exact amid.own c List.mem_cons_self
  own := fun d member => amid.own d (List.mem_cons_of_mem c member)

theorem amidFound {passed text after : List Char} {c : Char} (own : ∀ d ∈ word, isIdentifierChar d = true)
    (found : word ++ after = c :: text) : Amid (passed ++ [c]) (word.length - 1) text := by
  cases word with
  | nil => exact amidStart _ _
  | cons d word =>
    obtain ⟨rfl,rfl⟩ := List.cons.inj found
    obtain ⟨here,rest⟩ := List.forall_mem_cons.mp own
    have letters : (word ++ after).take word.length = word := List.take_left
    refine ⟨fun _ => ?_,?_⟩
    · rw [List.getLast?_concat]
      exact here
    · rw [List.length_cons,Nat.add_sub_cancel]
      exact fun d member => rest d (letters ▸ member)

/- The induction is on the text; behind a tried occurrence its own letters keep every overlapping one from
standing alone. -/
theorem aloneTried {passed between after text : List Char} {skip : Nat} (amid : Amid passed skip text)
    (whole : text = between ++ (word ++ after)) (alone : Alone isIdentifierChar (passed ++ between) word after) :
    (passed ++ between,after) ∈ triedFrom word passed skip text := by
  induction text generalizing passed skip between with
  | nil =>
    obtain ⟨-,none⟩ := List.append_eq_nil_iff.mp whole.symm
    exact absurd (List.append_eq_nil_iff.mp none).1 alone.filled
  | cons c text ih =>
    have behind {skip : Nat} {rest : List Char} (next : Amid (passed ++ [c]) skip text)
        (same : between = c :: rest) : (passed ++ between,after) ∈ triedFrom word (passed ++ [c]) skip text := by
      subst same
      have moved : passed ++ c :: rest = passed ++ [c] ++ rest := by rw [List.append_assoc]; rfl
      rw [moved] at alone ⊢
      exact ih next (List.cons.inj whole).2 alone
    cases skip with
    | succ skip =>
      cases between with
      | nil =>
        have outside := alone.left
        rw [List.append_nil,amid.begun (Nat.succ_pos skip)] at outside
        contradiction
      | cons d between =>
        obtain ⟨rfl,-⟩ := List.cons.inj whole
        exact behind (amidNext amid) rfl
    | zero =>
      rw [triedFrom]
      cases between with
      | nil =>
        have found : word.isPrefixOf (c :: text) = true := List.isPrefixOf_iff_prefix.mpr ⟨after,whole.symm⟩
        have rest : (c :: text).drop word.length = after := by
          rw [whole]
          exact List.drop_left
        rw [if_pos found,rest,List.append_nil]
        exact List.mem_cons_self
      | cons d between =>
        obtain ⟨rfl,-⟩ := List.cons.inj whole
        split
        · rename_i found
          obtain ⟨beyond,occurs⟩ := List.isPrefixOf_iff_prefix.mp found
          exact List.mem_cons_of_mem _ (behind (amidFound alone.own occurs) rfl)
        · exact behind (amidStart _ _) rfl

/- Only occurrences that do not overlap are tried. Every one that stands alone is among them. -/
theorem usedIffIdentifier (source : List Char) (filled : word ≠ [])
    (own : ∀ c ∈ word, isIdentifierChar c = true) :
    (∃ list, (∀ other, Tokens isIdentifierChar source other ↔ other = list) ∧
      (usesWord source word = true ↔ .word word ∈ list)) ∧
    usesWord source word = (tried source word).any isAlone ∧ (tried source word).Pairwise (Apart word) ∧
    (∀ before after, (before,after) ∈ tried source word → source = before ++ (word ++ after)) ∧
    ∀ before after, source = before ++ (word ++ after) → Alone isIdentifierChar before word after →
      (before,after) ∈ tried source word := by
  have searched : usesWord source word = (tried source word).any isAlone := triedUses [] 0 source
  have occurs {before after : List Char} (member : (before,after) ∈ tried source word) :
      source = before ++ (word ++ after) := by
    obtain ⟨between,rfl,whole⟩ := triedOccurs member
    exact whole
  have meets {before after : List Char} (whole : source = before ++ (word ++ after))
      (alone : Alone isIdentifierChar before word after) : (before,after) ∈ tried source word :=
    aloneTried (amidStart [] source) whole alone
  refine ⟨⟨tokens isIdentifierChar source,fun other => Text.tokensIff,?_⟩,searched,triedApart [] 0 source,
    fun _ _ => occurs,fun _ _ => meets⟩
  rw [Text.wordIff,searched,List.any_eq_true]
  constructor
  · rintro ⟨⟨before,after⟩,member,alone⟩
    exact ⟨before,after,occurs member,(aloneIff filled own _).mp alone⟩
  · rintro ⟨before,after,whole,alone⟩
    exact ⟨(before,after),meets whole alone,(aloneIff filled own _).mpr alone⟩

theorem overlappedWordUsed :
    usesWord "aéaéa aéa".toList "aéa".toList = true ∧
      tried "aéaéa aéa".toList "aéa".toList = [([],"éa aéa".toList),("aéaéa ".toList,[])] ∧
      Tokens isIdentifierChar "aéaéa aéa".toList [.word "aéaéa".toList,.mark ' ',.word "aéa".toList] := by
  have filled : "aéa".toList ≠ [] := by decide
  have own : ∀ c ∈ "aéa".toList, isIdentifierChar c = true := List.all_eq_true.mp (by decide +kernel)
  have list : Tokens isIdentifierChar "aéaéa aéa".toList [.word "aéaéa".toList,.mark ' ',.word "aéa".toList] :=
    Text.tokensIff.mpr (by decide +kernel)
  obtain ⟨⟨_,only,used⟩,-⟩ := usedIffIdentifier "aéaéa aéa".toList filled own
  refine ⟨used.mpr ?_,by decide +kernel,list⟩
  rw [← (only _).mp list]
  exact List.mem_of_getElem? (i := 2) rfl

end Playground.Check
