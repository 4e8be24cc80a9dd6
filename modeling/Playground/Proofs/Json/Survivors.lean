import Playground.Proofs.Json.Numerals
import Playground.Proofs.Json.Written

/-! Printed numbers. A number survives when the reader takes its printed form for a number that is
printed alike; all whole numbers of 64 bits do. A survivor is read back from any place where its
printed form stands whole. -/
namespace Playground.Json
open Text (Glyph)

/-! ## Characters of printed numbers -/

def isNumeral (c : Char) : Bool := c.isDigit || ['-','+','.','e'].contains c

def Numeral (s : String) : Prop := ∀ c ∈ s.toList, isNumeral c

theorem numeralAppend {s t : String} (left : Numeral s) (right : Numeral t) : Numeral (s ++ t) := by
  intro c member
  rw [String.toList_append] at member
  exact (List.mem_append.mp member).elim (left c) (right c)

theorem numeralOfList {t : List Char} (all : ∀ c ∈ t, isNumeral c) : Numeral (String.ofList t) := by
  rwa [Numeral,String.toList_ofList]

theorem numeralDigits (n : Nat) : ∀ c ∈ Nat.toDigits 10 n, isNumeral c := by
  intro c member
  simp [isNumeral,Nat.isDigit_of_mem_toDigits (by decide) (by decide) member]

theorem numeralNat (n : Nat) : Numeral (toString n) := by
  intro c member
  exact numeralDigits n c (Nat.toList_repr ▸ member)

theorem numeralZeros (count : Int) : Numeral (Playground.Number.zeros count) :=
  numeralOfList fun c member => by rw [List.eq_of_mem_replicate member]; rfl

theorem numeralRender (layout : Playground.Number.Layout) (d : Playground.Number.Decimal) :
    Numeral (d.render layout) := by
  have digits := numeralDigits d.digits
  have front (n : Nat) : Numeral (String.ofList ((Nat.toDigits 10 d.digits).take n)) :=
    numeralOfList fun c member => digits c (List.mem_of_mem_take member)
  have back (n : Nat) : Numeral (String.ofList ((Nat.toDigits 10 d.digits).drop n)) :=
    numeralOfList fun c member => digits c (List.mem_of_mem_drop member)
  have fixed {s : String} (all : s.toList.all isNumeral) : Numeral s := List.all_eq_true.mp all
  unfold Playground.Number.Decimal.render
  simp only
  split
  · refine numeralAppend (numeralAppend (numeralOfList digits) (numeralZeros _)) ?_
    split <;> exact fixed (by decide)
  · split
    · exact numeralAppend (numeralAppend (front _) (fixed (by decide))) (back _)
    · split
      · exact numeralAppend (numeralAppend (fixed (by decide)) (numeralZeros _)) (numeralOfList digits)
      · refine numeralAppend (numeralAppend (numeralAppend (numeralAppend (front 1) ?_) (fixed (by decide))) ?_)
          (numeralNat _)
        · split
          · exact fixed (by decide)
          · exact numeralAppend (fixed (by decide)) (back 1)
        · split
          · exact fixed (by decide)
          · split <;> exact fixed (by decide)

theorem numeralText (n : Number) : n.text = "null" ∨ Numeral n.text := by
  have minus : Numeral "-" := List.all_eq_true.mp (by decide)
  cases n with
  | int value =>
    refine .inr ?_
    cases value with
    | ofNat n => exact numeralNat n
    | negSucc n => exact numeralAppend minus (numeralNat (n + 1))
  | float x =>
    simp only [Number.text,floatText]
    split
    · exact .inl rfl
    · exact .inl rfl
    · rename_i negative mantissa exponent _
      refine .inr (numeralAppend ?_ ?_)
      · cases negative with
        | true => exact minus
        | false => exact List.all_eq_true.mp rfl
      · split
        · exact List.all_eq_true.mp (by decide)
        · exact numeralRender _ _

/-! ## Numbers that survive -/

/- Printed and read again, the number is printed alike. -/
def Number.Survives (n : Number) : Prop := ∃ again, parse n.text = .ok (.number again) ∧ again.text = n.text

def Number.reread (n : Number) : Number :=
  match parse n.text with
  | .ok (.number again) => again
  | _ => n

theorem survivorRead {n : Number} (survives : n.Survives) :
    parse n.text = .ok (.number n.reread) ∧ n.reread.text = n.text := by
  obtain ⟨again,read,same⟩ := survives
  simp only [Number.reread,read]
  exact ⟨trivial,same⟩

theorem survivorNumeral {n : Number} (survives : n.Survives) : Numeral n.text := by
  rcases numeralText n with null | numeral
  · obtain ⟨again,read,-⟩ := survives
    have word : parse "null" = .ok .null := by rfl
    rw [null,word] at read
    cases Except.ok.inj read
  · exact numeral

theorem numeralUnlike {c d : Char} (numeral : isNumeral c) (other : isNumeral d = false) : c ≠ d := by
  rintro rfl
  exact Bool.false_ne_true (other.symm.trans numeral)

theorem numeralVisible {c : Char} (numeral : isNumeral c) : isSpace (.char c) = false := by
  have blank := numeralUnlike (d := ' ') numeral (by decide)
  have line := numeralUnlike (d := '\n') numeral (by decide)
  have tab := numeralUnlike (d := '\t') numeral (by decide)
  have back := numeralUnlike (d := '\r') numeral (by decide)
  simp [isSpace,blank,line,tab,back]

def asNumber (reading : Reading Number) : Reading Json := reading.map fun (n,rest) => (.number n,rest)

theorem scalarNumeral {c : Char} (numeral : isNumeral c) (rest : List Glyph) :
    readScalar (.char c :: rest) =
      if c = '-' then asNumber (readNumber true rest)
      else if (digit? [.char c]).isSome then asNumber (readNumber false (.char c :: rest))
      else failPast .expectedValue (.char c :: rest) := by
  have unlike {d : Char} {after : List Glyph} (other : isNumeral d = false) : .char c :: rest ≠ .char d :: after :=
    fun same => numeralUnlike numeral other (Glyph.char.inj (List.cons.inj same).1)
  unfold readScalar
  split
  · contradiction
  · exact absurd ‹_› (unlike (by decide))
  · exact absurd ‹_› (unlike (by decide))
  · exact absurd ‹_› (unlike (by decide))
  · exact absurd ‹_› (unlike (by decide))
  · rename_i same
    obtain ⟨head,rfl⟩ := List.cons.inj same
    rw [if_pos (Glyph.char.inj head)]
    rfl
  · rename_i minus
    have plus : c ≠ '-' := fun same => minus rest (by rw [same])
    rw [if_neg plus]
    rfl

theorem treeNumeral {depth : Nat} {c : Char} (numeral : isNumeral c) (rest : List Glyph) :
    readTree depth (.char c :: rest) = readScalar (.char c :: rest) := by
  have plain {d : Char} (other : isNumeral d = false) : Glyph.char c ≠ .char d :=
    fun same => numeralUnlike numeral other (Glyph.char.inj same)
  exact treeScalar (numeralVisible numeral) (plain (by decide)) (plain (by decide))

theorem survivorScalar {n : Number} (survives : n.Survives) {rest : List Glyph} (delimits : Delimits rest) :
    readScalar (Text.glyphs n.text.toList ++ rest) = .ok (.number n.reread,rest) := by
  obtain ⟨tree,done,same⟩ := parsedWritten (survivorRead survives).1
  have number : tree = .number n.reread := by cases tree <;> simp_all [canonical]
  obtain ⟨left,read,blank⟩ := writtenIff.mp (number ▸ done)
  have numeral := survivorNumeral survives
  unfold Numeral at numeral
  cases text : n.text.toList with
  | nil =>
    rw [text] at read
    contradiction
  | cons c t =>
    rw [text] at read numeral
    have first := numeral c List.mem_cons_self
    -- the reader leaves nothing, for there is no space in a numeral
    have nothing (inside : left <:+ Text.glyphs (c :: t)) : left = [] := by
      cases left with
      | nil => rfl
      | cons g left =>
        obtain ⟨d,member,rfl⟩ := List.mem_map.mp (inside.subset List.mem_cons_self)
        have stays : skipSpace (.char d :: left) = .char d :: left :=
          List.dropWhile_cons_of_neg (by simp [numeralVisible (numeral d member)])
        exact absurd (stays.symm.trans blank) (List.cons_ne_nil _ _)
    rw [show Text.glyphs (c :: t) = .char c :: Text.glyphs t from rfl] at read nothing ⊢
    rw [treeNumeral first,scalarNumeral first] at read
    rw [List.cons_append,scalarNumeral first]
    split at read
    · rename_i minus
      obtain ⟨⟨m,_⟩,found,wrapped⟩ := mapRead read
      cases wrapped
      cases nothing ((numberLeft found).trans (List.suffix_cons _ _))
      rw [if_pos minus,numberEnd delimits found]
      rfl
    · rename_i plus
      split at read
      · rename_i digit
        obtain ⟨⟨m,_⟩,found,wrapped⟩ := mapRead read
        cases wrapped
        cases nothing (numberLeft found)
        rw [if_neg plus,if_pos digit,← List.cons_append,numberEnd delimits found]
        rfl
      · unfold failPast at read
        contradiction

theorem survivorStarts {n : Number} (survives : n.Survives) : ∃ c t, n.text.toList = c :: t ∧ isNumeral c := by
  have numeral := survivorNumeral survives
  unfold Numeral at numeral
  cases text : n.text.toList with
  | nil =>
    have read := survivorScalar survives delimitsEnd
    rw [text] at read
    contradiction
  | cons c t => exact ⟨c,t,rfl,numeral c (text ▸ List.mem_cons_self)⟩

/-! ## Whole numbers -/

theorem digitOf : ∀ d < 10, digit? [.char (Nat.digitChar d)] = some d := by decide

theorem digitsRead (negative : Bool) {n : Nat} (positive : 0 < n) (bound : n < significandLimit) (rest : List Glyph) :
    readNumber negative (Text.glyphs (Nat.toDigits 10 n) ++ rest) = readWhole negative n rest := by
  induction n using Nat.strongRecOn generalizing rest with
  | ind n ih =>
    rw [Nat.toDigits_eq_if (by decide)]
    split
    · rename_i single
      simp only [Text.glyphs,List.map_cons,List.map_nil,List.cons_append,List.nil_append,readNumber,digitOf n single]
      split
      · contradiction
      · rename_i zero
        cases zero
        contradiction
      · rename_i same
        cases same
        rfl
    · rename_i long
      have digit : n % 10 < 10 := Nat.mod_lt n (by decide)
      have whole : n / 10 * 10 + n % 10 = n := by omega
      have front := ih (n / 10) (by omega) (by omega) (by omega) (.char (Nat.digitChar (n % 10)) :: rest)
      rw [Text.glyphs,List.map_append,List.append_assoc]
      refine front.trans ?_
      simp only [readWhole,digitOf _ digit,whole,if_pos bound]

theorem digitsScalar (negative : Bool) {n : Nat} (positive : 0 < n) (bound : n < significandLimit) :
    readNumber negative (Text.glyphs (Nat.toDigits 10 n)) = .ok (wholeNumber negative n,[]) := by
  have read := digitsRead negative positive bound []
  rw [List.append_nil] at read
  rw [read]
  rfl

theorem numeralParsed {text : String} {n : Number} (numeral : Numeral text)
    (read : readScalar (Text.glyphs text.toList) = .ok (.number n,[])) : parse text = .ok (.number n) := by
  unfold Numeral at numeral
  have tree : written text = .ok (.number n) := by
    refine writtenIff.mpr ⟨[],?_,rfl⟩
    cases characters : text.toList with
    | nil =>
      rw [characters] at read
      contradiction
    | cons c t =>
      rw [characters] at read numeral
      exact (treeNumeral (numeral c List.mem_cons_self) _).trans read
  rw [parseCanonical,tree]
  simp only [Except.map,canonical]

theorem naturalSurvives {n : Nat} (bound : n < significandLimit) : (Number.int n).Survives := by
  refine ⟨.int n,numeralParsed (numeralNat n) ?_,rfl⟩
  have characters : (Number.int n).text.toList = Nat.toDigits 10 n := Nat.toList_repr
  rw [characters]
  rcases Nat.eq_zero_or_pos n with rfl | positive
  · rfl
  · have read := digitsScalar false positive bound
    have digits {c : Char} (member : c ∈ Nat.toDigits 10 n) : c.isDigit :=
      Nat.isDigit_of_mem_toDigits (by decide) (by decide) member
    cases listed : Nat.toDigits 10 n with
    | nil => exact absurd listed Nat.toDigits_ne_nil
    | cons c t =>
      rw [listed] at read digits
      have digit := digits List.mem_cons_self
      have numeral : isNumeral c := by simp [isNumeral,digit]
      have plus : c ≠ '-' := by
        rintro rfl
        contradiction
      have found : (digit? [.char c]).isSome := by simp [digit?,digit]
      have whole : readNumber false (.char c :: Text.glyphs t) = .ok (.int n,[]) := read
      refine (scalarNumeral numeral (Text.glyphs t)).trans ?_
      rw [if_neg plus,if_pos found,whole]
      rfl

theorem negativeSurvives {n : Nat} (positive : 0 < n) (bound : n ≤ 0x8000000000000000) :
    (Number.int (-(n : Int))).Survives := by
  have small : n < significandLimit := Nat.lt_of_le_of_lt bound (by decide)
  have read := digitsScalar true positive small
  have whole : wholeNumber true n = .int (-(n : Int)) := by
    have inside : ¬ (n = 0 ∨ 0x8000000000000000 < n) := by omega
    simp only [wholeNumber,Bool.not_true,if_neg inside]
    rfl
  obtain ⟨k,rfl⟩ : ∃ k, n = k + 1 := ⟨n - 1,by omega⟩
  have characters : (Number.int (-((k + 1 : Nat) : Int))).text.toList = '-' :: Nat.toDigits 10 (k + 1) := by
    have text : (Number.int (-((k + 1 : Nat) : Int))).text = "-" ++ toString (k + 1) := rfl
    rw [text,String.toList_append]
    exact congrArg _ Nat.toList_repr
  have numeral : Numeral (Number.int (-((k + 1 : Nat) : Int))).text :=
    numeralAppend (s := "-") (List.all_eq_true.mp (by decide)) (numeralNat (k + 1))
  refine ⟨.int (-((k + 1 : Nat) : Int)),numeralParsed numeral ?_,rfl⟩
  rw [characters]
  have head : isNumeral '-' := by decide
  refine (scalarNumeral head (Text.glyphs (Nat.toDigits 10 (k + 1)))).trans ?_
  rw [if_pos rfl,read,whole]
  rfl

theorem wholeSurvives {n : Int} (least : -(2 ^ 63) ≤ n) (greatest : n < 2 ^ 64) : (Number.int n).Survives := by
  obtain ⟨k,rfl | rfl⟩ := n.eq_nat_or_neg
  · exact naturalSurvives (by unfold significandLimit; omega)
  · rcases Nat.eq_zero_or_pos k with rfl | positive
    · exact naturalSurvives (n := 0) (by decide)
    · exact negativeSurvives positive (by omega)

end Playground.Json
