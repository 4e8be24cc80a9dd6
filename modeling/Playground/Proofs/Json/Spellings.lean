import Playground.Json.Reader
import Playground.Proofs.Text.Bytes
import Playground.Text.Hex

/-! The spellings of a text as a JSON string. A character may stand for itself, have an escape of its
own, or be given by the hexadecimal digits of its code units. Main statements: every spelling is read
back to the text, whatever stands behind it, and it has at most six bytes for each byte of the text. -/
namespace Playground.Json
open Text (Glyph encoded IsAscii)

def shortEscapes : List (Char × Char) :=
  [('"','"'),('\\','\\'),('/','/'),('b','\x08'),('f','\x0c'),('n','\n'),('r','\r'),('t','\t')]

def fourDigits? : List Char → Option Nat
  | [a,b,c,d] => do
    let a ← Text.hexDigitValue? a
    let b ← Text.hexDigitValue? b
    let c ← Text.hexDigitValue? c
    let d ← Text.hexDigitValue? d
    return ((a * 16 + b) * 16 + c) * 16 + d
  | _ => none

def unitMark : List Char := ['\\','u']

/- The ways to spell one character. Only a character that takes two code units is given by a pair of them. -/
inductive Piece : List Char → Char → Prop
  | plain {c} (printable : 32 ≤ c.toNat) (quote : c ≠ '"') (slash : c ≠ '\\') : Piece [c] c
  | short {mark c} (known : (mark,c) ∈ shortEscapes) : Piece ['\\',mark] c
  | unit {digits c} (code : fourDigits? digits = some c.toNat) : Piece (unitMark ++ digits) c
  | pair {lead trail c high low} (first : fourDigits? lead = some (0xd800 + high)) (most : high < 1024)
      (second : fourDigits? trail = some (0xdc00 + low)) (last : low < 1024)
      (code : c.toNat = 0x10000 + high * 1024 + low) : Piece ((unitMark ++ lead) ++ (unitMark ++ trail)) c

inductive Spells : List Char → List Char → Prop
  | nil : Spells [] []
  | cons {piece c spelled text} (first : Piece piece c) (rest : Spells spelled text) :
      Spells (piece ++ spelled) (c :: text)

/-! ## Digits -/

theorem hexSame (c : Char) : hexValue? (.char c) = Text.hexDigitValue? c := by
  simp only [hexValue?,Text.hexDigitValue?,Bool.and_eq_true,decide_eq_true_eq]

theorem hexAscii {c : Char} {d : Nat} (digit : Text.hexDigitValue? c = some d) : IsAscii c := by
  have below {last : Char} (least : c ≤ last) (ascii : IsAscii last) : IsAscii c :=
    Nat.lt_of_le_of_lt (show c.toNat ≤ last.toNat from least) ascii
  unfold Text.hexDigitValue? at digit
  split at digit
  · rename_i decimal
    simp only [Char.isDigit,Bool.and_eq_true,decide_eq_true_eq] at decimal
    exact below (show c ≤ '9' from decimal.2) (by decide)
  split at digit
  · rename_i lower
    exact below lower.2 (by decide)
  split at digit
  · rename_i upper
    exact below upper.2 (by decide)
  · contradiction

theorem fourDigitsFound {digits : List Char} {code : Nat} (found : fourDigits? digits = some code) :
    ∃ a b c d w x y z, digits = [a,b,c,d] ∧ Text.hexDigitValue? a = some w ∧ Text.hexDigitValue? b = some x ∧
      Text.hexDigitValue? c = some y ∧ Text.hexDigitValue? d = some z ∧ ((w * 16 + x) * 16 + y) * 16 + z = code := by
  unfold fourDigits? at found
  split at found
  · rename_i a b c d
    simp only [bind,Option.bind_eq_some_iff,pure,Option.some.injEq] at found
    obtain ⟨w,first,x,second,y,third,z,fourth,value⟩ := found
    exact ⟨a,b,c,d,w,x,y,z,rfl,first,second,third,fourth,value⟩
  · contradiction

theorem fourDigitsRead {digits : List Char} {code : Nat} (found : fourDigits? digits = some code) (rest : List Glyph) :
    readHex (Text.glyphs digits ++ rest) = .ok (code,rest) := by
  obtain ⟨a,b,c,d,w,x,y,z,rfl,first,second,third,fourth,value⟩ := fourDigitsFound found
  have width (c : Char) : 0 < (Glyph.char c).width := c.utf8Size_pos
  have wide : ¬ byteCount ((Text.glyphs [a,b,c,d] ++ rest).take 4) < 4 := by
    have := width a
    have := width b
    have := width c
    have := width d
    simp only [byteCount,Text.glyphs,List.map_cons,List.map_nil,List.cons_append,List.nil_append,List.take_succ_cons,
      List.take_zero,List.foldl_cons,List.foldl_nil]
    omega
  unfold readHex
  rw [if_neg wide]
  simp only [Text.glyphs,List.map_cons,List.map_nil,List.cons_append,List.nil_append,List.take_succ_cons,
    List.take_zero,List.mapM_cons,List.mapM_nil,hexSame,first,second,third,fourth,List.drop_succ_cons,List.drop_zero]
  exact congrArg (fun n => Except.ok (n,rest)) value

theorem encodedJoined (front back : List Char) : encoded (front ++ back) = encoded front ++ encoded back :=
  List.flatMap_append

theorem asciiSize {text : List Char} (ascii : ∀ c ∈ text, IsAscii c) : (encoded text).length = text.length := by
  induction text with
  | nil => rfl
  | cons c text ih =>
    obtain ⟨first,others⟩ := List.forall_mem_cons.mp ascii
    have here : encoded (c :: text) = Text.asciiByte c :: encoded text := by
      rw [encoded,List.flatMap_cons,Text.asciiEncoded first]
      rfl
    rw [here,List.length_cons,List.length_cons,ih others]

theorem unitSize {digits : List Char} {code : Nat} (found : fourDigits? digits = some code) :
    (encoded (unitMark ++ digits)).length = 6 := by
  obtain ⟨a,b,c,d,w,x,y,z,rfl,first,second,third,fourth,-⟩ := fourDigitsFound found
  refine asciiSize fun e member => ?_
  simp only [unitMark,List.mem_cons,List.mem_append,List.not_mem_nil,or_false] at member
  rcases member with (rfl | rfl) | rfl | rfl | rfl | rfl
  · decide
  · decide
  · exact hexAscii first
  · exact hexAscii second
  · exact hexAscii third
  · exact hexAscii fourth

/-! ## Characters -/

theorem codeValid (c : Char) : c.toNat < 0xd800 ∨ 0xdfff < c.toNat ∧ c.toNat < 0x110000 := c.valid

theorem unitRead {digits : List Char} {c : Char} (code : fourDigits? digits = some c.toNat) (rest : List Glyph) :
    readUnits (Text.glyphs digits ++ rest) = .ok (c,rest) := by
  have valid := codeValid c
  unfold readUnits
  simp only [fourDigitsRead code]
  rw [if_neg (by omega),if_pos (by omega),Char.ofNat_toNat]

theorem pairRead {lead trail : List Char} {c : Char} {high low : Nat} (first : fourDigits? lead = some (0xd800 + high))
    (most : high < 1024) (second : fourDigits? trail = some (0xdc00 + low)) (last : low < 1024)
    (code : c.toNat = 0x10000 + high * 1024 + low) (rest : List Glyph) :
    readUnits (Text.glyphs lead ++ .char '\\' :: .char 'u' :: (Text.glyphs trail ++ rest)) = .ok (c,rest) := by
  have value : (0xd800 + high - 0xd800) * 1024 + (0xdc00 + low - 0xdc00) + 0x10000 = c.toNat := by omega
  unfold readUnits
  simp only [fourDigitsRead first,fourDigitsRead second]
  rw [if_neg (by omega),if_neg (by omega),if_neg (by omega),value,Char.ofNat_toNat]

theorem pieceRead {piece : List Char} {c : Char} (spells : Piece piece c) (fuel : Nat) (seen : List Char)
    (rest : List Glyph) :
    readString.go (fuel + 1) seen false (Text.glyphs piece ++ rest) = readString.go fuel (c :: seen) false rest := by
  cases spells with
  | plain printable quote slash =>
    show readString.go (fuel + 1) seen false (.char c :: rest) = _
    rw [readString.go]
    · exact if_neg (Nat.not_lt.mpr printable)
    · exact quote
    · exact slash
  | short known =>
    simp only [shortEscapes,List.mem_cons,Prod.mk.injEq,List.not_mem_nil,or_false] at known
    rcases known with ⟨rfl,rfl⟩ | ⟨rfl,rfl⟩ | ⟨rfl,rfl⟩ | ⟨rfl,rfl⟩ | ⟨rfl,rfl⟩ | ⟨rfl,rfl⟩ | ⟨rfl,rfl⟩ | ⟨rfl,rfl⟩
    all_goals rfl
  | @unit digits _ code =>
    show readString.go (fuel + 1) seen false (.char '\\' :: .char 'u' :: (Text.glyphs digits ++ rest)) = _
    simp only [readString.go,readEscape,unitRead code]
  | @pair lead trail _ _ _ first most second last code =>
    have spelled : Text.glyphs ((unitMark ++ lead) ++ (unitMark ++ trail)) ++ rest = .char '\\' :: .char 'u' ::
        (Text.glyphs lead ++ .char '\\' :: .char 'u' :: (Text.glyphs trail ++ rest)) := by
      simp [Text.glyphs,unitMark]
    rw [spelled]
    simp only [readString.go,readEscape,pairRead first most second last code]

theorem pairSize {c : Char} (wide : 0x10000 ≤ c.toNat) : c.utf8Size = 4 := by
  have beyond (n : Nat) (small : n < 0x10000) : ¬ c.val.toNat ≤ n :=
    Nat.not_le.mpr (Nat.lt_of_lt_of_le small wide)
  rw [← String.length_utf8EncodeChar]
  unfold String.utf8EncodeChar
  dsimp only
  rw [if_neg (beyond _ (by decide)),if_neg (beyond _ (by decide)),if_neg (beyond _ (by decide))]
  rfl

theorem pieceSize {piece : List Char} {c : Char} (spells : Piece piece c) :
    (encoded piece).length ≤ 6 * c.utf8Size := by
  have least := c.utf8Size_pos
  cases spells with
  | plain =>
    rw [encoded,List.flatMap_singleton,String.length_utf8EncodeChar]
    omega
  | @short mark _ known =>
    have each : ∀ entry ∈ shortEscapes, (encoded ['\\',entry.1]).length = 2 := by decide
    have size : (encoded ['\\',mark]).length = 2 := each _ known
    omega
  | unit code =>
    rw [unitSize code]
    omega
  | pair first most second last code =>
    have wide := pairSize (c := c) (by omega)
    rw [encodedJoined,List.length_append,unitSize first,unitSize second]
    omega

theorem pieceFilled {piece : List Char} {c : Char} (spells : Piece piece c) : 0 < piece.length := by
  cases spells <;> exact Nat.succ_pos _

/-! ## Texts -/

theorem spelledLength {spelled text : List Char} (spells : Spells spelled text) : text.length ≤ spelled.length := by
  induction spells with
  | nil => exact Nat.le_refl 0
  | cons first _ ih =>
    have filled := pieceFilled first
    rw [List.length_append,List.length_cons]
    omega

theorem spelledCharacters {spelled text : List Char} (spells : Spells spelled text) {fuel : Nat}
    (enough : text.length < fuel) (seen : List Char) (rest : List Glyph) :
    readString.go fuel seen false (Text.glyphs spelled ++ .char '"' :: rest) =
      .ok (String.ofList (seen.reverse ++ text),rest) := by
  induction spells generalizing fuel seen with
  | nil =>
    obtain _ | fuel := fuel
    · contradiction
    · rw [List.append_nil]
      rfl
  | @cons piece c spelled text first _ ih =>
    obtain _ | fuel := fuel
    · contradiction
    · have step := pieceRead first fuel seen (Text.glyphs spelled ++ .char '"' :: rest)
      rw [Text.glyphs,List.map_append,List.append_assoc]
      refine step.trans ((ih (Nat.lt_of_succ_lt_succ enough) (c :: seen)).trans ?_)
      rw [List.reverse_cons,List.append_assoc,List.singleton_append]

theorem spelledRead {spelled text : List Char} (spells : Spells spelled text) (rest : List Glyph) :
    readString (Text.glyphs spelled ++ .char '"' :: rest) = .ok (String.ofList text,rest) := by
  have enough : text.length < (Text.glyphs spelled ++ .char '"' :: rest).length + 1 := by
    have least := spelledLength spells
    simp only [Text.glyphs,List.length_append,List.length_map]
    omega
  exact spelledCharacters spells enough [] rest

theorem spelledSize {spelled text : List Char} (spells : Spells spelled text) :
    (encoded spelled).length ≤ 6 * (encoded text).length := by
  induction spells with
  | nil => exact Nat.le_refl 0
  | @cons piece c spelled text first _ ih =>
    have here := pieceSize first
    have front : encoded (c :: text) = String.utf8EncodeChar c ++ encoded text := rfl
    rw [encodedJoined,front,List.length_append,List.length_append,String.length_utf8EncodeChar]
    omega

theorem ownSpells {text : List Char} (bare : ∀ c ∈ text, 32 ≤ c.toNat ∧ c ≠ '"' ∧ c ≠ '\\') : Spells text text := by
  induction text with
  | nil => exact .nil
  | cons c text ih =>
    obtain ⟨⟨printable,quote,slash⟩,others⟩ := List.forall_mem_cons.mp bare
    exact .cons (.plain printable quote slash) (ih others)

def units (digits : List Char) (n : Nat) : List Char := (List.replicate n (unitMark ++ digits)).flatten

theorem unitsSpell {digits : List Char} {c : Char} (code : fourDigits? digits = some c.toNat) (n : Nat) :
    Spells (units digits n) (List.replicate n c) ∧ (encoded (units digits n)).length = 6 * n := by
  induction n with
  | zero => exact ⟨.nil,rfl⟩
  | succ n ih =>
    have one : units digits (n + 1) = (unitMark ++ digits) ++ units digits n := rfl
    rw [one,List.replicate_succ,encodedJoined,List.length_append,unitSize code,ih.2]
    exact ⟨.cons (.unit code) ih.1,by omega⟩

end Playground.Json
