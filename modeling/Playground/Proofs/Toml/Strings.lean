import Playground.Proofs.Toml.Scalars

/-! Strings and keys in front of a further line. A string may go on over lines, so one that is not
closed may be closed by what follows; but a string that is read is read the same. -/
namespace Playground.Toml
open Left

variable {α γ δ : Type} [Left γ] [Left δ]

/- What is read without a further line is read in front of it. -/
def Stays (read : List Char → Option γ) : Prop :=
  ∀ {t found} (s : List Char), read t = some found → read (t ++ '\n' :: s) = some (followed ('\n' :: s) found)

theorem localStays {read : List Char → Option γ} (first : Local read) : Stays read := by
  intro t found s done
  rw [first,done]
  rfl

theorem staysBind {read : List Char → Option γ} {next : γ → Option δ} (first : Stays read)
    (further : ∀ {found result} (s : List Char), next found = some result →
      next (followed ('\n' :: s) found) = some (followed ('\n' :: s) result)) : Stays fun t => read t >>= next := by
  intro t result s done
  obtain ⟨found,here,later⟩ := Option.bind_eq_some_iff.mp done
  simp only [first s here]
  exact further s later

theorem codeLength {letters : List Char} {digits : List Nat} (read : letters.mapM hexValue? = some digits) :
    digits.length = letters.length := by
  induction letters generalizing digits with
  | nil =>
    cases read
    rfl
  | cons c letters ih =>
    rw [List.mapM_cons] at read
    obtain ⟨digit,-,further⟩ := Option.bind_eq_some_iff.mp read
    obtain ⟨digits',rest,same⟩ := Option.bind_eq_some_iff.mp further
    cases same
    simp [ih rest]

theorem codeStays (places : Nat) : Stays (readCode places) := by
  intro t found s done
  obtain ⟨digits,read,whole⟩ := Option.bind_eq_some_iff.mp done
  have length := codeLength read
  simp only at whole
  split at whole
  · rename_i counted
    have enough : places ≤ t.length := by
      simp only [Bool.and_eq_true,decide_eq_true_eq,List.length_take] at counted length
      omega
    cases whole
    simp only [readCode,List.take_append_of_le_length enough,read,List.drop_append_of_le_length enough]
    exact if_pos counted
  · contradiction

theorem escapeStays : Stays readEscape := by
  intro t found s done
  unfold readEscape at done
  split at done
  all_goals first
    | exact codeStays _ s done
    | contradiction
    | (cases done; rfl)

theorem basicPlain {c : Char} (quote : c ≠ '\x22') (escape : c ≠ '\\') (fuel : Nat) (seen rest : List Char) :
    readBasic (fuel + 1) seen (c :: rest) = if isPlain c then readBasic fuel (c :: seen) rest else none := by
  rw [readBasic]
  · exact quote
  · exact escape

theorem basicStays {fuel more : Nat} {seen t : List Char} {found : String × List Char}
    (done : readBasic fuel seen t = some found) (enough : fuel ≤ more) (s : List Char) :
    readBasic more seen (t ++ '\n' :: s) = some (followed ('\n' :: s) found) := by
  induction fuel generalizing more seen t with
  | zero => contradiction
  | succ fuel ih =>
    obtain ⟨more,rfl⟩ := Nat.exists_eq_add_of_le' (Nat.le_trans (Nat.le_add_left 1 fuel) enough)
    have enough : fuel ≤ more := Nat.le_of_succ_le_succ enough
    cases t with
    | nil => contradiction
    | cons c t =>
      by_cases quote : c = '\x22'
      · subst quote
        cases done
        rfl
      · by_cases escape : c = '\\'
        · subst escape
          obtain ⟨⟨c,rest⟩,read,further⟩ := Option.bind_eq_some_iff.mp done
          simp only [List.cons_append,readBasic,escapeStays s read,bind,Option.bind_some]
          exact ih further enough
        · rw [basicPlain quote escape] at done
          rw [List.cons_append,basicPlain quote escape]
          split at done
          · rename_i plain
            rw [if_pos plain]
            exact ih done enough
          · contradiction

theorem literalStays : Stays readLiteral := by
  intro t found s done
  have taken := takeWithin (fun c => isPlain c && c != '\x27') (by decide) t s
  simp only [readLiteral,taken,dropTaken] at done ⊢
  split at done
  · rename_i rest same
    cases done
    rw [same]
    rfl
  · contradiction

theorem closingWithin {quote : Char} (line : quote ≠ '\n') : Local (readClosing quote) := by
  intro t s
  have counted : ((t ++ '\n' :: s).take 5).takeWhile (· == quote) = (t.take 5).takeWhile (· == quote) := by
    rw [← List.take_takeWhile,← List.take_takeWhile,takeWithin _ (by simp [Ne.symm line])]
  have bound : ((t.take 5).takeWhile (· == quote)).length ≤ t.length :=
    Nat.le_trans (List.takeWhile_prefix _).length_le (List.length_take_le' 5 t)
  simp only [readClosing,counted,List.drop_append_of_le_length bound]
  split <;> rfl

theorem newlineStays : Stays readNewline := by
  intro t rest s done
  unfold readNewline at done
  split at done
  · cases done
    rfl
  · cases done
    rfl
  · contradiction

theorem plainContinues {c : Char} (plain : isPlain c = true) (t : List Char) : readNewline (c :: t) = none := by
  unfold readNewline
  split
  · rename_i same
    cases same
    contradiction
  · rename_i same
    cases same
    contradiction
  · rfl

theorem joinStays {t rest : List Char} {c : Char} (done : readLineJoin t = some (c :: rest)) (s : List Char) :
    readLineJoin (t ++ '\n' :: s) = some (c :: rest ++ '\n' :: s) := by
  obtain ⟨left,ended,joined⟩ := Option.bind_eq_some_iff.mp done
  simp only at joined
  split at joined
  · rename_i paired
    have dropped := Option.some.inj joined
    have short : ¬ (left.takeWhile fun c => isSpace c || c == '\n' || c == '\x0d').length = left.length := by
      intro all
      rw [all,List.drop_length] at dropped
      contradiction
    have taken : (left ++ '\n' :: s).takeWhile (fun c => isSpace c || c == '\n' || c == '\x0d') =
        left.takeWhile fun c => isSpace c || c == '\n' || c == '\x0d' := by
      rw [List.takeWhile_append,if_neg short]
    simp only [readLineJoin,spaceWithin,newlineStays s ended,bind,Option.bind_some,followed,taken,dropTaken,dropped]
    exact if_pos paired
  · contradiction

theorem escapeUnjoined {t : List Char} {found : Char × List Char} (read : readEscape t = some found) (s : List Char) :
    readLineJoin (t ++ s) = none := by
  unfold readEscape at read
  split at read
  all_goals first
    | contradiction
    | rfl

section Multiline

variable {quote : Char} {escapes : Bool} {fuel more : Nat} {seen t s : List Char} {c : Char}
  {found : String × List Char} (line : quote ≠ '\n')
  (again : ∀ {seen t}, readMultiline quote escapes fuel seen t = some found →
    readMultiline quote escapes more seen (t ++ '\n' :: s) = some (followed ('\n' :: s) found))
include again

theorem escapedStays (escape : (escapes && c == '\\') = true)
    (done : readMultiline quote escapes (fuel + 1) seen (c :: t) = some found) :
    readMultiline quote escapes (more + 1) seen (c :: (t ++ '\n' :: s)) = some (followed ('\n' :: s) found) := by
  simp only [readMultiline,escape,if_true] at done ⊢
  cases join : readLineJoin t with
  | some joined =>
    rw [join] at done
    cases joined with
    | nil => cases fuel <;> contradiction
    | cons d rest =>
      rw [joinStays join]
      exact again done
  | none =>
    rw [join] at done
    obtain ⟨⟨d,rest⟩,read,further⟩ := Option.bind_eq_some_iff.mp done
    rw [escapeUnjoined read]
    simp only [escapeStays s read,bind,Option.bind_some]
    exact again further

include line

theorem unescapedStays (plain : (escapes && c == '\\') = false)
    (done : readMultiline quote escapes (fuel + 1) seen (c :: t) = some found) :
    readMultiline quote escapes (more + 1) seen (c :: (t ++ '\n' :: s)) = some (followed ('\n' :: s) found) := by
  have closing := closingWithin line (c :: t) s
  rw [List.cons_append] at closing
  simp only [readMultiline,plain,Bool.false_eq_true,if_false,closing] at done ⊢
  cases closed : readClosing quote (c :: t) with
  | some rest =>
    rw [closed] at done
    cases done
    rfl
  | none =>
    rw [closed] at done
    cases ended : readNewline (c :: t) with
    | some rest =>
      rw [ended] at done
      have ended := newlineStays s ended
      rw [List.cons_append] at ended
      simp only [Option.map_none,ended]
      exact again done
    | none =>
      rw [ended] at done
      simp only at done
      split at done
      · rename_i allowed
        simp only [Option.map_none,plainContinues allowed,allowed,if_true]
        exact again done
      · contradiction

end Multiline

theorem multilineStays {quote : Char} (line : quote ≠ '\n') {escapes : Bool} {fuel more : Nat} {seen t : List Char}
    {found : String × List Char} (done : readMultiline quote escapes fuel seen t = some found) (enough : fuel ≤ more)
    (s : List Char) : readMultiline quote escapes more seen (t ++ '\n' :: s) = some (followed ('\n' :: s) found) := by
  induction fuel generalizing more seen t with
  | zero => contradiction
  | succ fuel ih =>
    obtain ⟨more,rfl⟩ := Nat.exists_eq_add_of_le' (Nat.le_trans (Nat.le_add_left 1 fuel) enough)
    have enough : fuel ≤ more := Nat.le_of_succ_le_succ enough
    cases t with
    | nil => contradiction
    | cons c t =>
      cases escape : escapes && c == '\\' with
      | true => exact escapedStays (fun done => ih done enough) escape done
      | false => exact unescapedStays line (fun done => ih done enough) escape done

theorem newlineAbsent {t : List Char} (absent : readNewline t = none) (filled : t ≠ []) (return_ : t ≠ ['\x0d'])
    (s : List Char) : readNewline (t ++ '\n' :: s) = none := by
  cases t with
  | nil => contradiction
  | cons c t =>
    unfold readNewline at absent ⊢
    split
    · rename_i same
      cases same
      contradiction
    · rename_i rest same
      obtain ⟨rfl,further⟩ := List.cons.inj same
      cases t with
      | nil => contradiction
      | cons d t =>
        cases further
        contradiction
    · rfl

theorem openingStays {quote : Char} (line : quote ≠ '\n') (escapes : Bool) :
    Stays fun t => readMultiline quote escapes (t.length + 1) [] (dropFirstNewline t) := by
  intro t found s done
  have enough : t.length + 1 ≤ (t ++ '\n' :: s).length + 1 := by simp
  have dropped : dropFirstNewline (t ++ '\n' :: s) = dropFirstNewline t ++ '\n' :: s := by
    unfold dropFirstNewline
    cases ended : readNewline t with
    | some rest =>
      rw [newlineStays s ended]
      rfl
    | none =>
      have opened : dropFirstNewline t = t := by rw [dropFirstNewline,ended,Option.getD_none]
      simp only [opened] at done
      rw [newlineAbsent ended ?_ ?_ s]
      · rfl
      · rintro rfl
        contradiction
      · rintro rfl
        have few : (['\x0d'].takeWhile (· == quote)).length ≤ 1 := (List.takeWhile_prefix _).length_le
        have closed : readClosing quote ['\x0d'] = none := if_neg (Nat.not_le.mpr (Nat.lt_of_le_of_lt few (by decide)))
        have plain : isPlain '\x0d' = false := by decide
        simp [readMultiline,closed,readNewline,plain] at done
  simp only [dropped]
  exact multilineStays line done enough s

theorem basicString {rest : List Char} (single : ∀ left, rest ≠ '\x22' :: '\x22' :: left) :
    readString ('\x22' :: rest) = readBasic (rest.length + 1) [] rest := by
  rw [readString]
  exact single

theorem literalString {rest : List Char} (single : ∀ left, rest ≠ '\x27' :: '\x27' :: left) :
    readString ('\x27' :: rest) = readLiteral rest := by
  rw [readString]
  exact single

theorem quotesApart {c : Char} (line : c ≠ '\n') {rest : List Char} (single : ∀ left, rest ≠ c :: c :: left)
    (s : List Char) : ∀ left, rest ++ '\n' :: s ≠ c :: c :: left := fun left same => by
  obtain ⟨left,rfl,-⟩ := wordWithin [c,c] (by simp [Ne.symm line]) same
  exact single left rfl

theorem stringStays : Stays readString := by
  intro t found s done
  unfold readString at done
  split at done
  · exact openingStays (by decide) true s done
  · exact openingStays (by decide) false s done
  · rename_i single
    rw [List.cons_append,basicString (quotesApart (by decide) single s)]
    exact basicStays done (by simp) s
  · rename_i single
    rw [List.cons_append,literalString (quotesApart (by decide) single s)]
    exact literalStays s done
  · contradiction

/-! ## Keys -/

theorem bareKey {t : List Char} (basic : ∀ rest, t ≠ '\x22' :: rest) (literal : ∀ rest, t ≠ '\x27' :: rest) :
    readSimpleKey t = let name := t.takeWhile isBareKeyChar
      if name.isEmpty then none else some (String.ofList name,t.drop name.length) := by
  rw [readSimpleKey]
  · exact basic
  · exact literal

theorem simpleKeyStays : Stays readSimpleKey := by
  intro t found s done
  cases t with
  | nil => contradiction
  | cons c rest =>
    by_cases basic : c = '\x22'
    · subst basic
      exact basicStays done (by simp) s
    · by_cases literal : c = '\x27'
      · subst literal
        exact literalStays s done
      · have apart (rest rest' : List Char) : c :: rest ≠ '\x22' :: rest' ∧ c :: rest ≠ '\x27' :: rest' :=
          ⟨fun same => basic (List.cons.inj same).1,fun same => literal (List.cons.inj same).1⟩
        have taken := takeWithin isBareKeyChar (by decide) (c :: rest) s
        have dropped := dropTaken isBareKeyChar (c :: rest) s
        rw [bareKey (fun rest' => (apart rest rest').1) (fun rest' => (apart rest rest').2)] at done
        rw [List.cons_append,bareKey (fun rest' => (apart _ rest').1) (fun rest' => (apart _ rest').2)]
        rw [List.cons_append] at taken dropped
        simp only [taken,dropped] at done ⊢
        split at done
        · contradiction
        · rename_i named
          cases done
          exact if_neg named

theorem keysStays (fuel : Nat) : Stays (readKeys fuel) := by
  intro t found s done
  induction fuel generalizing t found with
  | zero => contradiction
  | succ fuel ih =>
    obtain ⟨⟨key,rest⟩,read,further⟩ := Option.bind_eq_some_iff.mp done
    simp only [readKeys,spaceWithin,simpleKeyStays s read,bind,Option.bind_some,followed] at further ⊢
    split at further
    · rename_i inner same
      obtain ⟨⟨keys,left⟩,again,whole⟩ := Option.bind_eq_some_iff.mp further
      cases whole
      simp only [same,List.cons_append,ih again]
      rfl
    · rename_i apart
      cases further
      split
      · rename_i same
        obtain ⟨left,dotted,-⟩ := headWithin (by decide) same
        exact absurd dotted (apart left)
      · rfl

end Playground.Toml
