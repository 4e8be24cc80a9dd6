import Playground.Toml.Reader

/-! Numbers, dates and words in front of a further line. What a reader takes ends within its line, so
it reads the same there, and the further line is left behind whatever it leaves. -/
namespace Playground.Toml

class Left (γ : Type) where
  followed : List Char → γ → γ

instance : Left (List Char) := ⟨fun more rest => rest ++ more⟩

instance : Left (α × List Char) := ⟨fun more found => (found.1,found.2 ++ more)⟩

open Left

/- A reader reads in front of a further line what it reads without, and fails where it fails. -/
def Local [Left γ] (read : List Char → Option γ) : Prop :=
  ∀ t s, read (t ++ '\n' :: s) = (read t).map (followed ('\n' :: s))

variable {α β γ δ : Type} [Left γ] [Left δ]

theorem localSome : Local (some : List Char → Option (List Char)) := fun _ _ => rfl

theorem localPure (a : α) : Local fun t => some (a,t) := fun _ _ => rfl

theorem localNone : Local fun _ => (none : Option γ) := fun _ _ => rfl

theorem localBind {read : List Char → Option γ} {next : γ → Option δ} (first : Local read)
    (further : ∀ found s, next (followed ('\n' :: s) found) = (next found).map (followed ('\n' :: s))) :
    Local fun t => read t >>= next := by
  intro t s
  simp only [first t s]
  cases read t with
  | none => rfl
  | some found => exact further found s

theorem localWhere {read other : List Char → Option γ} (p : Prop) [Decidable p] (first : Local read)
    (second : Local other) : Local fun t => if p then read t else other t := by
  intro t s
  split
  · exact first t s
  · exact second t s

theorem localOptional {read : List Char → Option γ} (first : Local read) (t s : List Char) (left : γ) :
    (read (t ++ '\n' :: s)).getD (followed ('\n' :: s) left) = followed ('\n' :: s) ((read t).getD left) := by
  rw [first]
  cases read t <;> rfl

theorem headWithin {c : Char} (line : c ≠ '\n') {t s rest : List Char} (same : t ++ '\n' :: s = c :: rest) :
    ∃ left, t = c :: left ∧ rest = left ++ '\n' :: s := by
  cases t with
  | nil => exact absurd (List.cons.inj same).1.symm line
  | cons d t =>
    obtain ⟨rfl,rfl⟩ := List.cons.inj same
    exact ⟨t,rfl,rfl⟩

theorem wordWithin (word : List Char) (single : '\n' ∉ word) {t s rest : List Char}
    (same : t ++ '\n' :: s = word ++ rest) : ∃ left, t = word ++ left ∧ rest = left ++ '\n' :: s := by
  induction word generalizing t with
  | nil => exact ⟨t,rfl,same.symm⟩
  | cons c word ih =>
    simp only [List.mem_cons,not_or] at single
    obtain ⟨left,rfl,further⟩ := headWithin (Ne.symm single.1) same
    obtain ⟨left,rfl,rest⟩ := ih single.2 further.symm
    exact ⟨left,rfl,rest⟩

theorem takeWithin (holds : Char → Bool) (line : holds '\n' = false) (t s : List Char) :
    (t ++ '\n' :: s).takeWhile holds = t.takeWhile holds := by
  induction t with
  | nil => simp [line]
  | cons c t ih => simp only [List.cons_append,List.takeWhile_cons,ih]

theorem dropWithin (holds : Char → Bool) (line : holds '\n' = false) (t s : List Char) :
    (t ++ '\n' :: s).dropWhile holds = t.dropWhile holds ++ '\n' :: s := by
  induction t with
  | nil => simp [line]
  | cons c t ih =>
    simp only [List.cons_append,List.dropWhile_cons,ih]
    split <;> rfl

theorem dropTaken (holds : Char → Bool) (t s : List Char) :
    (t ++ '\n' :: s).drop (t.takeWhile holds).length = t.drop (t.takeWhile holds).length ++ '\n' :: s :=
  List.drop_append_of_le_length (List.takeWhile_prefix holds).length_le

theorem spaceWithin (t s : List Char) : skipSpace (t ++ '\n' :: s) = skipSpace t ++ '\n' :: s :=
  dropWithin _ rfl t s

theorem commentWithin (t s : List Char) : skipComment (t ++ '\n' :: s) = skipComment t ++ '\n' :: s := by
  cases t with
  | nil => rfl
  | cons c t =>
    by_cases mark : c = '#'
    · subst mark
      exact dropWithin _ rfl t s
    · simp [skipComment,mark]

theorem markWithin {c : Char} (line : c ≠ '\n') : Local (readMark c) := by
  intro t s
  cases t with
  | nil => simp [readMark,Ne.symm line]
  | cons d t => by_cases same : d = c <;> simp [readMark,same,followed]

/-! ## Numbers -/

theorem digitsWithin {holds : Char → Bool} (line : holds '\n' = false) : Local (readDigits holds) := by
  intro t s
  have taken := takeWithin (fun c => holds c || c == '_') (by simp [line]) t s
  simp only [readDigits,taken,dropTaken]
  split <;> rfl

theorem decimalsWithin : Local (readDigits Char.isDigit) := digitsWithin rfl

theorem signWithin (t s : List Char) : readSign (t ++ '\n' :: s) = ((readSign t).1,(readSign t).2 ++ '\n' :: s) := by
  cases t with
  | nil => rfl
  | cons c t =>
    by_cases plus : c = '+'
    · simp [readSign,plus]
    · by_cases minus : c = '-'
      · simp [readSign,minus]
      · simp [readSign,plus,minus]

theorem wholeWithin : Local readWhole :=
  localBind decimalsWithin fun (digits,rest) s => localWhere _ localNone (localPure digits) rest s

theorem exponentWithin : Local readExponent := by
  intro t s
  cases t with
  | nil => rfl
  | cons c t =>
    simp only [List.cons_append,readExponent,signWithin,decimalsWithin _ s]
    split
    · cases readDigits Char.isDigit (readSign t).2 <;> rfl
    · rfl

theorem fractionWithin (whole : List Char) : Local (readFraction whole) := by
  intro t s
  unfold readFraction
  split
  · rename_i fraction same
    obtain ⟨left,rfl,rfl⟩ := headWithin (by decide) same
    refine localBind decimalsWithin (fun (places,rest) s => ?_) left s
    have exponent := localOptional exponentWithin rest s (0,rest)
    simp only [followed] at exponent ⊢
    rw [exponent]
    rfl
  · rename_i apart
    split
    · exact absurd rfl (apart _)
    · exact localBind exponentWithin (fun (exponent,rest) s => localPure (whole,exponent) rest s) t s

theorem decimalWithin (negative : Bool) : Local (readDecimal negative) :=
  localBind wholeWithin fun (whole,rest) s =>
    localBind (fractionWithin whole) (fun ((_,_),rest) s => localWhere _ (localPure Toml.float) localNone rest s)
      rest s

theorem floatWithin : Local readFloat := by
  intro t s
  simp only [readFloat,signWithin]
  generalize (readSign t).2 = unsigned
  split
  · rename_i rest same
    obtain ⟨left,rfl,rfl⟩ := wordWithin ['i','n','f'] (by decide) same
    rfl
  · rename_i rest same
    obtain ⟨left,rfl,rfl⟩ := wordWithin ['n','a','n'] (by decide) same
    rfl
  · rename_i infinite undefined
    split
    · exact absurd rfl (infinite _)
    · exact absurd rfl (undefined _)
    · exact decimalWithin _ unsigned s

theorem basedWithin {base : Nat} {holds : Char → Bool} (line : holds '\n' = false) : Local (readBased base holds) :=
  localBind (digitsWithin line) fun (_,rest) s => localWhere _ (localPure (Toml.int _)) localNone rest s

theorem signedWithin : Local readSigned := by
  intro t s
  simp only [readSigned,signWithin]
  exact localBind wholeWithin (fun (_,rest) s => localWhere _ (localPure (Toml.int _)) localNone rest s) _ s

theorem intWithin : Local readInt := by
  intro t s
  unfold readInt
  split
  · rename_i rest same
    obtain ⟨left,rfl,rfl⟩ := wordWithin ['0','x'] (by decide) same
    exact basedWithin (by decide) left s
  · rename_i rest same
    obtain ⟨left,rfl,rfl⟩ := wordWithin ['0','o'] (by decide) same
    exact basedWithin (by decide) left s
  · rename_i rest same
    obtain ⟨left,rfl,rfl⟩ := wordWithin ['0','b'] (by decide) same
    exact basedWithin (by decide) left s
  · rename_i hexadecimal octal binary
    split
    · exact absurd rfl (hexadecimal _)
    · exact absurd rfl (octal _)
    · exact absurd rfl (binary _)
    · exact signedWithin t s

/-! ## Dates -/

theorem fixedWithin (places low high : Nat) : Local (readFixed places low high) := by
  intro t s
  by_cases enough : places ≤ t.length
  · simp only [readFixed,List.take_append_of_le_length enough,List.drop_append_of_le_length enough]
    split <;> rfl
  · obtain ⟨more,same⟩ := Nat.exists_eq_add_of_lt (Nat.lt_of_not_le enough)
    have few : ¬ (t.take places).length = places := by
      rw [List.length_take]
      omega
    have member : '\n' ∈ (t ++ '\n' :: s).take places := by
      have left : places - t.length = more + 1 := by omega
      rw [List.take_append,left,List.take_succ_cons]
      exact List.mem_append_right _ List.mem_cons_self
    have further : ((t ++ '\n' :: s).take places).all Char.isDigit = false :=
      List.all_eq_false.mpr ⟨_,member,by decide⟩
    simp only [readFixed,few,further,decide_false,Bool.and_false,Bool.false_and]
    rfl

theorem dateWithin : Local readDate :=
  localBind (fixedWithin 4 0 9999) fun (year,rest) s =>
    localBind (markWithin (by decide)) (fun rest s =>
      localBind (fixedWithin 2 1 12) (fun (month,rest) s =>
        localBind (markWithin (by decide)) (fun rest s =>
          localBind (fixedWithin 2 1 (daysIn year month)) (fun (_,rest) s => localSome rest s) rest s) rest s)
        rest s) rest s

theorem timeWithin : Local readTime := by
  refine localBind (fixedWithin 2 0 23) fun (_,rest) s => ?_
  refine localBind (markWithin (by decide)) (fun rest s => ?_) rest s
  refine localBind (fixedWithin 2 0 59) (fun (_,rest) s => ?_) rest s
  refine localBind (markWithin (by decide)) (fun rest s => ?_) rest s
  refine localBind (fixedWithin 2 0 60) (fun (_,rest) s => ?_) rest s
  simp only [followed]
  split
  · rename_i fraction same
    obtain ⟨left,rfl,rfl⟩ := headWithin (by decide) same
    simp only [takeWithin Char.isDigit (by decide),dropTaken]
    split <;> rfl
  · rename_i apart
    split
    · exact absurd rfl (apart _)
    · rfl

theorem offsetWithin : Local readOffset := by
  have signed : Local fun t => (readFixed 2 0 23 t).bind fun hours => (readMark ':' hours.2).bind fun rest =>
      (readFixed 2 0 59 rest).bind fun minutes => some minutes.2 :=
    localBind (fixedWithin 2 0 23) fun hours s =>
      localBind (markWithin (by decide)) (fun rest s =>
        localBind (fixedWithin 2 0 59) (fun minutes s => localSome minutes.2 s) rest s) hours.2 s
  intro t s
  unfold readOffset
  split
  · rename_i rest same
    obtain ⟨left,rfl,rfl⟩ := headWithin (by decide) same
    rfl
  · rename_i rest same
    obtain ⟨left,rfl,rfl⟩ := headWithin (by decide) same
    rfl
  · rename_i rest same
    obtain ⟨left,rfl,rfl⟩ := headWithin (by decide) same
    exact signed left s
  · rename_i rest same
    obtain ⟨left,rfl,rfl⟩ := headWithin (by decide) same
    exact signed left s
  · rename_i zulu lower plus minus
    split
    · exact absurd rfl (zulu _)
    · exact absurd rfl (lower _)
    · exact absurd rfl (plus _)
    · exact absurd rfl (minus _)
    · rfl

theorem datetimeWithin : Local readDatetime := by
  intro t s
  unfold readDatetime
  rw [dateWithin]
  cases readDate t with
  | none =>
    simp only [Option.map_none,timeWithin t s]
    cases readTime t <;> rfl
  | some afterDate =>
    simp only [Option.map_some,followed]
    cases afterDate with
    | nil => rfl
    | cons c rest =>
      simp only [List.cons_append,timeWithin rest s]
      cases joined : c == 'T' || c == 't' || c == ' ' with
      | false => rfl
      | true =>
        cases readTime rest with
        | none => rfl
        | some afterTime =>
          have offset := localOptional offsetWithin afterTime s afterTime
          simp only [followed] at offset
          simp only [if_true,Option.map_some,followed,offset]

theorem numberWithin : Local readNumber := by
  intro t s
  unfold readNumber
  rw [datetimeWithin,floatWithin,intWithin]
  cases readDatetime t with
  | some found => rfl
  | none => cases readFloat t <;> rfl

theorem wordRead : Local readWord := by
  intro t s
  unfold readWord
  split
  · rename_i rest same
    obtain ⟨left,rfl,rfl⟩ := wordWithin ['t','r','u','e'] (by decide) same
    rfl
  · rename_i rest same
    obtain ⟨left,rfl,rfl⟩ := wordWithin ['f','a','l','s','e'] (by decide) same
    rfl
  · rename_i rest same
    obtain ⟨left,rfl,rfl⟩ := wordWithin ['i','n','f'] (by decide) same
    rfl
  · rename_i rest same
    obtain ⟨left,rfl,rfl⟩ := wordWithin ['n','a','n'] (by decide) same
    rfl
  · rename_i yes no infinite undefined
    split
    · exact absurd rfl (yes _)
    · exact absurd rfl (no _)
    · exact absurd rfl (infinite _)
    · exact absurd rfl (undefined _)
    · rfl

end Playground.Toml
