import Playground.Proofs.Toml.Strings
import Playground.Toml.Document

/-! Values, lines and whole texts in front of a further line. Main statement: a header behind a text
that was read opens its table behind all that the text says. -/
namespace Playground.Toml
open Left

theorem spaceShorter (t : List Char) : (skipSpace t).length ≤ t.length := (List.dropWhile_suffix _).length_le

theorem commentShorter (t : List Char) : (skipComment t).length ≤ t.length := by
  unfold skipComment
  split
  · exact Nat.le_trans (List.dropWhile_suffix _).length_le (Nat.le_succ _)
  · exact Nat.le_refl _

theorem newlineShorter {t rest : List Char} (ended : readNewline t = some rest) : rest.length < t.length := by
  unfold readNewline at ended
  split at ended
  · cases ended
    simp
  · cases ended
    simp only [List.length_cons]
    omega
  · contradiction

theorem fillerStays {fuel more : Nat} {t rest : List Char} {c : Char} (enough : t.length < fuel) (within : fuel ≤ more)
    (visible : c ≠ '\x0d') (skipped : skipFiller fuel t = c :: rest) (s : List Char) :
    skipFiller more (t ++ '\n' :: s) = c :: (rest ++ '\n' :: s) := by
  induction fuel generalizing more t with
  | zero => contradiction
  | succ fuel ih =>
    obtain ⟨more,rfl⟩ := Nat.exists_eq_add_of_le' (Nat.le_trans (Nat.le_add_left 1 fuel) within)
    have within : fuel ≤ more := Nat.le_of_succ_le_succ within
    have shorter := Nat.le_trans (commentShorter (skipSpace t)) (spaceShorter t)
    simp only [skipFiller,spaceWithin,commentWithin] at skipped ⊢
    generalize skipComment (skipSpace t) = left at skipped shorter
    cases ended : readNewline left with
    | some after =>
      rw [ended] at skipped
      rw [newlineStays s ended]
      have fewer := newlineShorter ended
      exact ih (by omega) within skipped
    | none =>
      rw [ended] at skipped
      have same : left = c :: rest := skipped
      subst same
      rw [newlineAbsent ended (by simp) (by simp [visible]) s]
      rfl

theorem fillerReached {t rest : List Char} {c : Char} (visible : c ≠ '\x0d') (skipped : filler t = c :: rest)
    (s : List Char) : filler (t ++ '\n' :: s) = c :: (rest ++ '\n' :: s) :=
  fillerStays (Nat.lt_succ_self _) (by simp) visible skipped s

/- What reads the items of an array reads nothing from an empty text or from a return, which is no
blank here. -/
structure Reads (read : List Char → Option (Toml × List Char)) : Prop where
  stays : Stays read
  filled : read [] = none
  visible : ∀ rest, read ('\x0d' :: rest) = none

theorem scalarApart {c : Char} {rest : List Char} (basic : c ≠ '\x22') (literal : c ≠ '\x27') :
    readScalar (c :: rest) =
      if c.isDigit || c == '+' || c == '-' then readNumber (c :: rest) else readWord (c :: rest) := by
  rw [readScalar]
  · exact basic
  · exact literal

theorem scalarQuoted {c : Char} (quote : c = '\x22' ∨ c = '\x27') (rest : List Char) :
    readScalar (c :: rest) = (readString (c :: rest)).map fun (s,rest) => (Toml.string s,rest) := by
  rcases quote with rfl | rfl <;> rw [readScalar]

theorem scalarReads : Reads readScalar where
  stays := by
    intro t found s done
    cases t with
    | nil => contradiction
    | cons c rest =>
      by_cases quote : c = '\x22' ∨ c = '\x27'
      · rw [scalarQuoted quote] at done
        obtain ⟨⟨text,left⟩,read,rfl⟩ := Option.map_eq_some_iff.mp done
        have read := stringStays s read
        rw [List.cons_append] at read ⊢
        rw [scalarQuoted quote,read]
        rfl
      · obtain ⟨basic,literal⟩ := not_or.mp quote
        rw [scalarApart basic literal] at done
        rw [List.cons_append,scalarApart basic literal]
        split at done
        · rename_i numeric
          rw [if_pos numeric,← List.cons_append]
          exact localStays numberWithin s done
        · rename_i wordy
          rw [if_neg wordy,← List.cons_append]
          exact localStays wordRead s done
  filled := rfl
  visible := fun rest => by
    rw [scalarApart (by decide) (by decide),if_neg (by decide)]
    rfl

section Nested

variable {read : List Char → Option (Toml × List Char)} (reads : Reads read)
include reads

theorem itemReached {t : List Char} {found : Toml × List Char} (here : read (filler t) = some found) (s : List Char) :
    filler (t ++ '\n' :: s) = filler t ++ '\n' :: s := by
  cases filled : filler t with
  | nil =>
    rw [filled,reads.filled] at here
    contradiction
  | cons c rest =>
    refine fillerReached ?_ filled s
    rintro rfl
    rw [filled,reads.visible] at here
    contradiction

theorem itemsStays {fuel more : Nat} {seen : List Toml} {t : List Char} {found : Toml × List Char}
    (done : readItems read fuel seen t = some found) (within : fuel ≤ more) (s : List Char) :
    readItems read more seen (t ++ '\n' :: s) = some (followed ('\n' :: s) found) := by
  induction fuel generalizing more seen t with
  | zero => contradiction
  | succ fuel ih =>
    obtain ⟨more,rfl⟩ := Nat.exists_eq_add_of_le' (Nat.le_trans (Nat.le_add_left 1 fuel) within)
    have within : fuel ≤ more := Nat.le_of_succ_le_succ within
    simp only [readItems] at done ⊢
    split at done
    · rename_i rest closed
      cases done
      rw [fillerReached (by decide) closed s]
      rfl
    · rename_i apart
      obtain ⟨⟨item,rest⟩,here,further⟩ := Option.bind_eq_some_iff.mp done
      rw [itemReached reads here s]
      split
      · rename_i same
        obtain ⟨left,closed,-⟩ := headWithin (by decide) same
        exact absurd closed (apart left)
      · simp only [reads.stays s here,bind,Option.bind_some,followed]
        simp only at further
        split at further
        · rename_i comma
          rw [fillerReached (by decide) comma s]
          exact ih further within
        · rename_i closed
          cases further
          rw [fillerReached (by decide) closed s]
          rfl
        · contradiction

theorem pairStays : Stays (readPair read) := by
  intro t found s done
  obtain ⟨⟨key,rest⟩,named,done⟩ := Option.bind_eq_some_iff.mp done
  obtain ⟨left,marked,done⟩ := Option.bind_eq_some_iff.mp done
  obtain ⟨⟨value,after⟩,valued,same⟩ := Option.bind_eq_some_iff.mp done
  cases same
  have named : readKey (t ++ '\n' :: s) = some (key,rest ++ '\n' :: s) := keysStays 79 s named
  have marked : readMark '=' (rest ++ '\n' :: s) = some (left ++ '\n' :: s) :=
    localStays (markWithin (by decide)) s marked
  simp only [readPair,named,marked,spaceWithin,reads.stays s valued,bind,Option.bind_some]
  rfl

theorem pairsStays {fuel more : Nat} {known : Table} {t : List Char} {found : Toml × List Char}
    (done : readPairs read fuel known t = some found) (within : fuel ≤ more) (s : List Char) :
    readPairs read more known (t ++ '\n' :: s) = some (followed ('\n' :: s) found) := by
  induction fuel generalizing more known t with
  | zero => contradiction
  | succ fuel ih =>
    obtain ⟨more,rfl⟩ := Nat.exists_eq_add_of_le' (Nat.le_trans (Nat.le_add_left 1 fuel) within)
    have within : fuel ≤ more := Nat.le_of_succ_le_succ within
    obtain ⟨⟨⟨key,value⟩,rest⟩,here,done⟩ := Option.bind_eq_some_iff.mp done
    obtain ⟨known',assigned,done⟩ := Option.bind_eq_some_iff.mp done
    simp only [readPairs,pairStays reads s here,followed,assigned,spaceWithin,bind,Option.bind_some] at done ⊢
    split at done
    · rename_i comma
      rw [comma]
      exact ih done within
    · rename_i closed
      cases done
      rw [closed]
      rfl
    · contradiction

theorem inlineStays : Stays (readInlineTable read) := by
  intro t found s done
  simp only [readInlineTable,spaceWithin] at done ⊢
  generalize skipSpace t = left at done
  split at done
  · cases done
    rfl
  · rename_i apart
    split
    · rename_i same
      obtain ⟨rest,closed,-⟩ := headWithin (by decide) same
      exact absurd closed (apart rest)
    · exact pairsStays reads done (by simp) s

end Nested

theorem valueArray (depth : Nat) (rest : List Char) :
    readValue (depth + 1) ('[' :: rest) = readItems (readValue depth) (rest.length + 1) [] rest := by
  rw [readValue]

theorem valueInline (depth : Nat) (rest : List Char) :
    readValue (depth + 1) ('\x7b' :: rest) = readInlineTable (readValue depth) rest := by
  rw [readValue]

theorem valueFlat {c : Char} (array : c ≠ '[') (inline : c ≠ '\x7b') (depth : Nat) (rest : List Char) :
    readValue (depth + 1) (c :: rest) = readScalar (c :: rest) := by
  rw [readValue]
  · exact fun _ same => array (List.cons.inj same).1
  · exact fun _ same => inline (List.cons.inj same).1

theorem valueReads (depth : Nat) : Reads (readValue depth) := by
  induction depth with
  | zero => exact scalarReads
  | succ depth ih =>
    refine ⟨?_,rfl,fun rest => ?_⟩
    · intro t found s done
      cases t with
      | nil => contradiction
      | cons c rest =>
        by_cases array : c = '['
        · subst array
          rw [valueArray] at done
          rw [List.cons_append,valueArray]
          exact itemsStays ih done (by simp) s
        · by_cases inline : c = '\x7b'
          · subst inline
            rw [valueInline] at done
            rw [List.cons_append,valueInline]
            exact inlineStays ih s done
          · rw [valueFlat array inline] at done
            rw [List.cons_append,valueFlat array inline,← List.cons_append]
            exact scalarReads.stays s done
    · rw [valueFlat (by decide) (by decide)]
      exact scalarReads.visible rest

/-! ## Lines -/

namespace Document

theorem headerStays (d : Document) : Stays d.readHeader := by
  intro t found s done
  obtain ⟨⟨path,rest⟩,named,done⟩ := Option.bind_eq_some_iff.mp done
  obtain ⟨left,marked,done⟩ := Option.bind_eq_some_iff.mp done
  obtain ⟨table,opened,same⟩ := Option.bind_eq_some_iff.mp done
  cases same
  have named : readKey (t ++ '\n' :: s) = some (path,rest ++ '\n' :: s) := keysStays 79 s named
  have marked : readMark ']' (rest ++ '\n' :: s) = some (left ++ '\n' :: s) :=
    localStays (markWithin (by decide)) s marked
  simp only [readHeader,named,marked,opened,bind,Option.bind_some]
  rfl

theorem elementStays (d : Document) : Stays d.readElementHeader := by
  intro t found s done
  obtain ⟨⟨path,rest⟩,named,done⟩ := Option.bind_eq_some_iff.mp done
  obtain ⟨left,marked,done⟩ := Option.bind_eq_some_iff.mp done
  obtain ⟨after,again,done⟩ := Option.bind_eq_some_iff.mp done
  obtain ⟨table,opened,same⟩ := Option.bind_eq_some_iff.mp done
  cases same
  have named : readKey (t ++ '\n' :: s) = some (path,rest ++ '\n' :: s) := keysStays 79 s named
  have marked : readMark ']' (rest ++ '\n' :: s) = some (left ++ '\n' :: s) :=
    localStays (markWithin (by decide)) s marked
  have again : readMark ']' (left ++ '\n' :: s) = some (after ++ '\n' :: s) :=
    localStays (markWithin (by decide)) s again
  simp only [readElementHeader,named,marked,again,opened,bind,Option.bind_some]
  rfl

theorem assignmentStays (d : Document) : Stays d.readAssignment := by
  intro t found s done
  obtain ⟨⟨⟨key,value⟩,rest⟩,here,done⟩ := Option.bind_eq_some_iff.mp done
  obtain ⟨table,assigned,same⟩ := Option.bind_eq_some_iff.mp done
  cases same
  simp only [readAssignment,pairStays (valueReads depthLimit) s here,followed,assigned,bind,Option.bind_some]
  rfl

theorem lineElement {d : Document} {t rest : List Char} (spaced : skipSpace t = '[' :: '[' :: rest) :
    d.readLine t = d.readElementHeader rest := by
  rw [readLine,spaced]
  rfl

theorem lineHeader {d : Document} {t rest : List Char} (spaced : skipSpace t = '[' :: rest)
    (single : ∀ left, rest ≠ '[' :: left) : d.readLine t = d.readHeader rest := by
  rw [readLine,spaced]
  split
  · rename_i same
    exact absurd (List.cons.inj same).2 (single _)
  · rename_i same
    rw [(List.cons.inj same).2]
  · rename_i apart
    exact absurd rfl (apart rest)

theorem lineFlat {d : Document} {t rest : List Char} {c : Char} (spaced : skipSpace t = c :: rest) (header : c ≠ '[') :
    d.readLine t = if c == '#' || (readNewline (c :: rest)).isSome then some (d,c :: rest)
      else d.readAssignment (c :: rest) := by
  rw [readLine,spaced]
  split
  · rename_i same
    exact absurd (List.cons.inj same).1 header
  · rename_i same
    exact absurd (List.cons.inj same).1 header
  · rfl

theorem flatStays {d : Document} {t rest s : List Char} {c : Char} {found : Document × List Char}
    (spaced : skipSpace t = c :: rest)
    (further : skipSpace (t ++ '\n' :: s) = c :: (rest ++ '\n' :: s)) (header : c ≠ '[')
    (done : d.readLine t = some found) : d.readLine (t ++ '\n' :: s) = some (followed ('\n' :: s) found) := by
  rw [lineFlat spaced header] at done
  rw [lineFlat further header]
  split at done
  · rename_i ends
    cases done
    refine if_pos ?_
    rcases Bool.or_eq_true_iff.mp ends with comment | ended
    · rw [comment,Bool.true_or]
    · obtain ⟨left,ended⟩ := Option.isSome_iff_exists.mp ended
      have ended : readNewline (c :: (rest ++ '\n' :: s)) = some (left ++ '\n' :: s) := newlineStays s ended
      rw [ended,Option.isSome_some,Bool.or_true]
  · rename_i going
    simp only [Bool.or_eq_true,not_or,Option.not_isSome_iff_eq_none] at going
    have unended : readNewline (c :: (rest ++ '\n' :: s)) = none := by
      refine newlineAbsent going.2 (List.cons_ne_nil _ _) ?_ s
      intro same
      rw [same] at done
      contradiction
    have going : ¬ (c == '#' || (readNewline (c :: (rest ++ '\n' :: s))).isSome) = true := by
      simp [unended,going.1]
    rw [if_neg going,← List.cons_append]
    exact assignmentStays d s done

theorem lineStays (d : Document) : Stays d.readLine := by
  intro t found s done
  have further := spaceWithin t s
  cases spaced : skipSpace t with
  | nil =>
    rw [spaced] at further
    rw [readLine,spaced] at done
    cases done
    rw [lineFlat further (by decide)]
    rfl
  | cons c rest =>
    rw [spaced,List.cons_append] at further
    by_cases header : c = '['
    · subst header
      by_cases element : ∃ left, rest = '[' :: left
      · obtain ⟨left,rfl⟩ := element
        rw [lineElement spaced] at done
        rw [lineElement further]
        exact elementStays d s done
      · have single : ∀ left, rest ≠ '[' :: left := fun left same => element ⟨left,same⟩
        have single' : ∀ left, rest ++ '\n' :: s ≠ '[' :: left := fun left same => by
          obtain ⟨left,again,-⟩ := headWithin (by decide) same
          exact single left again
        rw [lineHeader spaced single] at done
        rw [lineHeader further single']
        exact headerStays d s done
    · exact flatStays spaced further header done

theorem lineEndStays {t rest : List Char} (ended : readLineEnd t = some rest) (s : List Char) :
    readLineEnd (t ++ '\n' :: s) = some (rest ++ '\n' :: s) ∨
      rest = [] ∧ readLineEnd (t ++ '\n' :: s) = some s := by
  simp only [readLineEnd,spaceWithin,commentWithin] at ended ⊢
  generalize skipComment (skipSpace t) = left at ended
  cases left with
  | nil =>
    cases ended
    exact .inr ⟨rfl,rfl⟩
  | cons c left => exact .inl (newlineStays s ended)

theorem linesNext {t : List Char} (filled : t ≠ []) (fuel : Nat) (d : Document) :
    readLines (fuel + 1) d t =
      (d.readLine t).bind fun found => (readLineEnd found.2).bind (readLines fuel found.1) := by
  rw [readLines]
  · rfl
  · exact filled

/- After what is read the further line is read as it would be from there. -/
theorem linesStay {fuel : Nat} {d d' : Document} {t : List Char} (done : readLines fuel d t = some d') (s : List Char)
    (more : Nat) : ∃ left, more ≤ left ∧ readLines (fuel + more) d (t ++ '\n' :: s) = readLines left d' s := by
  induction fuel generalizing d t with
  | zero => contradiction
  | succ fuel ih =>
    rw [Nat.add_right_comm,linesNext (by simp)]
    cases t with
    | nil =>
      cases done
      exact ⟨fuel + more,Nat.le_add_left more fuel,rfl⟩
    | cons c t =>
      rw [linesNext (List.cons_ne_nil c t)] at done
      obtain ⟨⟨d₁,rest⟩,line,done⟩ := Option.bind_eq_some_iff.mp done
      obtain ⟨after,ended,done⟩ := Option.bind_eq_some_iff.mp done
      simp only [lineStays d s line,followed,Option.bind_some]
      rcases lineEndStays ended s with further | ⟨rfl,further⟩
      · rw [further]
        exact ih done
      · have same : d₁ = d' := by
          cases fuel with
          | zero => contradiction
          | succ fuel => exact Option.some.inj done
        rw [further,same]
        exact ⟨fuel + more,Nat.le_add_left more fuel,rfl⟩

theorem headerLast {d : Document} {path : List String} {name : List Char}
    (named : readKey (name ++ [']','\n']) = some (path,[']','\n'])) {fuel : Nat} (enough : 2 ≤ fuel) :
    readLines fuel d ('[' :: (name ++ [']','\n'])) = (d.table.openTable path).map fun table => { table,path } := by
  obtain ⟨fuel,rfl⟩ := Nat.exists_eq_add_of_le' enough
  have single : ∀ left, name ++ [']','\n'] ≠ '[' :: left := fun left same => by
    rw [same] at named
    contradiction
  have marked : readMark ']' [']','\n'] = some ['\n'] := rfl
  rw [linesNext (List.cons_ne_nil _ _),lineHeader rfl single]
  simp only [readHeader,named,marked,bind,Option.bind_some]
  cases d.table.openTable path <;> rfl

end Document

theorem unmarkedWithin (t s : List Char) : dropMark (t ++ '\n' :: s) = dropMark t ++ '\n' :: s := by
  cases t with
  | nil => rfl
  | cons c t =>
    simp only [dropMark,List.cons_append,List.head?_cons,List.drop_succ_cons,List.drop_zero]
    split <;> rfl

def headerLine (path : List String) : String := "[" ++ ".".intercalate path ++ "]\n"

theorem headerBehind {text : String} {table : Table} {path : List String} (parsed : table? text = some table)
    (named : readKey ((".".intercalate path).toList ++ [']','\n']) = some (path,[']','\n'])) :
    table? (text ++ "\n" ++ headerLine path) = table.openTable path := by
  let header := '[' :: ((".".intercalate path).toList ++ [']','\n'])
  have chars : (text ++ "\n" ++ headerLine path).toList = text.toList ++ '\n' :: header := by simp [headerLine,header]
  obtain ⟨d,read,rfl⟩ := Option.map_eq_some_iff.mp parsed
  obtain ⟨left,enough,further⟩ := Document.linesStay read header (header.length + 1)
  have last : Document.readLines left d header = (d.table.openTable path).map fun table => { table,path } :=
    Document.headerLast named (Nat.le_trans (by simp [header]) enough)
  have fuel : (dropMark text.toList ++ '\n' :: header).length + 1 =
      (dropMark text.toList).length + 1 + (header.length + 1) := by
    rw [List.length_append,List.length_cons]
    omega
  simp only [table?,chars,unmarkedWithin]
  rw [fuel,further,last]
  cases d.table.openTable path <;> rfl

end Playground.Toml
