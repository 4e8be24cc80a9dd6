import Playground.Proofs.Json.Trees

/-! Texts as trees: `readTree` reads a value as `readValue` does and keeps all members of an object as
they are written. What `readValue` gives is the canonical form of that tree, with the same failures;
so a text is a value exactly when it is a tree, and every tree that is read nests no deeper than the
reader goes. -/
namespace Playground.Json
open Text (Glyph)

def readPairs (read : List Glyph → Reading Json) :
    Nat → Bool → List (String × Json) → List Glyph → Reading Json
  | 0,_,_,rest => failAt .eofObject rest
  | fuel + 1,first,seen,rest =>
    match nextKey first rest with
    | .error failure => .error failure
    | .ok (none,rest) => .ok (.object seen,rest.drop 1)
    | .ok (some key,rest) =>
      match readColon rest with
      | .error failure => .error failure
      | .ok ((),rest) =>
        match read rest with
        | .error failure => .error failure
        | .ok (value,rest) => readPairs read fuel false (seen ++ [(key,value)]) rest

def readTree : (depth : Nat) → List Glyph → Reading Json
  | depth,rest =>
    match skipSpace rest with
    | .char '[' :: rest =>
      match depth with
      | 0 => failPast .tooDeep (.char '[' :: rest)
      | depth + 1 => readItems (readTree depth) (rest.length + 1) [] rest
    | .char '\x7b' :: rest =>
      match depth with
      | 0 => failPast .tooDeep (.char '\x7b' :: rest)
      | depth + 1 => readPairs (readTree depth) (rest.length + 1) true [] rest
    | rest => readScalar rest

def readAllTree (text : List Glyph) : Except Failure Json :=
  match readTree depthLimit text with
  | .error failure => .error failure
  | .ok (tree,rest) =>
    match skipSpace rest with
    | [] => .ok tree
    | rest => .error ⟨.trailingCharacters,rest,1⟩

def written (text : String) : Except String Json :=
  let glyphs := Text.glyphs text.toList
  (readAllTree glyphs).mapError (Failure.describe glyphs)

def Flat (text : List Glyph) : Prop := ∀ after, text ≠ .char '[' :: after ∧ text ≠ .char '\x7b' :: after

theorem openings (text : List Glyph) :
    (∃ after, text = .char '[' :: after) ∨ (∃ after, text = .char '\x7b' :: after) ∨ Flat text := by
  by_cases list : ∃ after, text = .char '[' :: after
  · exact .inl list
  · by_cases object : ∃ after, text = .char '\x7b' :: after
    · exact .inr (.inl object)
    · exact .inr (.inr fun after => ⟨fun same => list ⟨after,same⟩,fun same => object ⟨after,same⟩⟩)

theorem treeFlat {depth : Nat} {rest : List Glyph} (flat : Flat (skipSpace rest)) :
    readTree depth rest = readScalar (skipSpace rest) := by
  unfold readTree
  split
  · rename_i starts
    exact absurd starts (flat _).1
  · rename_i starts
    exact absurd starts (flat _).2
  · rfl

theorem valueFlat {depth : Nat} {rest : List Glyph} (flat : Flat (skipSpace rest)) :
    readValue depth rest = readScalar (skipSpace rest) := by
  unfold readValue
  split
  · rename_i starts
    exact absurd starts (flat _).1
  · rename_i starts
    exact absurd starts (flat _).2
  · rfl

theorem treeScalar {depth : Nat} {g : Glyph} {rest : List Glyph} (visible : isSpace g = false)
    (noList : g ≠ .char '[') (noObject : g ≠ .char '\x7b') : readTree depth (g :: rest) = readScalar (g :: rest) := by
  have stays : skipSpace (g :: rest) = g :: rest := List.dropWhile_cons_of_neg (by simp [visible])
  have flat : Flat (skipSpace (g :: rest)) := by
    rw [stays]
    exact fun after => ⟨fun same => noList (List.cons.inj same).1,fun same => noObject (List.cons.inj same).1⟩
  rw [treeFlat flat,stays]

/-! ## Values are canonical trees -/

def Reading.canonical (reading : Reading Json) : Reading Json :=
  reading.map fun (tree,rest) => (tree.canonical,rest)

theorem scalarFlat {rest left : List Glyph} {v : Json} (done : readScalar rest = .ok (v,left)) :
    (∀ holds, Everywhere holds v) ∧ ∀ depth, Within depth v := by
  unfold readScalar at done
  split at done
  · contradiction
  · rw [wordRead done]
    exact ⟨fun _ => .null,fun _ => .null⟩
  · rw [wordRead done]
    exact ⟨fun _ => .bool _,fun _ => .bool _⟩
  · rw [wordRead done]
    exact ⟨fun _ => .bool _,fun _ => .bool _⟩
  · obtain ⟨⟨s,_⟩,_,wrapped⟩ := mapRead done
    cases wrapped
    exact ⟨fun _ => .string s,fun _ => .string s⟩
  · obtain ⟨⟨n,_⟩,_,wrapped⟩ := mapRead done
    cases wrapped
    exact ⟨fun _ => .number n,fun _ => .number n⟩
  · split at done
    · obtain ⟨⟨n,_⟩,_,wrapped⟩ := mapRead done
      cases wrapped
      exact ⟨fun _ => .number n,fun _ => .number n⟩
    · contradiction

theorem scalarCanonical (rest : List Glyph) : readScalar rest = Reading.canonical (readScalar rest) := by
  cases done : readScalar rest with
  | error failure => rfl
  | ok found =>
    obtain ⟨v,left⟩ := found
    simp only [Reading.canonical,Except.map,canonicalSame ((scalarFlat done).1 _)]

section
variable {read tree : List Glyph → Reading Json} (agree : ∀ rest, read rest = Reading.canonical (tree rest))
include agree

theorem itemsCanonical (fuel : Nat) (seen : List Json) (rest : List Glyph) :
    readItems read fuel (seen.map canonical) rest = Reading.canonical (readItems tree fuel seen rest) := by
  induction fuel generalizing seen rest with
  | zero => rfl
  | succ fuel ih =>
    simp only [readItems,List.isEmpty_map]
    rcases nextItem seen.isEmpty rest with failure | ⟨_ | rest,left⟩
    · rfl
    · simp only [Reading.canonical,Except.map,canonical,List.map_reverse]
    · simp only [agree rest]
      rcases tree rest with failure | ⟨item,left⟩
      · rfl
      · exact ih (item :: seen) left

theorem membersCanonical (fuel : Nat) (first : Bool) (seen : List (String × Json)) (rest : List Glyph) :
    readMembers read fuel first (Members.ofList (seen.map fun m => (m.1,canonical m.2))) rest =
      Reading.canonical (readPairs tree fuel first seen rest) := by
  induction fuel generalizing first seen rest with
  | zero => rfl
  | succ fuel ih =>
    simp only [readMembers,readPairs]
    rcases nextKey first rest with failure | ⟨_ | key,rest⟩
    · rfl
    · simp only [Reading.canonical,Except.map,canonical]
    · simp only
      rcases readColon rest with failure | ⟨_,rest⟩
      · rfl
      · simp only [agree rest]
        rcases tree rest with failure | ⟨value,left⟩
        · rfl
        · have more := ih false (seen ++ [(key,value)]) left
          simp only [Members.ofList,List.map_append,List.foldl_append] at more
          exact more

end

theorem valueCanonical (depth : Nat) (rest : List Glyph) :
    readValue depth rest = Reading.canonical (readTree depth rest) := by
  induction depth generalizing rest with
  | zero =>
    rcases openings (skipSpace rest) with ⟨after,starts⟩ | ⟨after,starts⟩ | flat
    · unfold readValue readTree
      rw [starts]
      rfl
    · unfold readValue readTree
      rw [starts]
      rfl
    · rw [valueFlat flat,treeFlat flat]
      exact scalarCanonical _
  | succ depth ih =>
    rcases openings (skipSpace rest) with ⟨after,starts⟩ | ⟨after,starts⟩ | flat
    · unfold readValue readTree
      rw [starts]
      exact itemsCanonical ih _ [] after
    · unfold readValue readTree
      rw [starts]
      exact membersCanonical ih _ true [] after
    · rw [valueFlat flat,treeFlat flat]
      exact scalarCanonical _

theorem readAllCanonical (text : List Glyph) : readAll text = (readAllTree text).map canonical := by
  unfold readAll readAllTree
  rw [valueCanonical]
  rcases readTree depthLimit text with failure | ⟨tree,rest⟩
  · rfl
  · simp only [Reading.canonical,Except.map]
    cases skipSpace rest <;> rfl

theorem parseCanonical (text : String) : parse text = (written text).map canonical := by
  unfold parse written
  simp only [readAllCanonical]
  cases readAllTree (Text.glyphs text.toList) <;> rfl

/-! ## Depth -/

theorem itemsWithin {read : List Glyph → Reading Json} {depth : Nat}
    (inner : ∀ {rest v left}, read rest = .ok (v,left) → Within depth v) {fuel seen rest v left}
    (before : ∀ item ∈ seen, Within depth item) (done : readItems read fuel seen rest = .ok (v,left)) :
    Within (depth + 1) v := by
  induction fuel generalizing seen rest with
  | zero => contradiction
  | succ fuel ih =>
    simp only [readItems] at done
    split at done
    · contradiction
    · cases done
      exact .array fun item member => before item (List.mem_reverse.mp member)
    · split at done
      · contradiction
      · rename_i item _ read
        exact ih (List.forall_mem_cons.mpr ⟨inner read,before⟩) done

theorem pairsWithin {read : List Glyph → Reading Json} {depth : Nat}
    (inner : ∀ {rest v left}, read rest = .ok (v,left) → Within depth v) {fuel first seen rest v left}
    (before : ∀ m ∈ seen, Within depth m.2) (done : readPairs read fuel first seen rest = .ok (v,left)) :
    Within (depth + 1) v := by
  induction fuel generalizing first seen rest with
  | zero => contradiction
  | succ fuel ih =>
    simp only [readPairs] at done
    split at done
    · contradiction
    · cases done
      exact .object before
    · split at done
      · contradiction
      · split at done
        · contradiction
        · rename_i value _ read
          refine ih (fun m member => ?_) done
          rcases List.mem_append.mp member with earlier | last
          · exact before m earlier
          · rw [List.mem_singleton.mp last]
            exact inner read

theorem treeWithin {depth : Nat} {rest left : List Glyph} {v : Json} (done : readTree depth rest = .ok (v,left)) :
    Within depth v := by
  induction depth generalizing rest left v with
  | zero =>
    unfold readTree at done
    split at done
    · contradiction
    · contradiction
    · exact (scalarFlat done).2 0
  | succ depth ih =>
    unfold readTree at done
    split at done
    · exact itemsWithin ih (by simp) done
    · exact pairsWithin ih (by simp) done
    · exact (scalarFlat done).2 _

/- A text writes a tree when it holds the tree and after it nothing but space. -/
theorem writtenIff {text : String} {tree : Json} :
    written text = .ok tree ↔
      ∃ rest, readTree depthLimit (Text.glyphs text.toList) = .ok (tree,rest) ∧ skipSpace rest = [] := by
  unfold written readAllTree
  simp only
  generalize Text.glyphs text.toList = glyphs
  rcases readTree depthLimit glyphs with failure | ⟨found,rest⟩
  · simp [Except.mapError]
  · simp only [Except.ok.injEq,Prod.mk.injEq]
    cases space : skipSpace rest with
    | nil =>
      exact ⟨fun done => ⟨rest,⟨Except.ok.inj done,rfl⟩,space⟩,fun ⟨_,⟨same,_⟩,_⟩ => congrArg Except.ok same⟩
    | cons g beyond =>
      refine ⟨fun done => (by cases done),fun ⟨_,⟨_,same⟩,empty⟩ => ?_⟩
      rw [← same,space] at empty
      contradiction

theorem writtenWithin {text : String} {tree : Json} (done : written text = .ok tree) : Within depthLimit tree := by
  obtain ⟨rest,read,-⟩ := writtenIff.mp done
  exact treeWithin read

theorem parsedWritten {text : String} {v : Json} (done : parse text = .ok v) :
    ∃ tree, written text = .ok tree ∧ tree.canonical = v := by
  rw [parseCanonical] at done
  exact mapRead done

end Playground.Json
