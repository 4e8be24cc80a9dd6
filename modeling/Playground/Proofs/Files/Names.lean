import Playground.Proofs.Files.Replacement

/-! Files inside directories. The path of a plain name inside a directory, whichever it is, denotes a
place that ends with this name; files of different names do not get into each other's way. -/
namespace Playground.Files

structure Plain (name : String) : Prop where
  whole : '/' ∉ name.toList
  proper : ∃ c ∈ name.toList, c ≠ '.'

theorem joinEnd (directory name : String) :
    (join directory name).toList = name.toList ∨
      ∃ before, (join directory name).toList = before ++ '/' :: name.toList := by
  unfold join
  split
  · exact .inl rfl
  · split
    · rename_i slashed
      obtain ⟨before,rfl⟩ := String.endsWith_char_iff_exists_append.mp slashed
      exact .inr ⟨before.toList,by simp⟩
    · exact .inr ⟨directory.toList,by simp⟩

theorem stepPlain {name : String} (plain : Plain name) {place next : Place}
    (done : step place name = .ok next) : next = place ++ [name] := by
  obtain ⟨c,mem,other⟩ := plain.proper
  have named : name ≠ "" := by
    rintro rfl
    simp at mem
  have single : name ≠ "." := by
    rintro rfl
    exact other (by simpa using mem)
  have double : name ≠ ".." := by
    rintro rfl
    exact other (by simpa using mem)
  unfold step at done
  simp only [beq_iff_eq,named,single,double,Bool.or_eq_true,or_self,if_false] at done
  split at done
  · contradiction
  · exact (Except.ok.inj done).symm

theorem walkEnd {files : Files} {names : List String} {name : String} {place target : Place}
    (done : files.walk place (names ++ [name]) = .ok target) : ∃ last, step last name = .ok target := by
  induction names generalizing place with
  | nil =>
    obtain ⟨-,next,stepped,rest⟩ := (walkConsIff _ _ _ _ _).mp done
    exact ⟨place,stepped.trans rest⟩
  | cons head names ih =>
    obtain ⟨-,next,-,rest⟩ := (walkConsIff _ _ _ _ _).mp done
    exact ih rest

theorem placeEnd {files : Files} {directory name : String} {place : Place} (plain : Plain name)
    (found : files.placeOf (join directory name) = .ok place) : ∃ parent, place = parent ++ [name] := by
  have last : ∃ names, ((join directory name).toList.splitOn '/').map String.ofList = names ++ [name] := by
    have alone : name.toList.splitOn '/' = [name.toList] := List.splitOn_eq_singleton plain.whole
    rcases joinEnd directory name with same | ⟨before,split⟩
    · exact ⟨[],by simp [same,alone]⟩
    · exact ⟨(before.splitOn '/').map String.ofList,by
        simp [split,List.splitOn_append_cons_self,alone]⟩
  obtain ⟨names,split⟩ := last
  unfold placeOf at found
  split at found
  · contradiction
  · split at found
    · contradiction
    · rw [split] at found
      obtain ⟨parent,stepped⟩ := walkEnd found
      exact ⟨parent,stepPlain plain stepped⟩

theorem readIff (files : Files) (path : String) (bytes : List UInt8) :
    files.read path = .ok bytes ↔
      ∃ place, files.placeOf path = .ok place ∧ files.node? place = some (.file bytes) := by
  constructor
  · intro done
    unfold read at done
    cases found : files.placeOf path with
    | error fault => rw [found] at done; contradiction
    | ok place =>
      simp only [found,bind,Except.bind] at done
      split at done
      · contradiction
      · contradiction
      · rename_i held
        cases done
        exact ⟨place,rfl,held⟩
  · rintro ⟨place,found,held⟩
    exact readPlaced found held

theorem readBeforeRemoval {files : Files} {place : Place} {path : String} {bytes : List UInt8}
    (done : (files.remove place).read path = .ok bytes) : files.read path = .ok bytes := by
  have back : ∀ asked node, (files.remove place).node? asked = some node → files.node? asked = some node := by
    intro asked node found
    rw [nodeRemove] at found
    split at found
    · rename_i root
      rw [root]
      exact found
    · split at found
      · contradiction
      · exact found
  have kept : KeepsDirectories (files.remove place) files := ⟨rfl,fun asked => back asked .directory⟩
  obtain ⟨found,placed,held⟩ := (readIff _ _ _).mp done
  exact (readIff _ _ _).mpr ⟨found,placeKept kept placed,back found _ held⟩

theorem readAfterRemoval {files : Files} {place : Place} {path : String} {bytes : List UInt8}
    (file : files.node? place ≠ some .directory) (other : files.placeOf path ≠ .ok place)
    (done : files.read path = .ok bytes) : (files.remove place).read path = .ok bytes := by
  obtain ⟨found,placed,held⟩ := (readIff _ _ _).mp done
  refine (readIff _ _ _).mpr ⟨found,placeKept (removeKeeps file) placed,?_⟩
  rw [nodeRemove]
  split
  · rename_i root
    rw [root] at held
    exact held
  · have elsewhere : found ≠ place := by
      rintro rfl
      exact other placed
    rw [if_neg elsewhere]
    exact held

end Playground.Files
