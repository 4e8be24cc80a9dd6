import Playground.Files
import Playground.Proofs.Lookup

/-! What file operations leave alone. A walk passes directories only, so a path denotes the same place
as long as the directories stay. A file that has been replaced is read back whole. -/
namespace Playground.Files

theorem nodePut (files : Files) (place asked : Place) (node : Node) :
    (files.put place node).node? asked =
      if asked = [] then some .directory else if asked = place then some node else files.node? asked := by
  have kept := lookupKept (fun known => known != place) files.entries asked
  unfold put node?
  simp only [lookupCons,kept]
  by_cases same : asked = place
  · simp [same]
  · by_cases root : asked = []
    · simp [root]
    · simp [same,root]

theorem nodeRemove (files : Files) (place asked : Place) :
    (files.remove place).node? asked =
      if asked = [] then some .directory else if asked = place then none else files.node? asked := by
  have kept := lookupKept (fun known => known != place) files.entries asked
  unfold remove node?
  simp only [kept]
  by_cases same : asked = place
  · simp [same]
  · by_cases root : asked = []
    · simp [root]
    · simp [same,root]

structure KeepsDirectories (files files' : Files) : Prop where
  current : files'.current = files.current
  kept : ∀ place, files.node? place = some .directory → files'.node? place = some .directory

theorem keepsTrans {a b c : Files} (first : KeepsDirectories a b) (second : KeepsDirectories b c) :
    KeepsDirectories a c :=
  ⟨second.current.trans first.current,fun place found => second.kept place (first.kept place found)⟩

theorem putKeeps {files : Files} {place : Place} {node : Node}
    (replaced : files.node? place = some .directory → node = .directory) :
    KeepsDirectories files (files.put place node) := by
  refine ⟨rfl,fun asked found => ?_⟩
  rw [nodePut]
  split
  · rfl
  · split
    · rename_i same
      rw [replaced (same ▸ found)]
    · exact found

theorem removeKeeps {files : Files} {place : Place} (other : files.node? place ≠ some .directory) :
    KeepsDirectories files (files.remove place) := by
  refine ⟨rfl,fun asked found => ?_⟩
  rw [nodeRemove]
  split
  · rfl
  · split
    · rename_i same
      exact absurd (same ▸ found) other
    · exact found

theorem walkConsIff (files : Files) (place target : Place) (name : String) (names : List String) :
    files.walk place (name :: names) = .ok target ↔
      files.node? place = some .directory ∧
        ∃ next, step place name = .ok next ∧ files.walk next names = .ok target := by
  rw [walk]
  split
  · rename_i bare
    simp [bare]
  · rename_i held
    simp [held]
  · rename_i found
    cases step place name <;> simp [found,bind,Except.bind]

theorem walkKept {files files' : Files} (keeps : KeepsDirectories files files') {names : List String}
    {place target : Place} (done : files.walk place names = .ok target) :
    files'.walk place names = .ok target := by
  induction names generalizing place with
  | nil => exact done
  | cons name names ih =>
    obtain ⟨found,next,stepped,rest⟩ := (walkConsIff _ _ _ _ _).mp done
    exact (walkConsIff _ _ _ _ _).mpr ⟨keeps.kept place found,next,stepped,ih rest⟩

theorem placeKept {files files' : Files} (keeps : KeepsDirectories files files') {path : String}
    {place : Place} (found : files.placeOf path = .ok place) : files'.placeOf path = .ok place := by
  have start : files'.start path = files.start path := by
    unfold Files.start
    rw [keeps.current]
  unfold placeOf at found ⊢
  split at found
  · contradiction
  · split at found
    · contradiction
    · rename_i named plain
      rw [if_neg named,if_neg plain,start]
      exact walkKept keeps found

theorem writeOk {files written : Files} {path : String} {bytes : List UInt8}
    (done : files.write path bytes = .ok written) :
    ∃ place, files.placeOf path = .ok place ∧ files.node? place ≠ some .directory ∧
      written = files.put place (.file bytes) := by
  unfold write at done
  cases found : files.placeOf path with
  | error fault => rw [found] at done; contradiction
  | ok place =>
    rw [found] at done
    simp only [bind,Except.bind] at done
    split at done
    · contradiction
    · rename_i other
      split at done
      · cases done
        exact ⟨place,rfl,other,rfl⟩
      · contradiction

theorem renameOk {files renamed : Files} {source target : String}
    (done : files.rename source target = .ok renamed) :
    ∃ old new node, files.placeOf source = .ok old ∧ files.placeOf target = .ok new ∧
      files.node? old = some node ∧ files.node? new ≠ some .directory ∧
      renamed = (files.remove old).put new node := by
  unfold rename at done
  cases left : files.placeOf source with
  | error fault => rw [left] at done; contradiction
  | ok old =>
    cases right : files.placeOf target with
    | error fault => rw [left,right] at done; contradiction
    | ok new =>
      rw [left,right] at done
      simp only [bind,Except.bind] at done
      split at done
      · contradiction
      · contradiction
      · rename_i node held other
        cases done
        exact ⟨old,new,node,rfl,rfl,held,other,rfl⟩

theorem readPlaced {files : Files} {path : String} {place : Place} {bytes : List UInt8}
    (found : files.placeOf path = .ok place) (held : files.node? place = some (.file bytes)) :
    files.read path = .ok bytes := by
  unfold read
  rw [found]
  simp only [bind,Except.bind,held]

/- A replacement that succeeds has made the directories, written the file beside its place, and moved it
there. -/
theorem replaceOk {files files' : Files} {directory name : String} {bytes : List UInt8}
    (done : files.replace directory name bytes = (.ok (),files')) :
    ∃ made written, files.createDirectories directory = (.ok (),made) ∧
      made.write (join directory name ++ ".partial") bytes = .ok written ∧
      written.rename (join directory name ++ ".partial") (join directory name) = .ok files' := by
  unfold replace at done
  split at done
  · cases done
  · rename_i made created
    simp only at done
    split at done
    · cases done
    · rename_i written wrote
      split at done
      · cases done
      · rename_i renamed moved
        cases done
        exact ⟨made,written,created,wrote,moved⟩

theorem replacedRead {files files' : Files} {directory name : String} {bytes : List UInt8}
    (done : files.replace directory name bytes = (.ok (),files')) :
    files'.read (join directory name) = .ok bytes := by
  obtain ⟨made,written,-,wrote,moved⟩ := replaceOk done
  obtain ⟨beside,besidePlace,free,rfl⟩ := writeOk wrote
  obtain ⟨old,new,node,oldPlace,newPlace,held,other,rfl⟩ := renameOk moved
  have same : old = beside := Except.ok.inj (oldPlace.symm.trans
    (placeKept (putKeeps fun found => absurd found free) besidePlace))
  subst old
  have beyond : beside ≠ [] := fun root => free (by rw [root]; rfl)
  have filled : node = .file bytes := by
    rw [nodePut,if_neg beyond,if_pos rfl] at held
    exact (Option.some.inj held).symm
  subst node
  have target : new ≠ [] := fun root => other (by rw [root]; rfl)
  have gone : ((made.put beside (.file bytes)).remove beside).node? new ≠ some .directory := by
    rw [nodeRemove,if_neg target]
    split
    · simp
    · exact other
  have left : (made.put beside (.file bytes)).node? beside ≠ some .directory := by simp [held]
  refine readPlaced (placeKept (keepsTrans (removeKeeps left) (putKeeps fun found => absurd found gone)) newPlace) ?_
  rw [nodePut,if_neg target,if_pos rfl]

end Playground.Files
