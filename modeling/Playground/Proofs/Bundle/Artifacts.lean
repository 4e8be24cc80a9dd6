import Playground.Interpreter.Loader
import Playground.Proofs.Bundle.Fetches
import Playground.Proofs.Files.Names

/-! Bundles and artifacts beside each other. Discarding an artifact does not touch the bundle that it was made
from, so bytes that did not compile do not compile the next time either. -/
namespace Playground.Interpreter

theorem digitPlain {c : Char} {n : Nat} (mem : c ∈ Nat.toDigits 16 n) : c ≠ '/' ∧ c ≠ '-' := by
  induction n using Nat.strongRecOn with
  | ind n ih =>
    have digit : ∀ k, Nat.digitChar k ≠ '/' ∧ Nat.digitChar k ≠ '-' := fun k =>
      ⟨Nat.digitChar_ne _ rfl,Nat.digitChar_ne _ rfl⟩
    rw [Nat.toDigits_eq_if (by omega)] at mem
    split at mem
    · rw [List.mem_singleton.mp mem]
      exact digit n
    · rcases List.mem_append.mp mem with earlier | last
      · exact ih (n / 16) (by omega) earlier
      · rw [List.mem_singleton.mp last]
        exact digit (n % 16)

theorem hexPlain {c : Char} {n : UInt64} (mem : c ∈ (Digest.hexDigits n).toList) : c ≠ '/' ∧ c ≠ '-' := by
  simp only [Digest.hexDigits,String.toList_ofList] at mem
  rcases List.mem_append.mp mem with padding | digits
  · rw [List.eq_of_mem_replicate padding]
    decide
  · exact digitPlain digits

theorem bundlePlain (d : Download) : Files.Plain d.cacheName where
  whole := by
    intro mem
    simp only [Download.cacheName,Digest.ofText,String.toList_append,List.mem_append] at mem
    rcases mem with (first | digest) | last
    · revert first; decide
    · exact (hexPlain digest).1 rfl
    · revert last; decide
  proper := ⟨'b',by simp [Download.cacheName],by decide⟩

theorem artifactPlain (M : Type) [Modules M] (machine : Machine) (bytes : List UInt8) :
    Files.Plain (Compiled.artifactName M machine bytes) where
  whole := by
    intro mem
    simp only [Compiled.artifactName,Compiled.artifactStem,String.toList_append,List.mem_append] at mem
    rcases mem with digest | last
    · exact (hexPlain digest).1 rfl
    · revert last; decide
  proper := ⟨'m',by simp [Compiled.artifactName],by decide⟩

theorem namesApart (d : Download) (M : Type) [Modules M] (machine : Machine) (bytes : List UInt8) :
    d.cacheName ≠ Compiled.artifactName M machine bytes := by
  intro same
  have hyphen : '-' ∈ d.cacheName.toList := by simp [Download.cacheName]
  rw [same] at hyphen
  simp only [Compiled.artifactName,Compiled.artifactStem,String.toList_append,List.mem_append] at hyphen
  rcases hyphen with digest | last
  · exact (hexPlain digest).2 rfl
  · revert last; decide

namespace Compiled
variable {M : Type} [Modules M] {machine : Machine} {translate : Translate M} {files : Files} {bytes : List UInt8}
  {directory : String}

theorem discardCases (M : Type) [Modules M] (machine : Machine) (files : Files) (directory : String)
    (bytes : List UInt8) :
    discard M machine files directory bytes = files ∨
      ∃ place content, files.placeOf (Files.join directory (artifactName M machine bytes)) = .ok place ∧
        files.node? place = some (.file content) ∧
        discard M machine files directory bytes = files.remove place := by
  unfold discard
  split
  · rename_i place found
    split
    · rename_i content held
      exact .inr ⟨place,content,found,held,rfl⟩
    · exact .inl rfl
  · exact .inl rfl

theorem readBeforeDiscard {path : String} {content : List UInt8}
    (done : (discard M machine files directory bytes).read path = .ok content) : files.read path = .ok content := by
  rcases discardCases M machine files directory bytes with same | ⟨place,_,-,-,removed⟩
  · rwa [same] at done
  · rw [removed] at done
    exact Files.readBeforeRemoval done

theorem bundleAfterDiscard {d : Download} {place : String} {content : List UInt8}
    (done : files.read (Files.join place d.cacheName) = .ok content) :
    (discard M machine files directory bytes).read (Files.join place d.cacheName) = .ok content := by
  rcases discardCases M machine files directory bytes with same | ⟨removed,_,found,held,gone⟩
  · rwa [same]
  · rw [gone]
    refine Files.readAfterRemoval (by simp [held]) ?_ done
    intro together
    obtain ⟨_,bundleEnd⟩ := Files.placeEnd (bundlePlain d) together
    obtain ⟨_,artifactEnd⟩ := Files.placeEnd (artifactPlain M machine bytes) found
    have last := (bundleEnd.symm.trans artifactEnd)
    exact namesApart d M machine bytes (List.append_inj_right' last rfl |> List.singleton_inj.mp)

theorem discardKeepsBundle (d : Download) (place : String) (content : List UInt8) :
    (discard M machine files directory bytes).read (Files.join place d.cacheName) = .ok content ↔
      files.read (Files.join place d.cacheName) = .ok content :=
  ⟨readBeforeDiscard,bundleAfterDiscard⟩

theorem unloadedAfterDiscard (unloaded : ofArtifact? M machine files directory bytes = none) :
    ofArtifact? M machine (discard M machine files directory bytes) directory bytes = none := by
  simp only [ofArtifact?] at unloaded ⊢
  cases found : (discard M machine files directory bytes).read
      (Files.join directory (artifactName M machine bytes)) with
  | error cause => rfl
  | ok artifact =>
    rw [readBeforeDiscard found] at unloaded
    exact unloaded

theorem compiledHeader {compiled : Compiled M} (done : ofBytes machine translate bytes = .ok compiled) :
    checkHeader bytes = .ok () := by
  unfold ofBytes at done
  cases header : checkHeader bytes with
  | error fault => rw [header] at done; contradiction
  | ok _ => rfl

theorem ofBytesCachedCases (machine : Machine) (translate : Translate M) (directory : String)
    (bytes : List UInt8) (files : Files) :
    (ofBytesCached machine translate directory bytes).run files =
      match checkHeader bytes with
      | .error fault => (.error fault,files)
      | .ok () =>
        match ofArtifact? M machine files directory bytes with
        | some compiled => (.ok compiled,files)
        | none =>
          match ofBytes machine translate bytes with
          | .error fault => (.error fault,discard M machine files directory bytes)
          | .ok compiled =>
            (.ok compiled,keep machine (discard M machine files directory bytes) directory bytes compiled) := by
  unfold ofBytesCached
  cases checkHeader bytes with
  | error fault => rfl
  | ok _ =>
    simp only [StateT.run_bind,StateT.run_get,pure_bind]
    cases ofArtifact? M machine files directory bytes with
    | some compiled => rfl
    | none => cases ofBytes machine translate bytes <;> rfl

theorem headerRejects {fault : Fault} (refused : checkHeader bytes = .error fault) :
    ofBytes machine translate bytes = .error fault := by
  unfold ofBytes
  rw [refused]
  rfl

/- Bytes are rejected where the compiler rejects them and no artifact is there instead, and once they were
they are again. -/
theorem rejectedAgain {fault : Fault}
    (rejected : ((ofBytesCached machine translate directory bytes).run files).1 = .error fault) :
    ofBytes machine translate bytes = .error fault ∧
    (∀ (d : Download) place content,
      ((ofBytesCached machine translate directory bytes).run files).2.read (Files.join place d.cacheName) =
          .ok content ↔
        files.read (Files.join place d.cacheName) = .ok content) ∧
    ((ofBytesCached machine translate directory bytes).run
      ((ofBytesCached machine translate directory bytes).run files).2).1 = .error fault := by
  rw [ofBytesCachedCases machine translate directory bytes files] at rejected ⊢
  rw [ofBytesCachedCases]
  cases header : checkHeader bytes with
  | error reason =>
    simp only [header] at rejected ⊢
    cases rejected
    exact ⟨headerRejects header,fun _ _ _ => trivial,rfl⟩
  | ok _ =>
    cases unloaded : ofArtifact? M machine files directory bytes with
    | some compiled => simp only [header,unloaded] at rejected; contradiction
    | none =>
      cases result : ofBytes machine translate bytes with
      | ok compiled => simp only [header,unloaded,result] at rejected; contradiction
      | error reason =>
        simp only [header,unloaded,result] at rejected ⊢
        rw [unloadedAfterDiscard unloaded]
        exact ⟨rejected,discardKeepsBundle,rejected⟩

theorem acceptedCached {compiled : Compiled M} (accepted : ofBytes machine translate bytes = .ok compiled) :
    ∃ handle, ((ofBytesCached machine translate directory bytes).run files).1 = .ok handle := by
  rw [ofBytesCachedCases,compiledHeader accepted]
  cases ofArtifact? M machine files directory bytes with
  | some handle => exact ⟨handle,rfl⟩
  | none =>
    rw [accepted]
    exact ⟨compiled,rfl⟩

end Compiled

namespace Loader
variable {M : Type} [Modules M] {loader : Loader M} {files : Files} {bytes : List UInt8}

theorem compileRejects {fault : Fault} (rejected : ((loader.compile bytes).run files).1 = .error fault) :
    Compiled.ofBytes loader.machine loader.translate bytes = .error fault ∧
    (∀ (d : Download) place content,
      ((loader.compile bytes).run files).2.read (Files.join place d.cacheName) = .ok content ↔
        files.read (Files.join place d.cacheName) = .ok content) ∧
    ((loader.compile bytes).run ((loader.compile bytes).run files).2).1 = .error fault := by
  unfold compile at *
  split at rejected
  · exact Compiled.rejectedAgain rejected
  · exact ⟨rejected,fun _ _ _ => .rfl,rejected⟩

theorem compileAccepts {compiled : Compiled M}
    (accepted : Compiled.ofBytes loader.machine loader.translate bytes = .ok compiled) (files : Files) :
    ∃ handle, ((loader.compile bytes).run files).1 = .ok handle := by
  unfold compile
  split
  · exact Compiled.acceptedCached accepted
  · exact ⟨compiled,accepted⟩

theorem loadCases {loader : Loader M} {d : Download} (source : loader.bundle = .download d)
    (carrier : Net.Carrier W) (files : Files) (world : W) :
    ((loader.load carrier).run files).run world =
      let fetched := ((d.fetch carrier).run files).run world
      match fetched.1.1 with
      | .error fault => ((.error fault,fetched.1.2),fetched.2)
      | .ok bytes =>
        let compiled := (loader.compile bytes).run fetched.1.2
        ((compiled.1.mapError fun fault => .invalid fault.message,compiled.2),fetched.2) := by
  have plain : ∀ {α β : Type} (x : Id α) (f : α → Id β), (x >>= f) = f x := fun _ _ => rfl
  simp only [load,source,Bundle.fetch,StateT.run_bind,plain]
  generalize StateT.run ((d.fetch carrier).run files) world = fetched
  obtain ⟨⟨result,files⟩,world⟩ := fetched
  cases result with
  | error fault => rfl
  | ok bytes =>
    simp only [StateT.run_bind,StateT.run_get,pure_bind]
    generalize (loader.compile bytes).run files = compiled
    obtain ⟨outcome,left⟩ := compiled
    cases outcome <;> rfl

end Loader
end Playground.Interpreter
