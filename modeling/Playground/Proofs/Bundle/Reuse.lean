import Playground.Proofs.Bundle.Artifacts
import Playground.Wasm.Document

/-! Compiling with a cache of artifacts beside compiling without one. Main statement: both come to the
same error or the same module; only the digest differs, and exactly where an artifact was reused,
since it is then that of the artifact's name. -/
namespace Playground.Interpreter.Compiled
variable {M : Type} [Modules M] {machine : Machine} {translate : Translate M} {directory : String} {bytes : List UInt8}
  {files : Files}

def ReadsBack (translate : Translate M) : Prop :=
  ∀ machine bytes m, admit? machine (translate bytes) = some m →
    Modules.deserialize? machine (Modules.serialize m) = some m

def artifactPath (M : Type) [Modules M] (machine : Machine) (directory : String) (bytes : List UInt8) : String :=
  Files.join directory (artifactName M machine bytes)

/- At the place of the artifact there is no file that can be read, a file that is not loaded, or what is kept
of these bytes on this machine. -/
inductive Found (machine : Machine) (translate : Translate M) (directory : String) (bytes : List UInt8)
    (files : Files) : Prop where
  | absent {cause} (unread : files.read (artifactPath M machine directory bytes) = .error cause)
  | unloadable {content} (read : files.read (artifactPath M machine directory bytes) = .ok content)
      (refused : (Modules.deserialize? machine content : Option M) = none)
  | written {compiled} (compiles : ofBytes machine translate bytes = .ok compiled)
      (read : files.read (artifactPath M machine directory bytes) = .ok (Modules.serialize compiled.module))

def Reused (machine : Machine) (translate : Translate M) (directory : String) (bytes : List UInt8)
    (files : Files) : Prop :=
  ∃ compiled, ofBytes machine translate bytes = .ok compiled ∧
    files.read (artifactPath M machine directory bytes) = .ok (Modules.serialize compiled.module)

def Kept (machine : Machine) (directory : String) (bytes : List UInt8) (files : Files) (m : M) : Prop :=
  ((discard M machine files directory bytes).replace directory (artifactName M machine bytes)
    (Modules.serialize m)).1 = .ok ()

def cachedResult (machine : Machine) (translate : Translate M) (directory : String) (bytes : List UInt8)
    (files : Files) : Except Fault (Compiled M) :=
  ((ofBytesCached machine translate directory bytes).run files).1

def filesAfter (machine : Machine) (translate : Translate M) (directory : String) (bytes : List UInt8)
    (files : Files) : Files :=
  ((ofBytesCached machine translate directory bytes).run files).2

def renamed (machine : Machine) (bytes : List UInt8) (compiled : Compiled M) : Compiled M :=
  { compiled with contentHash := artifactStem M machine bytes }

theorem compiledFrom {compiled : Compiled M} (done : ofBytes machine translate bytes = .ok compiled) :
    admit? machine (translate bytes) = some compiled.module ∧ compiled.contentHash = Digest.ofBytes bytes := by
  have header := compiledHeader done
  unfold ofBytes at done
  rw [header] at done
  cases admitted : admit? machine (translate bytes) with
  | none => rw [admitted] at done; contradiction
  | some m =>
    rw [admitted] at done
    cases done
    exact ⟨rfl,rfl⟩

theorem reusedLoads (back : ReadsBack translate) {compiled : Compiled M}
    (done : ofBytes machine translate bytes = .ok compiled)
    (read : files.read (artifactPath M machine directory bytes) = .ok (Modules.serialize compiled.module)) :
    ofArtifact? M machine files directory bytes = some (renamed machine bytes compiled) := by
  rw [artifactPath] at read
  simp only [ofArtifact?,read,Except.toOption,bind,Option.bind,back machine bytes _ (compiledFrom done).1]
  rfl

theorem reusedRuns (back : ReadsBack translate) {compiled : Compiled M}
    (done : ofBytes machine translate bytes = .ok compiled)
    (read : files.read (artifactPath M machine directory bytes) = .ok (Modules.serialize compiled.module)) :
    (ofBytesCached machine translate directory bytes).run files =
      (.ok (renamed machine bytes compiled),files) := by
  rw [ofBytesCachedCases,compiledHeader done,reusedLoads back done read]

theorem unloadedResult (unloaded : ofArtifact? M machine files directory bytes = none) :
    cachedResult machine translate directory bytes files = ofBytes machine translate bytes := by
  unfold cachedResult
  rw [ofBytesCachedCases]
  cases header : checkHeader bytes with
  | error fault => exact (headerRejects header).symm
  | ok _ =>
    rw [unloaded]
    cases ofBytes machine translate bytes <;> rfl

theorem unreusedUnloaded (found : Found machine translate directory bytes files)
    (fresh : ¬ Reused machine translate directory bytes files) :
    ofArtifact? M machine files directory bytes = none := by
  cases found with
  | absent unread =>
    rw [artifactPath] at unread
    simp only [ofArtifact?,unread]
    rfl
  | unloadable read refused =>
    rw [artifactPath] at read
    simp only [ofArtifact?,read,Except.toOption,bind,Option.bind,refused]
  | written compiles read => exact absurd ⟨_,compiles,read⟩ fresh

theorem keptReused {compiled : Compiled M} (done : ofBytes machine translate bytes = .ok compiled)
    (unloaded : ofArtifact? M machine files directory bytes = none)
    (kept : Kept machine directory bytes files compiled.module) :
    (filesAfter machine translate directory bytes files).read (artifactPath M machine directory bytes) =
      .ok (Modules.serialize compiled.module) := by
  unfold filesAfter
  rw [ofBytesCachedCases,compiledHeader done]
  simp only [unloaded,done]
  exact Files.replacedRead (Prod.ext kept rfl)

/- Whatever is in the cache directory, if it is no artifact of other bytes or another machine. -/
theorem reuseChangesDigestAlone (back : ReadsBack translate)
    (found : Found machine translate directory bytes files) :
    let plain := ofBytes machine translate bytes
    let cached := cachedResult machine translate directory bytes files
    cached.map Compiled.module = plain.map Compiled.module ∧
    (Reused machine translate directory bytes files → cached = plain.map (renamed machine bytes)) ∧
    (cached = plain ↔ ¬ Reused machine translate directory bytes files ∨
      artifactStem M machine bytes = Digest.ofBytes bytes) ∧
    (∀ compiled, plain = .ok compiled → ¬ Reused machine translate directory bytes files →
      Kept machine directory bytes files compiled.module →
      cachedResult machine translate directory bytes (filesAfter machine translate directory bytes files) =
        .ok (renamed machine bytes compiled)) := by
  intro plain cached
  have reuses : Reused machine translate directory bytes files →
      ∃ compiled, plain = .ok compiled ∧ cached = .ok (renamed machine bytes compiled) := by
    rintro ⟨compiled,done,read⟩
    exact ⟨compiled,done,congrArg Prod.fst (reusedRuns back done read)⟩
  have misses : ¬ Reused machine translate directory bytes files → cached = plain := fun fresh =>
    unloadedResult (unreusedUnloaded found fresh)
  refine ⟨?_,fun reused => ?_,⟨fun same => ?_,?_⟩,fun compiled done fresh kept => ?_⟩
  · by_cases reused : Reused machine translate directory bytes files
    · obtain ⟨compiled,done,loaded⟩ := reuses reused
      rw [done,loaded]
      rfl
    · rw [misses reused]
  · obtain ⟨compiled,done,loaded⟩ := reuses reused
    rw [done,loaded]
    rfl
  · by_cases reused : Reused machine translate directory bytes files
    · obtain ⟨compiled,done,loaded⟩ := reuses reused
      rw [done,loaded] at same
      have digest := congrArg Compiled.contentHash (Except.ok.inj same)
      rw [(compiledFrom done).2] at digest
      exact .inr digest
    · exact .inl reused
  · rintro (fresh | same)
    · exact misses fresh
    · by_cases reused : Reused machine translate directory bytes files
      · obtain ⟨compiled,done,loaded⟩ := reuses reused
        rw [done,loaded,renamed,same,← (compiledFrom done).2]
      · exact misses reused
  · have left := keptReused done (unreusedUnloaded found fresh) kept
    exact congrArg Prod.fst (reusedRuns back done left)

theorem documentCode {bytes : List UInt8} {m : Wasm.Module} (read : Wasm.Document.module? bytes = some m) :
    m.code = bytes := by
  unfold Wasm.Document.module? at read
  split at read
  · split at read
    · cases read
      rfl
    · contradiction
  · contradiction

theorem binaryCode {bytes : List UInt8} {m : Wasm.Module} (read : Wasm.Binary.module? bytes = some m) :
    m.code = bytes := by
  unfold Wasm.Binary.module? at read
  simp only at read
  split at read
  · obtain ⟨sections,-,last⟩ := Option.bind_eq_some_iff.mp read
    split at last
    · cases last
      rfl
    · contradiction
  · contradiction

theorem translatedCode {bytes : List UInt8} {m : Wasm.Module} (read : Wasm.Document.translate bytes = some m) :
    m.code = bytes := by
  unfold Wasm.Document.translate at read
  cases document : Wasm.Document.module? bytes with
  | some _ =>
    rw [document] at read
    cases read
    exact documentCode document
  | none =>
    rw [document] at read
    exact binaryCode read

theorem documentsReadBack : ReadsBack Wasm.Document.translate := by
  intro machine bytes m admitted
  have translated : Wasm.Document.translate bytes = some m := (Option.filter_eq_some_iff.mp admitted).1
  have marked : Wasm.Document.artifactMark.isPrefixOf (Wasm.Document.serialize m) = true :=
    List.isPrefixOf_iff_prefix.mpr (List.prefix_append _ _)
  show Wasm.Document.deserialize? machine (Wasm.Document.serialize m) = some m
  unfold Wasm.Document.deserialize?
  rw [if_pos marked,Wasm.Document.serialize,List.drop_left,translatedCode translated]
  exact admitted

def smallest : List UInt8 := Wasm.magic ++ Wasm.version

def filesWithSmallest : Files := filesAfter {} Wasm.Document.translate "c" smallest {}

theorem smallestStem : artifactStem Wasm.Module {} smallest = "750b7ab3047a4213" := by decide +kernel

theorem smallestPath : artifactPath Wasm.Module {} "c" smallest = "c/750b7ab3047a4213.cwasm" := by
  rw [artifactPath,artifactName,smallestStem]
  decide +kernel

theorem smallestAbsent : Found {} Wasm.Document.translate "c" smallest {} := by
  have unread : Files.read {} (artifactPath Wasm.Module {} "c" smallest) = .error .notFound := by
    rw [smallestPath]
    rfl
  exact .absent unread

theorem smallestCompiles :
    ∃ compiled, ofBytes {} Wasm.Document.translate smallest = .ok compiled := by
  have done : (ofBytes {} Wasm.Document.translate smallest).toOption.isSome = true := by decide +kernel
  cases result : ofBytes {} Wasm.Document.translate smallest with
  | error fault => rw [result] at done; contradiction
  | ok compiled => exact ⟨compiled,rfl⟩

theorem smallestKept (m : Wasm.Module) : Kept {} "c" smallest {} m := by
  have path : Files.join "c" (artifactName Wasm.Module {} smallest) = "c/750b7ab3047a4213.cwasm" := smallestPath
  unfold Kept discard Files.replace
  rw [path]
  rfl

theorem smallestUnused : ¬ Reused {} Wasm.Document.translate "c" smallest {} := by
  rintro ⟨compiled,-,read⟩
  rw [smallestPath] at read
  contradiction

theorem smallestWritten {compiled : Compiled} (done : ofBytes {} Wasm.Document.translate smallest = .ok compiled) :
    filesWithSmallest.read (artifactPath Wasm.Module {} "c" smallest) = .ok (Modules.serialize compiled.module) :=
  keptReused done (unreusedUnloaded smallestAbsent smallestUnused) (smallestKept compiled.module)

theorem secondCompilationReuses :
    ∃ compiled, ofBytes {} Wasm.Document.translate smallest = .ok compiled ∧
      cachedResult {} Wasm.Document.translate "c" smallest {} = .ok compiled ∧
      cachedResult {} Wasm.Document.translate "c" smallest filesWithSmallest = .ok (renamed {} smallest compiled) := by
  obtain ⟨compiled,done⟩ := smallestCompiles
  obtain ⟨-,-,same,-⟩ := reuseChangesDigestAlone documentsReadBack smallestAbsent
  obtain ⟨-,reused,-,-⟩ := reuseChangesDigestAlone documentsReadBack (.written done (smallestWritten done))
  refine ⟨compiled,done,?_,?_⟩
  · rw [same.mpr (.inl smallestUnused),done]
  · rw [reused ⟨compiled,done,smallestWritten done⟩,done]
    rfl

theorem reuseForgetsDigest :
    ReadsBack Wasm.Document.translate ∧ Found {} Wasm.Document.translate "c" smallest filesWithSmallest ∧
    (ofBytes {} Wasm.Document.translate smallest).map Compiled.contentHash = .ok "51d5a96955fbf39a" ∧
    (cachedResult {} Wasm.Document.translate "c" smallest filesWithSmallest).map Compiled.contentHash =
      .ok "750b7ab3047a4213" := by
  obtain ⟨compiled,done⟩ := smallestCompiles
  have loaded : cachedResult {} Wasm.Document.translate "c" smallest filesWithSmallest =
      .ok (renamed {} smallest compiled) :=
    congrArg Prod.fst (reusedRuns documentsReadBack done (smallestWritten done))
  have digest : Digest.ofBytes smallest = "51d5a96955fbf39a" := by decide +kernel
  refine ⟨documentsReadBack,.written done (smallestWritten done),?_,?_⟩
  · rw [done,← digest,← (compiledFrom done).2]
    rfl
  · rw [loaded,← smallestStem]
    rfl

end Playground.Interpreter.Compiled
