import Playground.Engine.Assembly
import Playground.Proofs.Bundle.Artifacts
import Playground.Proofs.Lifecycle.SingleCaller
import Playground.Wasm.Document

/-! Calls of a runtime whose bundle is downloaded and kept, one after the other. Main statement: after
bytes that do not compile the next call asks the server again exactly where the cache was left without
anything of use; where the bytes are in the cache every later call fails like this one, and nobody is
asked. -/
namespace Playground.Engine
open Playground.Interpreter (Compiled Download Loader Modules Outcome Phase)

structure Installation (W M : Type) where
  lifecycle : Interpreter.Lifecycle (Compiled M) := {}
  place : Workplace (W × List Net.Request)

namespace Installation
variable {M : Type} [Modules M]

def ensure (i : Installation W M) (loader : Loader M) (carrier : Net.Carrier W) :
    Except LoadFault (Compiled M) × Installation W M :=
  let ((answer,lifecycle),place) :=
    (i.lifecycle.ensure (loadInterpreter loader (Download.watched carrier))).run i.place
  (answer,⟨lifecycle,place⟩)

def after (loader : Loader M) (carrier : Net.Carrier W) : Nat → Installation W M → Installation W M
  | 0,i => i
  | n + 1,i => after loader carrier n (i.ensure loader carrier).2

def point (i : Installation W M) : Download.Point W :=
  { files := i.place.files, world := i.place.outside.1, requests := i.place.outside.2 }

def Settled (i : Installation W M) : Prop :=
  i.lifecycle.phase = .uninitialized ∨ ∃ handle, i.lifecycle.phase = .ready handle

end Installation

theorem loadRuns [Modules M] (loader : Loader M) (carrier : Net.Carrier W) (place : Workplace W) :
    (loadInterpreter loader carrier).run place =
      let loaded := ((loader.load carrier).run place.files).run place.outside
      (match loaded.1.1 with
        | .ok compiled => .loaded compiled
        | .error fault => .failed fault,
        { place with files := loaded.1.2, outside := loaded.2 }) := by
  have seen : (Workplace.ofFiles (loader.load carrier)).run place =
      let loaded := ((loader.load carrier).run place.files).run place.outside
      (loaded.1.1,{ place with files := loaded.1.2, outside := loaded.2 }) := rfl
  unfold loadInterpreter
  rw [StateT.run_bind,seen]
  generalize ((loader.load carrier).run place.files).run place.outside = loaded
  obtain ⟨⟨result,files⟩,outside⟩ := loaded
  cases result <;> rfl

namespace Installation
variable {M : Type} [Modules M] {loader : Loader M} {carrier : Net.Carrier W} {i : Installation W M} {d : Download}

theorem ensureLoads (idle : i.lifecycle.phase = .uninitialized) (loader : Loader M) (carrier : Net.Carrier W) :
    let loaded := ((loader.load (Download.watched carrier)).run i.place.files).run i.place.outside
    (i.ensure loader carrier).1 = loaded.1.1 ∧
    (i.ensure loader carrier).2.place = { i.place with files := loaded.1.2, outside := loaded.2 } ∧
    (i.ensure loader carrier).2.lifecycle.phase =
      match loaded.1.1 with
      | .ok compiled => .ready compiled
      | .error _ => .uninitialized := by
  intro loaded
  obtain ⟨lifecycle,called,phase⟩ :=
    Interpreter.Lifecycle.ensureIdle idle (loadInterpreter loader (Download.watched carrier)) i.place
  rw [loadRuns] at called phase
  unfold ensure
  rw [called]
  refine ⟨?_,rfl,phase.trans ?_⟩
  · simp only [loaded]
    cases (((loader.load (Download.watched carrier)).run i.place.files).run i.place.outside).1.1 <;> rfl
  · simp only [loaded]
    cases (((loader.load (Download.watched carrier)).run i.place.files).run i.place.outside).1.1 <;> rfl

theorem ensureSettled (settled : i.Settled) (loader : Loader M) (carrier : Net.Carrier W) :
    (i.ensure loader carrier).2.Settled := by
  rcases settled with idle | ⟨handle,ready⟩
  · obtain ⟨-,-,phase⟩ := ensureLoads idle loader carrier
    unfold Settled
    rw [phase]
    split
    · exact .inr ⟨_,rfl⟩
    · exact .inl rfl
  · obtain ⟨lifecycle,called,phase⟩ :=
      Interpreter.Lifecycle.ensureReady ready (loadInterpreter loader (Download.watched carrier)) i.place
    refine .inr ⟨handle,?_⟩
    unfold ensure
    rw [called]
    exact phase

theorem afterSettled (settled : i.Settled) (loader : Loader M) (carrier : Net.Carrier W) (n : Nat) :
    (after loader carrier n i).Settled := by
  induction n generalizing i with
  | zero => exact settled
  | succ n ih => exact ih (ensureSettled settled loader carrier)

theorem failedIdle (settled : i.Settled) {fault : LoadFault}
    (failed : (i.ensure loader carrier).1 = .error fault) :
    i.lifecycle.phase = .uninitialized ∧ (i.ensure loader carrier).2.lifecycle.phase = .uninitialized := by
  rcases settled with idle | ⟨handle,ready⟩
  · obtain ⟨result,-,phase⟩ := ensureLoads idle loader carrier
    rw [← result,failed] at phase
    exact ⟨idle,phase⟩
  · obtain ⟨lifecycle,called,-⟩ :=
      Interpreter.Lifecycle.ensureReady ready (loadInterpreter loader (Download.watched carrier)) i.place
    unfold ensure at failed
    rw [called] at failed
    contradiction

theorem ensureCompiles (source : loader.bundle = .download d) (idle : i.lifecycle.phase = .uninitialized)
    {bytes : List UInt8} {files : Files} {outside : W × List Net.Request}
    (fetched : ((d.fetch (Download.watched carrier)).run i.place.files).run i.place.outside =
      ((.ok bytes,files),outside)) :
    (i.ensure loader carrier).1 =
      ((loader.compile bytes).run files).1.mapError (fun fault => .invalid fault.message) ∧
    (i.ensure loader carrier).2.place.files = ((loader.compile bytes).run files).2 := by
  obtain ⟨result,place,-⟩ := ensureLoads idle loader carrier
  rw [Loader.loadCases source,fetched] at result place
  exact ⟨result,by rw [place]⟩

theorem ensureUnfetched (source : loader.bundle = .download d) (idle : i.lifecycle.phase = .uninitialized)
    {fault : LoadFault} {files : Files} {outside : W × List Net.Request}
    (fetched : ((d.fetch (Download.watched carrier)).run i.place.files).run i.place.outside =
      ((.error fault,files),outside)) :
    (i.ensure loader carrier).1 = .error fault := by
  obtain ⟨result,-,-⟩ := ensureLoads idle loader carrier
  rw [Loader.loadCases source,fetched] at result
  exact result

theorem ensureOutside (source : loader.bundle = .download d) (idle : i.lifecycle.phase = .uninitialized) :
    (i.ensure loader carrier).2.place.outside =
      (((d.fetch (Download.watched carrier)).run i.place.files).run i.place.outside).2 := by
  obtain ⟨-,place,-⟩ := ensureLoads idle loader carrier
  rw [place,Loader.loadCases source]
  simp only
  split <;> rfl

theorem sendWatched (carrier : Net.Carrier W) (request : Net.Request) (outside : W × List Net.Request) :
    (Net.send (Download.watched carrier) request).run outside =
      (((Net.send carrier request).run outside.1).1,
        (((Net.send carrier request).run outside.1).2,
          outside.2 ++ if Net.isWebScheme request.url.scheme then [request] else [])) := by
  unfold Net.send
  split
  · rfl
  · rw [List.append_nil]
    rfl

omit [Modules M] in
theorem fetchBare (carrier : Net.Carrier W) (bare : d.cached? i.place.files = none) :
    ((d.fetch (Download.watched carrier)).run i.place.files).run i.place.outside =
      let outside := (((Net.send carrier d.request).run i.place.outside.1).2,
        i.place.outside.2 ++ if Net.isWebScheme d.url.scheme then [d.request] else [])
      match d.read (d.reply (Net.send carrier) i.point) with
      | .error fault => ((.error fault,i.place.files),outside)
      | .ok bytes => ((.ok bytes,d.keep bytes i.place.files),outside) := by
  rw [Download.fetch,Download.fetchByBare bare,sendWatched]
  rfl

/- The runtime is not there, and the bytes that the cache holds are rejected. -/
structure Stuck (loader : Loader M) (d : Download) (bytes : List UInt8) (fault : Fault)
    (i : Installation W M) : Prop where
  idle : i.lifecycle.phase = .uninitialized
  held : d.cached? i.place.files = some bytes
  rejected : ((loader.compile bytes).run i.place.files).1 = .error fault

theorem stuckEnsure {directory : String} (source : loader.bundle = .download d)
    (cache : d.cacheDir = some directory) (carrier : Net.Carrier W) {bytes : List UInt8} {fault : Fault}
    (stuck : Stuck loader d bytes fault i) :
    (i.ensure loader carrier).1 = .error (.invalid fault.message) ∧
    (i.ensure loader carrier).2.place.outside = i.place.outside ∧
    Stuck loader d bytes fault (i.ensure loader carrier).2 := by
  have fetched := Download.fetchByCached stuck.held (Net.send (Download.watched carrier)) i.place.outside
  obtain ⟨result,files⟩ := ensureCompiles source stuck.idle fetched
  rw [stuck.rejected] at result
  obtain ⟨-,kept,again⟩ := Loader.compileRejects stuck.rejected
  refine ⟨result,?_,(failedIdle (.inl stuck.idle) result).2,?_,?_⟩
  · rw [ensureOutside source stuck.idle]
    exact congrArg Prod.snd fetched
  · rw [files,Download.cachedSame cache (kept d directory)]
    exact stuck.held
  · rw [files]
    exact again

theorem stuckAfter {directory : String} (source : loader.bundle = .download d)
    (cache : d.cacheDir = some directory) (carrier : Net.Carrier W) {bytes : List UInt8} {fault : Fault}
    (stuck : Stuck loader d bytes fault i) (n : Nat) :
    Stuck loader d bytes fault (after loader carrier n i) ∧
    (after loader carrier n i).place.outside = i.place.outside := by
  induction n generalizing i with
  | zero => exact ⟨stuck,rfl⟩
  | succ n ih =>
    obtain ⟨-,outside,again⟩ := stuckEnsure source cache carrier stuck
    obtain ⟨later,same⟩ := ih again
    exact ⟨later,same.trans outside⟩

omit [Modules M] in
theorem fetchedFrom {result : Except LoadFault (List UInt8)} {files : Files} {outside : W × List Net.Request}
    (fetched : ((d.fetch (Download.watched carrier)).run i.place.files).run i.place.outside =
      ((result,files),outside)) :
    (∃ bytes, d.cached? i.place.files = some bytes ∧ result = .ok bytes ∧ files = i.place.files) ∨
    d.cached? i.place.files = none ∧ d.read (d.reply (Net.send carrier) i.point) = result ∧
      ∀ bytes, result = .ok bytes → files = d.keep bytes i.place.files := by
  cases held : d.cached? i.place.files with
  | some content =>
    rw [Download.fetch,Download.fetchByCached held] at fetched
    cases fetched
    exact .inl ⟨content,rfl,rfl,rfl⟩
  | none =>
    rw [fetchBare carrier held] at fetched
    cases read : d.read (d.reply (Net.send carrier) i.point) with
    | error fault =>
      simp only [read] at fetched
      cases fetched
      exact .inr ⟨rfl,rfl,by simp⟩
    | ok content =>
      simp only [read] at fetched
      cases fetched
      exact .inr ⟨rfl,rfl,fun bytes same => by cases same; rfl⟩

omit [Modules M] in
theorem deliveredWeb {bytes : List UInt8} (read : d.read (d.reply (Net.send carrier) i.point) = .ok bytes) :
    Net.isWebScheme d.url.scheme = true := by
  obtain ⟨answer,replied,-⟩ := (Download.readDelivers d _ bytes).mp read
  cases web : Net.isWebScheme d.url.scheme with
  | true => rfl
  | false =>
    have unsent : Net.send carrier d.request = pure (.error (.unsupportedScheme d.url)) :=
      if_neg (show ¬ Net.isWebScheme d.url.scheme = true by simp [web])
    rw [Download.reply,unsent] at replied
    cases replied

theorem readReason (d : Download) (reply : Except Net.Breakdown Net.Answer) (reason : String) :
    d.read reply ≠ .error (.invalid reason) := by
  unfold Download.read
  split
  · simp
  · split
    · simp
    · split <;> simp

theorem rejectedBytes (source : loader.bundle = .download d) (idle : i.lifecycle.phase = .uninitialized)
    {reason : String} (failed : (i.ensure loader carrier).1 = .error (.invalid reason)) :
    ∃ bytes fault files outside,
      ((d.fetch (Download.watched carrier)).run i.place.files).run i.place.outside = ((.ok bytes,files),outside) ∧
      ((loader.compile bytes).run files).1 = .error fault ∧ reason = fault.message := by
  generalize fetched : ((d.fetch (Download.watched carrier)).run i.place.files).run i.place.outside = f
  obtain ⟨⟨result,files⟩,outside⟩ := f
  cases result with
  | error fault =>
    rw [ensureUnfetched source idle fetched] at failed
    cases failed
    rcases fetchedFrom fetched with ⟨_,-,cached,-⟩ | ⟨-,read,-⟩
    · contradiction
    · exact absurd read (readReason d _ _)
  | ok bytes =>
    obtain ⟨called,-⟩ := ensureCompiles source idle fetched
    rw [called] at failed
    cases compiled : ((loader.compile bytes).run files).1 with
    | ok handle => rw [compiled] at failed; contradiction
    | error fault =>
      rw [compiled] at failed
      cases failed
      exact ⟨bytes,fault,files,outside,rfl,compiled,rfl⟩

theorem stuckCalls {directory : String} (source : loader.bundle = .download d)
    (cache : d.cacheDir = some directory) (carrier : Net.Carrier W) {bytes : List UInt8} {fault : Fault}
    (stuck : Stuck loader d bytes fault i) (n : Nat) :
    ((after loader carrier n i).ensure loader carrier).1 = .error (.invalid fault.message) ∧
    ((after loader carrier n i).ensure loader carrier).2.place.outside = i.place.outside := by
  obtain ⟨later,same⟩ := stuckAfter source cache carrier stuck n
  obtain ⟨result,outside,-⟩ := stuckEnsure source cache carrier later
  exact ⟨result,outside.trans same⟩

theorem idleAsks {directory : String} (source : loader.bundle = .download d) (cache : d.cacheDir = some directory)
    (idle : i.lifecycle.phase = .uninitialized)
    (web : d.cached? i.place.files = none → Net.isWebScheme d.url.scheme = true) :
    (i.ensure loader carrier).2.place.outside.2 = i.place.outside.2 ++
      if Download.Unusable i.place.files (Files.join directory d.cacheName) then [d.request] else [] := by
  rw [ensureOutside source idle]
  cases held : d.cached? i.place.files with
  | some content =>
    have use : ¬ Download.Unusable i.place.files (Files.join directory d.cacheName) := by
      rw [← Download.uncachedIff cache,held]
      simp
    rw [if_neg use,List.append_nil,Download.fetch,Download.fetchByCached held]
  | none =>
    rw [if_pos ((Download.uncachedIff cache _).mp held),fetchBare carrier held]
    simp only [web held,if_true]
    split <;> rfl

theorem idleRecovers {directory : String} (source : loader.bundle = .download d)
    (cache : d.cacheDir = some directory) (idle : i.lifecycle.phase = .uninitialized)
    (useless : Download.Unusable i.place.files (Files.join directory d.cacheName)) {good : List UInt8}
    (delivered : Download.Delivers (d.reply (Net.send carrier) i.point) good) {compiled : Compiled M}
    (accepted : Compiled.ofBytes loader.machine loader.translate good = .ok compiled) :
    ∃ handle, (i.ensure loader carrier).1 = .ok handle := by
  have bare := (Download.uncachedIff cache _).mpr useless
  have fetched := fetchBare carrier bare
  rw [(Download.readDelivers d _ good).mpr delivered] at fetched
  obtain ⟨result,-⟩ := ensureCompiles source idle fetched
  obtain ⟨handle,done⟩ := Loader.compileAccepts accepted (d.keep good i.place.files)
  rw [done] at result
  exact ⟨handle,result⟩

/- What follows on a call that failed for its bytes. -/
structure Rejection (loader : Loader M) (d : Download) (directory : String) (carrier : Net.Carrier W)
    (i left : Installation W M) (bytes : List UInt8) (fault : Fault) : Prop where
  rejected : Compiled.ofBytes loader.machine loader.translate bytes = .error fault
  fetched : i.place.files.read (Files.join directory d.cacheName) = .ok bytes ∧ bytes ≠ [] ∨
    Download.Unusable i.place.files (Files.join directory d.cacheName) ∧
    Download.Delivers (d.reply (Net.send carrier) i.point) bytes
  kept : (Download.Unusable i.place.files (Files.join directory d.cacheName) →
      d.Stores directory i.place.files bytes) →
    left.place.files.read (Files.join directory d.cacheName) = .ok bytes
  asks : (left.ensure loader carrier).2.place.outside.2 = left.place.outside.2 ++
    if Download.Unusable left.place.files (Files.join directory d.cacheName) then [d.request] else []
  stuck : left.place.files.read (Files.join directory d.cacheName) = .ok bytes → bytes ≠ [] → ∀ n,
    ((after loader carrier n left).ensure loader carrier).1 = .error (.invalid fault.message) ∧
    ((after loader carrier n left).ensure loader carrier).2.place.outside = left.place.outside
  recovers : Download.Unusable left.place.files (Files.join directory d.cacheName) → ∀ good compiled,
    Download.Delivers (d.reply (Net.send carrier) left.point) good →
    Compiled.ofBytes loader.machine loader.translate good = .ok compiled →
    ∃ handle, (left.ensure loader carrier).1 = .ok handle

theorem rejectionFollows {directory : String} (source : loader.bundle = .download d)
    (cache : d.cacheDir = some directory) (settled : i.Settled) {reason : String}
    (failed : (i.ensure loader carrier).1 = .error (.invalid reason)) :
    ∃ bytes fault, reason = fault.message ∧
      Rejection loader d directory carrier i (i.ensure loader carrier).2 bytes fault := by
  obtain ⟨idle,leftIdle⟩ := failedIdle settled failed
  obtain ⟨bytes,fault,files,outside,fetched,refused,rfl⟩ := rejectedBytes source idle failed
  obtain ⟨rejected,sameBundle,again⟩ := Loader.compileRejects refused
  obtain ⟨-,left⟩ := ensureCompiles source idle fetched
  have origin : d.cached? i.place.files = some bytes ∧ files = i.place.files ∨
      d.cached? i.place.files = none ∧ d.read (d.reply (Net.send carrier) i.point) = .ok bytes ∧
        files = d.keep bytes i.place.files := by
    rcases fetchedFrom fetched with ⟨_,held,same,kept⟩ | ⟨bare,read,kept⟩
    · cases same
      exact .inl ⟨held,kept⟩
    · exact .inr ⟨bare,read,kept bytes rfl⟩
  have known : d.cached? (i.ensure loader carrier).2.place.files = d.cached? files := by
    rw [left]
    exact Download.cachedSame cache (sameBundle d directory)
  refine ⟨bytes,fault,rfl,rejected,?_,?_,?_,?_,?_⟩
  · rcases origin with ⟨held,-⟩ | ⟨bare,read,-⟩
    · exact .inl ((Download.cachedIff cache _ _).mp held)
    · exact .inr ⟨(Download.uncachedIff cache _).mp bare,(Download.readDelivers d _ bytes).mp read⟩
  · intro stored
    rw [left,sameBundle d directory bytes]
    rcases origin with ⟨held,rfl⟩ | ⟨bare,-,rfl⟩
    · exact ((Download.cachedIff cache _ _).mp held).1
    · exact Download.keptRead cache (stored ((Download.uncachedIff cache _).mp bare))
  · refine idleAsks source cache leftIdle fun bare => ?_
    -- without a bundle in the cache these bytes came from the network, so the address is one for it
    rcases origin with ⟨cached,rfl⟩ | ⟨-,read,-⟩
    · rw [known,cached] at bare
      contradiction
    · exact deliveredWeb read
  · intro held filled
    exact stuckCalls source cache carrier
      ⟨leftIdle,(Download.cachedIff cache _ _).mpr ⟨held,filled⟩,by rw [left]; exact again⟩
  · intro useless good compiled delivered accepted
    exact idleRecovers source cache leftIdle useless delivered accepted

/- Whatever was answered and called before. -/
theorem rejectedBundleBlocksWhileCached {loader : Loader M} {d : Download} {directory : String}
    (source : loader.bundle = .download d) (cache : d.cacheDir = some directory) (carrier : Net.Carrier W)
    (place : Workplace (W × List Net.Request)) (n : Nat) {reason : String}
    (failed : ((after loader carrier n { place }).ensure loader carrier).1 = .error (.invalid reason)) :
    ∃ bytes fault, reason = fault.message ∧
      Rejection loader d directory carrier (after loader carrier n { place })
        ((after loader carrier n { place }).ensure loader carrier).2 bytes fault :=
  rejectionFollows source cache (afterSettled (.inl rfl) loader carrier n) failed

def mirrored : Loader :=
  { machine := {}
    translate := Wasm.Document.translate
    bundle := .download Download.mirror
    cacheDir := some "c" }

def emptyModule : List UInt8 := Wasm.magic ++ Wasm.version

def mending (bytes : List UInt8) : Net.Carrier Nat := fun _ asked =>
  (.ok { status := 200, body := if asked = 0 then bytes else emptyModule },asked + 1)

def fresh : Installation Nat Wasm.Module := { place := { files := {}, outside := (0,[]) } }

theorem emptyModuleCompiles :
    ∃ compiled, Compiled.ofBytes mirrored.machine mirrored.translate emptyModule = .ok compiled := by
  have done : (Compiled.ofBytes mirrored.machine mirrored.translate emptyModule).toOption.isSome = true := by
    decide +kernel
  cases result : Compiled.ofBytes mirrored.machine mirrored.translate emptyModule with
  | error fault => rw [result] at done; contradiction
  | ok compiled => exact ⟨compiled,rfl⟩

def tooSmall : Fault := .compilationFailed "Invalid Wasm: file too small"

theorem shortCompiles {bytes : List UInt8} (short : bytes.length < Compiled.headerBytes) (files : Files) :
    (mirrored.compile bytes).run files = (.error tooSmall,files) := by
  have header : Compiled.checkHeader bytes = .error tooSmall := if_pos short
  show (Compiled.ofBytesCached mirrored.machine mirrored.translate "c" bytes).run files = _
  rw [Compiled.ofBytesCachedCases,header]

theorem shortRejected {bytes : List UInt8} (short : bytes.length < Compiled.headerBytes) :
    (fresh.ensure mirrored (mending bytes)).1 = .error (.invalid tooSmall.message) ∧
    (fresh.ensure mirrored (mending bytes)).2.place.files.read
      (Files.join "c" Download.mirror.cacheName) = .ok bytes ∧
    (fresh.ensure mirrored (mending bytes)).2.place.outside = (1,[Download.mirror.request]) := by
  have source : mirrored.bundle = .download Download.mirror := rfl
  have bare : Download.mirror.cached? fresh.place.files = none :=
    (Download.uncachedIff rfl _).mpr Download.mirrorBare
  have delivered : Download.mirror.read
      (Download.mirror.reply (Net.send (mending bytes)) fresh.point) = .ok bytes :=
    (Download.readDelivers _ _ _).mpr ⟨_,rfl,rfl,rfl⟩
  have fetched := fetchBare (mending bytes) bare
  rw [delivered] at fetched
  obtain ⟨result,files⟩ := ensureCompiles source rfl fetched
  rw [shortCompiles short] at result files
  refine ⟨result,?_,?_⟩
  · rw [files]
    exact Download.keptRead rfl (Download.mirrorStores bytes)
  · rw [ensureOutside source rfl,fetched]
    rfl

theorem emptyBodyRetried :
    let first := fresh.ensure mirrored (mending [])
    let second := first.2.ensure mirrored (mending [])
    first.1 = .error (.invalid tooSmall.message) ∧ (∃ handle, second.1 = .ok handle) ∧
    second.2.place.outside.2 = [Download.mirror.request,Download.mirror.request] := by
  intro first second
  obtain ⟨failed,held,outside⟩ := shortRejected (show ([] : List UInt8).length < Compiled.headerBytes by decide)
  obtain ⟨_,_,-,rejection⟩ :=
    rejectedBundleBlocksWhileCached (show mirrored.bundle = .download Download.mirror from rfl) rfl
      (mending []) fresh.place 0 failed
  have useless : Download.Unusable first.2.place.files (Files.join "c" Download.mirror.cacheName) := .inr held
  obtain ⟨compiled,compiles⟩ := emptyModuleCompiles
  have answered : Download.mirror.reply (Net.send (mending [])) first.2.point =
      .ok { status := 200, body := emptyModule } := by
    unfold Download.reply point
    rw [outside]
    rfl
  refine ⟨failed,rejection.recovers useless emptyModule compiled ⟨_,answered,rfl,rfl⟩ compiles,?_⟩
  have asks : second.2.place.outside.2 = first.2.place.outside.2 ++ [Download.mirror.request] :=
    rejection.asks.trans (congrArg (first.2.place.outside.2 ++ ·) (if_pos useless))
  exact asks.trans (congrArg (·.2 ++ [Download.mirror.request]) outside)

theorem keptBytesFailAgain :
    let first := fresh.ensure mirrored (mending [0])
    let second := first.2.ensure mirrored (mending [0])
    first.1 = .error (.invalid tooSmall.message) ∧ second.1 = .error (.invalid tooSmall.message) ∧
    second.2.place.outside.2 = [Download.mirror.request] ∧
    Download.Delivers (Download.mirror.reply (Net.send (mending [0])) first.2.point) emptyModule ∧
    ∃ compiled, Compiled.ofBytes mirrored.machine mirrored.translate emptyModule = .ok compiled := by
  intro first second
  have short : ([0] : List UInt8).length < Compiled.headerBytes := by decide
  obtain ⟨failed,held,outside⟩ := shortRejected short
  have stuck : Stuck mirrored Download.mirror [0] tooSmall first.2 :=
    ⟨(failedIdle (.inl rfl) failed).2,(Download.cachedIff rfl _ _).mpr ⟨held,by simp⟩,
      congrArg Prod.fst (shortCompiles short _)⟩
  obtain ⟨again,same,-⟩ := stuckEnsure rfl rfl (mending [0]) stuck
  have answered : Download.mirror.reply (Net.send (mending [0])) first.2.point =
      .ok { status := 200, body := emptyModule } := by
    unfold Download.reply point
    rw [outside]
    rfl
  exact ⟨failed,again,congrArg Prod.snd (same.trans outside),⟨_,answered,rfl,rfl⟩,emptyModuleCompiles⟩

end Installation
end Playground.Engine
