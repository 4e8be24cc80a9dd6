import Playground.Interpreter.Bundle
import Playground.Proofs.Files.Replacement

/-! Fetches of one bundle, one after the other, over any files and any server. Main statement: at
every point of such a sequence a request is made exactly where the cache holds nothing of use, and
what was kept once is handed out from then on. -/
namespace Playground.Interpreter.Download

@[ext]
structure Point (W : Type) where
  files : Files
  world : W
  requests : List Net.Request := []

/- A client that leaves the world the same and notes what it is handed. -/
def watched (client : Net.Carrier W) : Net.Carrier (W × List Net.Request) := fun request seen =>
  let (reply,world) := (client request).run seen.1
  (reply,(world,seen.2 ++ [request]))

def reply (d : Download) (client : Net.Carrier W) (p : Point W) : Except Net.Breakdown Net.Answer :=
  ((client d.request).run p.world).1

def fetchAt (d : Download) (client : Net.Carrier W) (p : Point W) :
    Except LoadFault (List UInt8) × Point W :=
  let ((result,files),seen) := ((d.fetchBy (watched client)).run p.files).run (p.world,p.requests)
  (result,⟨files,seen.1,seen.2⟩)

def after (d : Download) (client : Net.Carrier W) : Nat → Point W → Point W
  | 0,p => p
  | n + 1,p => d.after client n (d.fetchAt client p).2

def Unusable (files : Files) (path : String) : Prop :=
  (∃ cause, files.read path = .error cause) ∨ files.read path = .ok []
instance (files path) : Decidable (Unusable files path) :=
  match found : files.read path with
  | .error cause => .isTrue (.inl ⟨cause,found⟩)
  | .ok [] => .isTrue (.inr found)
  | .ok (b :: bytes) => .isFalse (by simp [Unusable,found])

def Delivers (reply : Except Net.Breakdown Net.Answer) (bytes : List UInt8) : Prop :=
  ∃ answer, reply = .ok answer ∧ answer.isSuccess = true ∧ answer.content = .ok bytes

def Stores (d : Download) (directory : String) (files : Files) (bytes : List UInt8) : Prop :=
  (files.replace directory d.cacheName bytes).1 = .ok ()

section Cached
variable {d : Download} {directory : String} (cache : d.cacheDir = some directory)
include cache

theorem cachedIff (files : Files) (bytes : List UInt8) :
    d.cached? files = some bytes ↔
      files.read (Files.join directory d.cacheName) = .ok bytes ∧ bytes ≠ [] := by
  simp only [cached?,cachePath?,cache,Option.map_some,bind,Option.bind_some]
  cases files.read (Files.join directory d.cacheName) with
  | error cause => simp [Except.toOption]
  | ok held =>
    cases held with
    | nil => simp [Except.toOption]
    | cons head tail =>
      simp only [Except.toOption,Option.bind_some,List.isEmpty_cons,Bool.false_eq_true,if_false,
        Option.some.injEq,Except.ok.injEq]
      exact ⟨fun same => ⟨same,by simp [← same]⟩,And.left⟩

theorem uncachedIff (files : Files) :
    d.cached? files = none ↔ Unusable files (Files.join directory d.cacheName) := by
  simp only [cached?,cachePath?,cache,Option.map_some,bind,Option.bind_some,Unusable]
  cases files.read (Files.join directory d.cacheName) with
  | error cause => simp [Except.toOption]
  | ok held => cases held <;> simp [Except.toOption]

theorem cachedSame {files files' : Files}
    (same : ∀ content, files'.read (Files.join directory d.cacheName) = .ok content ↔
      files.read (Files.join directory d.cacheName) = .ok content) : d.cached? files' = d.cached? files := by
  refine Option.ext fun content => ?_
  rw [cachedIff cache,cachedIff cache,same]

theorem keptRead {files : Files} {bytes : List UInt8} (stores : d.Stores directory files bytes) :
    (d.keep bytes files).read (Files.join directory d.cacheName) = .ok bytes := by
  simp only [keep,cache]
  exact Files.replacedRead (Prod.ext stores rfl)

theorem keptCached {files : Files} {bytes : List UInt8} (stores : d.Stores directory files bytes)
    (filled : bytes ≠ []) : d.cached? (d.keep bytes files) = some bytes :=
  (cachedIff cache _ _).mpr ⟨keptRead cache stores,filled⟩

end Cached

theorem readDelivers (d : Download) (reply : Except Net.Breakdown Net.Answer) (bytes : List UInt8) :
    d.read reply = .ok bytes ↔ Delivers reply bytes := by
  unfold read Delivers
  cases reply with
  | error breakdown => simp
  | ok answer =>
    cases accepted : answer.isSuccess with
    | false => simp [accepted]
    | true => cases content : answer.content <;> simp [accepted,content]

theorem fetchByCached {d : Download} {files : Files} {bytes : List UInt8}
    (held : d.cached? files = some bytes) (client : Net.Carrier W) (world : W) :
    ((d.fetchBy client).run files).run world = ((.ok bytes,files),world) := by
  simp [fetchBy,held]
  rfl

theorem fetchByBare {d : Download} {files : Files} (bare : d.cached? files = none)
    (client : Net.Carrier W) (world : W) :
    ((d.fetchBy client).run files).run world =
      let sent := (client d.request).run world
      match d.read sent.1 with
      | .error fault => ((.error fault,files),sent.2)
      | .ok bytes => ((.ok bytes,d.keep bytes files),sent.2) := by
  simp only [fetchBy,StateT.run_bind,StateT.run_get,StateT.run_monadLift,monadLift_self,pure_bind,
    bind_pure_comp,bare,bind_map_left]
  simp only [bind]
  cases d.read ((client d.request).run world).1 <;> rfl

theorem fetchCached {d : Download} (client : Net.Carrier W) {p : Point W} {bytes : List UInt8}
    (held : d.cached? p.files = some bytes) : d.fetchAt client p = (.ok bytes,p) := by
  simp only [fetchAt,fetchByCached held]

theorem fetchAsked {d : Download} (client : Net.Carrier W) {p : Point W} (bare : d.cached? p.files = none) :
    (d.fetchAt client p).1 = d.read (d.reply client p) ∧
    (d.fetchAt client p).2.requests = p.requests ++ [d.request] ∧
    (d.fetchAt client p).2.world = ((client d.request).run p.world).2 ∧
    (d.fetchAt client p).2.files =
      match d.read (d.reply client p) with
      | .error _ => p.files
      | .ok bytes => d.keep bytes p.files := by
  have seen : (watched client d.request).run (p.world,p.requests) =
      (d.reply client p,((client d.request).run p.world).2,p.requests ++ [d.request]) := rfl
  simp only [fetchAt,fetchByBare bare,seen]
  cases d.read (d.reply client p) <;> exact ⟨rfl,rfl,rfl,rfl⟩

theorem watchedSame (d : Download) (client : Net.Carrier W) (p : Point W) :
    ((d.fetchBy client).run p.files).run p.world =
      (((d.fetchAt client p).1,(d.fetchAt client p).2.files),(d.fetchAt client p).2.world) := by
  cases held : d.cached? p.files with
  | some bytes => rw [fetchByCached held,fetchCached client held]
  | none =>
    obtain ⟨result,-,world,files⟩ := fetchAsked client held
    rw [fetchByBare held,result,world,files]
    simp only [reply]
    cases d.read ((client d.request).run p.world).1 <;> rfl

theorem webSent {d : Download} (web : Net.isWebScheme d.url.scheme = true) (carrier : Net.Carrier W)
    (p : Point W) :
    ((d.fetch (watched carrier)).run p.files).run (p.world,p.requests) =
      ((d.fetchBy (watched (Net.send carrier))).run p.files).run (p.world,p.requests) := by
  have sent : Net.send (watched carrier) d.request = watched carrier d.request := if_pos web
  have seen : watched (Net.send carrier) d.request = watched carrier d.request := by
    unfold watched Net.send
    rw [if_pos (show Net.isWebScheme d.request.url.scheme = true from web)]
  unfold fetch
  cases held : d.cached? p.files with
  | some bytes => rw [fetchByCached held,fetchByCached held]
  | none => simp only [fetchByBare held,sent,seen]

theorem afterCached {d : Download} (client : Net.Carrier W) {p : Point W} {bytes : List UInt8}
    (held : d.cached? p.files = some bytes) (n : Nat) : d.after client n p = p := by
  induction n with
  | zero => rfl
  | succ n ih =>
    unfold after
    rw [fetchCached client held]
    exact ih

structure Fetches (d : Download) (directory : String) (client : Net.Carrier W) (p : Point W) : Prop where
  asked : (d.fetchAt client p).2.requests =
    p.requests ++ if Unusable p.files (Files.join directory d.cacheName) then [d.request] else []
  delivered : ∀ bytes, (d.fetchAt client p).1 = .ok bytes ↔
    p.files.read (Files.join directory d.cacheName) = .ok bytes ∧ bytes ≠ [] ∨
    Unusable p.files (Files.join directory d.cacheName) ∧ Delivers (d.reply client p) bytes
  failed : ∀ fault, (d.fetchAt client p).1 = .error fault → (d.fetchAt client p).2.files = p.files
  kept : ∀ bytes, Unusable p.files (Files.join directory d.cacheName) →
    (d.fetchAt client p).1 = .ok bytes → bytes ≠ [] → d.Stores directory p.files bytes →
    (d.fetchAt client p).2.files.read (Files.join directory d.cacheName) = .ok bytes ∧
    ∀ n, d.fetchAt client (d.after client n (d.fetchAt client p).2) = (.ok bytes,(d.fetchAt client p).2)

theorem fetchesFrom {d : Download} {directory : String} (cache : d.cacheDir = some directory)
    (client : Net.Carrier W) (p : Point W) : Fetches d directory client p := by
  cases held : d.cached? p.files with
  | some cached =>
    have use : ¬ Unusable p.files (Files.join directory d.cacheName) := by
      rw [← uncachedIff cache,held]
      simp
    obtain ⟨found,filled⟩ := (cachedIff cache _ _).mp held
    have result : d.fetchAt client p = (.ok cached,p) := fetchCached client held
    constructor
    · simp [result,use]
    · intro bytes
      simp only [result,found,use,false_and,or_false,Except.ok.injEq]
      exact ⟨fun same => ⟨same,same ▸ filled⟩,And.left⟩
    · simp [result]
    · exact fun bytes unusable => absurd unusable use
  | none =>
    have useless := (uncachedIff cache _).mp held
    obtain ⟨result,requests,-,files⟩ := fetchAsked client held
    constructor
    · rw [requests,if_pos useless]
    · intro bytes
      rw [result,readDelivers]
      have unread : ¬ (p.files.read (Files.join directory d.cacheName) = .ok bytes ∧ bytes ≠ []) := by
        rw [← cachedIff cache,held]
        simp
      simp only [unread,useless,true_and,false_or]
    · intro fault failed
      rw [files,← result,failed]
    · intro bytes _ done filled stores
      have stored : d.cached? (d.fetchAt client p).2.files = some bytes := by
        rw [files,← result,done]
        exact keptCached cache stores filled
      refine ⟨((cachedIff cache _ _).mp stored).1,fun n => ?_⟩
      rw [afterCached client stored,fetchCached client stored]

/- At every point of every sequence of fetches, whatever the server answers and whatever is in the cache. -/
theorem cacheAnswersOnceKept {d : Download} {directory : String} (cache : d.cacheDir = some directory)
    (carrier : Net.Carrier W) (files : Files) (world : W) (n : Nat) :
    let client := Net.send carrier
    let p := d.after client n { files,world }
    Fetches d directory client p ∧
    ((d.fetch carrier).run p.files).run p.world =
      (((d.fetchAt client p).1,(d.fetchAt client p).2.files),(d.fetchAt client p).2.world) ∧
    (Net.isWebScheme d.url.scheme = true →
      ((d.fetch (watched carrier)).run p.files).run (p.world,p.requests) =
        (((d.fetchAt client p).1,(d.fetchAt client p).2.files),
          ((d.fetchAt client p).2.world,(d.fetchAt client p).2.requests))) := by
  intro client p
  refine ⟨fetchesFrom cache client p,watchedSame d client p,fun web => ?_⟩
  rw [webSent web]
  rfl

def mirror : Download :=
  { address := "http://m/p"
    url := { scheme := "http", host := some (.domain "m"), path := .segments ["p"] }
    cacheDir := some "c" }

def failingOnce : Net.Carrier Nat := fun _ asked =>
  (.ok (if asked = 0 then { status := 503 } else { status := 200, body := [0] }),asked + 1)

theorem mirrorPath : Files.join "c" mirror.cacheName = "c/bundle-b54eb0c3b87f090f.wasm" := by
  have name : mirror.cacheName = "bundle-b54eb0c3b87f090f.wasm" := by cbv
  rw [name]
  decide +kernel

theorem mirrorBare : Unusable {} (Files.join "c" mirror.cacheName) := by
  rw [mirrorPath]
  exact .inl ⟨.notFound,rfl⟩

theorem mirrorStores (bytes : List UInt8) : mirror.Stores "c" {} bytes := by
  unfold Stores Files.replace
  rw [mirrorPath]
  rfl

theorem failureFetchedAgain :
    let client := Net.send failingOnce
    let start : Point Nat := { files := {}, world := 0 }
    (mirror.fetchAt client start).1 = .error (.status "http://m/p" 503) ∧
    (mirror.fetchAt client (mirror.after client 1 start)).1 = .ok [0] ∧
    (mirror.after client 2 start).requests = [mirror.request,mirror.request] ∧
    ∀ n, mirror.fetchAt client (mirror.after client (n + 2) start) = (.ok [0],mirror.after client 2 start) := by
  intro client start
  have bare : mirror.cached? start.files = none := (uncachedIff rfl _).mpr mirrorBare
  obtain ⟨first,handed,world,files⟩ := fetchAsked client bare
  have once : mirror.after client 1 start = ⟨{},1,[mirror.request]⟩ := Point.ext files world handed
  obtain ⟨again,-,-⟩ := cacheAnswersOnceKept (show mirror.cacheDir = some "c" from rfl) failingOnce {} 0 1
  rw [show mirror.after (Net.send failingOnce) 1 { files := {}, world := 0 } = _ from once] at again
  have second : (mirror.fetchAt client ⟨{},1,[mirror.request]⟩).1 = .ok [0] :=
    (again.delivered [0]).mpr (.inr ⟨mirrorBare,_,rfl,rfl,rfl⟩)
  have twice : mirror.after client 2 start = (mirror.fetchAt client ⟨{},1,[mirror.request]⟩).2 := by
    rw [← once]
    rfl
  refine ⟨first,by rw [once]; exact second,?_,fun n => ?_⟩
  · rw [twice,again.asked,if_pos mirrorBare]
    rfl
  · have kept := (again.kept [0] mirrorBare second (by simp) (mirrorStores [0])).2 n
    rw [← twice] at kept
    exact kept

end Playground.Interpreter.Download
