import Playground.Config.Document
import Playground.Config.Load
import Playground.Proofs.Json.Members

/-! The sections of the settings and what a text gives for them. Every setting follows what is given
under its own name, whatever is given for the others. -/
namespace Playground

theorem agreeObject {fields fields' : List (String × Json)} {name : String}
    (agree : List.Forall₂ (fun a b => a.1 = b.1 ∧ (a.1 = name → a.2 = b.2)) fields fields') :
    (Json.mkObject fields).get? name = (Json.mkObject fields').get? name := by
  have along : ∀ start start' : Json.Members, start.get? name = start'.get? name →
      Json.Members.get? (fields.foldl (fun known field => known.insert field.1 field.2) start) name =
        Json.Members.get? (fields'.foldl (fun known field => known.insert field.1 field.2) start') name := by
    induction agree with
    | nil => exact fun _ _ same => same
    | @cons a b rest rest' head _ ih =>
      intro start start' same
      refine ih _ _ ?_
      rw [Json.getInsert,Json.getInsert,← head.1,same]
      split
      · rename_i found
        rw [head.2 found.symm]
      · rfl
  exact along [] [] rfl

namespace Config
namespace Given

theorem settingRead {given : Given} {name : String} {read : Toml → Option α} {fallback value : α}
    (done : given.setting name read fallback = some value) :
    given.lookup name = none ∧ value = fallback ∨
      ∃ source, given.lookup name = some source ∧ read source = some value := by
  unfold setting at done
  split at done
  · rename_i source found
    exact .inr ⟨source,found,done⟩
  · rename_i absent
    exact .inl ⟨absent,(Option.some.inj done).symm⟩

theorem sectionRead {given : Given} {name : String} {names : List String} {read : Given → Option α}
    {fallback value : α} (done : given.setting name (ofSection? names read) fallback = some value) :
    given.lookup name = none ∧ value = fallback ∨
      ∃ source inner, given.lookup name = some source ∧ ofToml? names source = some inner ∧
        read inner = some value := by
  rcases settingRead done with absent | ⟨source,found,taken⟩
  · exact .inl absent
  · obtain ⟨inner,opened,last⟩ := Option.bind_eq_some_iff.mp taken
    exact .inr ⟨source,inner,found,opened,last⟩

def member? (names : List String) (value : Toml) (name : String) : Option Toml :=
  (ofToml? names value).bind (·.lookup name)

theorem settingAgrees {g g' : Given} {asked : String} (agree : g.lookup asked = g'.lookup asked)
    {name : String} {read : Toml → Option α} {fallback a b : α}
    (done : g.setting name read fallback = some a) (done' : g'.setting name read fallback = some b)
    (show' : α → Json) : name = asked → show' a = show' b := by
  rintro rfl
  unfold setting at done done'
  rw [agree] at done
  exact congrArg show' (Option.some.inj (done.symm.trans done'))

end Given

open Given (settingAgrees)

/-! ## One setting at a time -/

section Follows
variable {g g' : Given} {name : String} (agree : g.lookup name = g'.lookup name)
include agree

theorem engineFollows {x x' : Engine} (read : Engine.ofGiven? g = some x) (read' : Engine.ofGiven? g' = some x') :
    x.document.get? name = x'.document.get? name := by
  simp only [Engine.ofGiven?,bind,Option.bind_eq_some_iff,pure,Option.some.injEq] at read read'
  obtain ⟨_,a,_,b,_,c,_,d,_,e,_,f,rfl⟩ := read
  obtain ⟨_,a',_,b',_,c',_,d',_,e',_,f',rfl⟩ := read'
  exact agreeObject (.cons ⟨rfl,settingAgrees agree a a' .bool⟩ (.cons ⟨rfl,settingAgrees agree b b' .ofNat⟩
    (.cons ⟨rfl,settingAgrees agree c c' .ofNat⟩ (.cons ⟨rfl,settingAgrees agree d d' .bool⟩
    (.cons ⟨rfl,settingAgrees agree e e' optional⟩ (.cons ⟨rfl,settingAgrees agree f f' .bool⟩ .nil))))))

theorem executionFollows {x x' : Execution} (read : Execution.ofGiven? g = some x)
    (read' : Execution.ofGiven? g' = some x') : x.document.get? name = x'.document.get? name := by
  simp only [Execution.ofGiven?,bind,Option.bind_eq_some_iff,pure,Option.some.injEq] at read read'
  obtain ⟨_,a,_,b,_,c,rfl⟩ := read
  obtain ⟨_,a',_,b',_,c',rfl⟩ := read'
  exact agreeObject (.cons ⟨rfl,settingAgrees agree a a' .ofNat⟩ (.cons ⟨rfl,settingAgrees agree b b' .ofNat⟩
    (.cons ⟨rfl,settingAgrees agree c c' .bool⟩ .nil)))

theorem interpreterFollows {x x' : Interpreter} (read : Interpreter.ofGiven? g = some x)
    (read' : Interpreter.ofGiven? g' = some x') : x.document.get? name = x'.document.get? name := by
  simp only [Interpreter.ofGiven?,bind,Option.bind_eq_some_iff,pure,Option.some.injEq] at read read'
  obtain ⟨_,a,_,b,_,c,_,d,_,e,_,f,rfl⟩ := read
  obtain ⟨_,a',_,b',_,c',_,d',_,e',_,f',rfl⟩ := read'
  exact agreeObject (.cons ⟨rfl,settingAgrees agree a a' .string⟩ (.cons ⟨rfl,settingAgrees agree b b' optional⟩
    (.cons ⟨rfl,settingAgrees agree c c' optional⟩ (.cons ⟨rfl,settingAgrees agree d d' .string⟩
    (.cons ⟨rfl,settingAgrees agree e e' .bool⟩ (.cons ⟨rfl,settingAgrees agree f f' .ofNat⟩ .nil))))))

theorem remoteFollows {x x' : Remote} (read : Remote.ofGiven? g = some x) (read' : Remote.ofGiven? g' = some x') :
    x.document.get? name = x'.document.get? name := by
  simp only [Remote.ofGiven?,bind,Option.bind_eq_some_iff,pure,Option.some.injEq] at read read'
  obtain ⟨_,a,_,b,_,c,_,d,_,e,_,f,rfl⟩ := read
  obtain ⟨_,a',_,b',_,c',_,d',_,e',_,f',rfl⟩ := read'
  let targets (known : Targets) : Json := .mkObject (known.map fun entry => (entry.1,entry.2.document))
  exact agreeObject (.cons ⟨rfl,settingAgrees agree a a' .string⟩ (.cons ⟨rfl,settingAgrees agree b b' optional⟩
    (.cons ⟨rfl,settingAgrees agree c c' optional⟩ (.cons ⟨rfl,settingAgrees agree d d' .ofNat⟩
    (.cons ⟨rfl,settingAgrees agree e e' .ofNat⟩ (.cons ⟨rfl,settingAgrees agree f f' targets⟩ .nil))))))

theorem serverFollows {x x' : Server} (read : Server.ofGiven? g = some x) (read' : Server.ofGiven? g' = some x') :
    x.document.get? name = x'.document.get? name := by
  simp only [Server.ofGiven?,bind,Option.bind_eq_some_iff,pure,Option.some.injEq] at read read'
  obtain ⟨_,a,_,b,_,c,rfl⟩ := read
  obtain ⟨_,a',_,b',_,c',rfl⟩ := read'
  exact agreeObject (.cons ⟨rfl,settingAgrees agree a a' .string⟩ (.cons ⟨rfl,settingAgrees agree b b' .ofNat⟩
    (.cons ⟨rfl,settingAgrees agree c c' .bool⟩ .nil)))

end Follows

/-! ## Sections -/

inductive Section where
  | engine | execution | runtime | remote | server
  deriving DecidableEq, Repr

namespace Section

def key : Section → String
  | .engine => "engine"
  | .execution => "execution"
  | .runtime => "runtime"
  | .remote => "remote"
  | .server => "server"

def names : Section → List String
  | .engine => Engine.names
  | .execution => Execution.names
  | .runtime => Interpreter.names
  | .remote => Remote.names
  | .server => Server.names

def value? (root : Toml) : Section → Option Toml
  | .server => Given.member? Config.names root "server"
  | s => (Given.member? Config.names root "workbench").bind (Given.member? Components.names · s.key)

def assigned? (s : Section) (root : Toml) (name : String) : Option Toml :=
  (s.value? root).bind (Given.member? s.names · name)

def document (config : Config) : Section → Json
  | .engine => config.components.engine.document
  | .execution => config.components.execution.document
  | .runtime => config.components.interpreter.document
  | .remote => config.components.remote.document
  | .server => config.server.document

def setting? (s : Section) (config : Config) (name : String) : Option Json := (s.document config).get? name

def read? (given : Given) : Section → Option Json
  | .engine => (Engine.ofGiven? given).map Engine.document
  | .execution => (Execution.ofGiven? given).map Execution.document
  | .runtime => (Interpreter.ofGiven? given).map Interpreter.document
  | .remote => (Remote.ofGiven? given).map Remote.document
  | .server => (Server.ofGiven? given).map Server.document

theorem readFollows {s : Section} {g g' : Given} {shown shown' : Json} (read : s.read? g = some shown)
    (read' : s.read? g' = some shown') {name : String} (agree : g.lookup name = g'.lookup name) :
    shown.get? name = shown'.get? name := by
  cases s <;>
    obtain ⟨x,done,rfl⟩ := Option.map_eq_some_iff.mp read <;>
    obtain ⟨x',done',rfl⟩ := Option.map_eq_some_iff.mp read'
  case engine => exact engineFollows agree done done'
  case execution => exact executionFollows agree done done'
  case runtime => exact interpreterFollows agree done done'
  case remote => exact remoteFollows agree done done'
  case server => exact serverFollows agree done done'

theorem readNothing (s : Section) (name : String) :
    ∃ shown, s.read? ⟨fun _ => none⟩ = some shown ∧
      shown.get? name = if s = .engine ∧ name = "cache_dir" then some .null else s.setting? {} name := by
  cases s with
  | engine =>
    refine ⟨Engine.document { cacheDir := none },rfl,?_⟩
    split
    · rename_i cacheDir
      rw [cacheDir.2]
      rfl
    · rename_i other
      have unasked : "cache_dir" ≠ name := fun same => other ⟨rfl,same.symm⟩
      exact agreeObject (.cons ⟨rfl,fun _ => rfl⟩ (.cons ⟨rfl,fun _ => rfl⟩ (.cons ⟨rfl,fun _ => rfl⟩
        (.cons ⟨rfl,fun _ => rfl⟩ (.cons ⟨rfl,fun asked => absurd asked unasked⟩
        (.cons ⟨rfl,fun _ => rfl⟩ .nil))))))
  | execution => exact ⟨_,rfl,rfl⟩
  | runtime => exact ⟨_,rfl,rfl⟩
  | remote => exact ⟨_,rfl,rfl⟩
  | server => exact ⟨_,rfl,rfl⟩

theorem componentSource {given : Given} {s : Section} {read : Given → Option α} {show' : α → Json}
    {value fallback : α} (done : given.setting s.key (Given.ofSection? s.names read) fallback = some value)
    (reads : ∀ g, s.read? g = (read g).map show') :
    given.lookup s.key = none ∧ show' value = show' fallback ∨
      ∃ source inner, given.lookup s.key = some source ∧ Given.ofToml? s.names source = some inner ∧
        s.read? inner = some (show' value) := by
  rcases Given.sectionRead done with ⟨absent,rfl⟩ | ⟨source,inner,found,opened,taken⟩
  · exact .inl ⟨absent,rfl⟩
  · exact .inr ⟨source,inner,found,opened,by rw [reads,taken]; rfl⟩

theorem sectionSource {root : Toml} {config : Config} (done : ofToml? root = some config) (s : Section) :
    s.value? root = none ∧ s.document config = s.document {} ∨
      ∃ source given, s.value? root = some source ∧ Given.ofToml? s.names source = some given ∧
        s.read? given = some (s.document config) := by
  simp only [ofToml?,Given.ofSection?,ofGiven?,bind,Option.bind_eq_some_iff,pure,Option.some.injEq] at done
  obtain ⟨given,opened,components,read,server,readServer,rfl⟩ := done
  have atTop : ∀ name, Given.member? Config.names root name = given.lookup name := fun name => by
    simp [Given.member?,opened]
  rcases Given.sectionRead read with ⟨absent,rfl⟩ | ⟨source,inner,found,entered,taken⟩
  · cases s with
    | server =>
      simp only [value?,atTop]
      exact componentSource (s := .server) readServer fun _ => rfl
    | _ => exact .inl ⟨by simp [value?,atTop,absent],rfl⟩
  · simp only [Components.ofGiven?,bind,Option.bind_eq_some_iff,pure,Option.some.injEq] at taken
    obtain ⟨_,engine,_,execution,_,interpreter,_,remote,rfl⟩ := taken
    have within : ∀ name, (given.lookup "workbench").bind (Given.member? Components.names · name) =
        inner.lookup name := fun name => by simp [found,Given.member?,entered]
    cases s <;> simp only [value?,atTop,within]
    case engine => exact componentSource (s := .engine) engine fun _ => rfl
    case execution => exact componentSource (s := .execution) execution fun _ => rfl
    case runtime => exact componentSource (s := .runtime) interpreter fun _ => rfl
    case remote => exact componentSource (s := .remote) remote fun _ => rfl
    case server => exact componentSource (s := .server) readServer fun _ => rfl

theorem assignedLookup {s : Section} {root source : Toml} {given : Given} (found : s.value? root = some source)
    (opened : Given.ofToml? s.names source = some given) (name : String) :
    s.assigned? root name = given.lookup name := by
  simp [assigned?,found,Given.member?,opened]

theorem unassignedSetting {root : Toml} {config : Config} (done : ofToml? root = some config) (s : Section)
    {name : String} (unassigned : s.assigned? root name = none) :
    s.setting? config name =
      if s = .engine ∧ name = "cache_dir" ∧ (s.value? root).isSome then some .null
      else s.setting? {} name := by
  rcases sectionSource done s with ⟨absent,same⟩ | ⟨source,given,found,opened,read⟩
  · rw [if_neg (by simp [absent])]
    exact congrArg (Json.get? · name) same
  · obtain ⟨shown,bare,falls⟩ := readNothing s name
    rw [assignedLookup found opened] at unassigned
    have follows : s.setting? config name = shown.get? name := readFollows read bare unassigned
    rw [follows,falls,found]
    simp

/- Where two texts give the same for a setting it is loaded the same, unless it is the cache directory, given
by neither, and only the second text gives the section. -/
theorem sameSetting {root root' : Toml} {config config' : Config} (done : ofToml? root = some config)
    (done' : ofToml? root' = some config') (s : Section) {name : String}
    (same : s.assigned? root' name = s.assigned? root name)
    (stays : (s.value? root).isSome → (s.value? root').isSome) :
    s.setting? config' name =
      if s = .engine ∧ name = "cache_dir" ∧ (s.value? root).isNone ∧ (s.value? root').isSome then some .null
      else s.setting? config name := by
  cases assigned : s.assigned? root name with
  | none =>
    rw [assigned] at same
    rw [unassignedSetting done s assigned,unassignedSetting done' s same]
    by_cases cacheDir : s = .engine ∧ name = "cache_dir"
    · obtain ⟨rfl,rfl⟩ := cacheDir
      cases here : value? root .engine with
      | none => simp
      | some source =>
        rw [here] at stays
        have there := stays rfl
        simp [there]
    · have other : ∀ p, ¬ (s = .engine ∧ name = "cache_dir" ∧ p) := fun p all => cacheDir ⟨all.1,all.2.1⟩
      rw [if_neg (other _),if_neg (other _),if_neg (other _)]
  | some value =>
    rcases sectionSource done s with ⟨absent,-⟩ | ⟨source,given,found,opened,read⟩
    · simp [assigned?,absent] at assigned
    · rcases sectionSource done' s with ⟨absent,-⟩ | ⟨source',given',found',opened',read'⟩
      · simp [found,absent] at stays
      · rw [assignedLookup found opened,assignedLookup found' opened'] at same
        rw [if_neg (by simp [found])]
        exact readFollows read' read same

end Section
end Config
end Playground
