import Playground.Config.Load
import Playground.Engine.Assembly
import Playground.Proofs.Remote.Attempts
import Playground.Server.Settings

/-! Addresses in the settings, and what is built from settings that were loaded. Each place where the
settings hold an address is checked when they are loaded, and once more by the component that uses it.
Main statement: no component is refused for an address of loaded settings, and of several bad
addresses the first one is named. -/
namespace Playground.Config

inductive Place where
  | bundle | endpoint | binding
  deriving DecidableEq, Repr

namespace Place

def all : List Place := [.bundle,.endpoint,.binding]

def field : Place → String
  | .bundle => "workbench.runtime.bundle_url"
  | .endpoint => "workbench.remote.endpoint"
  | .binding => "server.bind_addr"

def address? (config : Config) : Place → Option String
  | .bundle =>
    if config.components.interpreter.bundlePath = none then some config.components.interpreter.bundleUrl else none
  | .endpoint => some config.components.remote.endpoint
  | .binding => some config.server.bindAddr

/- What is wrong with an address: web addresses have one of two schemes, and a server binds a
socket address. -/
inductive Flawed : Place → String → String → Prop
  | unread {place address flaw} (web : place ≠ .binding) (parsed : Url.parse address = .error flaw) :
      Flawed place address flaw.message
  | foreign {place address url} (web : place ≠ .binding) (parsed : Url.parse address = .ok url)
      (http : url.scheme ≠ "http") (https : url.scheme ≠ "https") :
      Flawed place address s!"unsupported scheme '{url.scheme}'"
  | unbound {address} (parsed : Net.SocketAddress.parse? address = none) :
      Flawed .binding address s!"'{address}' is not a socket address"

def Bad (config : Config) (place : Place) (reason : String) : Prop :=
  ∃ address, place.address? config = some address ∧ Flawed place address reason

def FirstBad (config : Config) (place : Place) (reason : String) : Prop :=
  place.Bad config reason ∧
    ∃ earlier later, all = earlier ++ place :: later ∧ ∀ known ∈ earlier, ∀ reason, ¬ known.Bad config reason

def checkAddress (address : String) : Place → Except Fault Unit
  | .binding => checkBindAddress address
  | place => checkWebAddress place.field address

def check (config : Config) (place : Place) : Except Fault Unit :=
  match place.address? config with
  | none => .ok ()
  | some address => place.checkAddress address

theorem webFlaw {place : Place} (web : place ≠ .binding) (address : String) :
    checkWebAddress place.field address = .ok () ∧ (∀ reason, ¬ Flawed place address reason) ∨
    ∃ reason, checkWebAddress place.field address = .error (.invalid place.field reason) ∧
      Flawed place address reason := by
  unfold checkWebAddress
  cases parsed : Url.parse address with
  | error flaw => exact .inr ⟨_,rfl,.unread web parsed⟩
  | ok url =>
    by_cases scheme : url.scheme = "http" ∨ url.scheme = "https"
    · refine .inl ⟨by simp [scheme],fun reason flawed => ?_⟩
      cases flawed with
      | unread _ failed => cases parsed.symm.trans failed
      | foreign _ known http https =>
        cases parsed.symm.trans known
        exact scheme.elim http https
      | unbound => exact web rfl
    · obtain ⟨http,https⟩ := not_or.mp scheme
      exact .inr ⟨_,by simp [http,https],.foreign web parsed http https⟩

theorem bindingFlaw (address : String) :
    checkBindAddress address = .ok () ∧ (∀ reason, ¬ Flawed .binding address reason) ∨
    ∃ reason, checkBindAddress address = .error (.invalid binding.field reason) ∧
      Flawed .binding address reason := by
  unfold checkBindAddress
  cases parsed : Net.SocketAddress.parse? address with
  | none => exact .inr ⟨_,rfl,.unbound parsed⟩
  | some bound =>
    refine .inl ⟨rfl,fun reason flawed => ?_⟩
    cases flawed with
    | unread web => exact web rfl
    | foreign web => exact web rfl
    | unbound failed => cases parsed.symm.trans failed

theorem checkCases (config : Config) (place : Place) :
    place.check config = .ok () ∧ (∀ reason, ¬ place.Bad config reason) ∨
    ∃ reason, place.check config = .error (.invalid place.field reason) ∧ place.Bad config reason := by
  unfold check Bad
  cases place.address? config with
  | none => exact .inl ⟨rfl,by simp⟩
  | some address =>
    have cases : place.checkAddress address = .ok () ∧ (∀ reason, ¬ Flawed place address reason) ∨
        ∃ reason, place.checkAddress address = .error (.invalid place.field reason) ∧ Flawed place address reason := by
      cases place with
      | bundle => exact webFlaw (show Place.bundle ≠ .binding by decide) address
      | endpoint => exact webFlaw (show Place.endpoint ≠ .binding by decide) address
      | binding => exact bindingFlaw address
    simpa using cases

theorem unflawedRead {place : Place} (web : place ≠ .binding) {address : String}
    (unflawed : ∀ reason, ¬ Flawed place address reason) : ∃ url, Url.parse address = .ok url := by
  cases parsed : Url.parse address with
  | error flaw => exact absurd (.unread web parsed) (unflawed _)
  | ok url => exact ⟨url,rfl⟩

theorem unflawedBound {address : String} (unflawed : ∀ reason, ¬ Flawed .binding address reason) :
    ∃ bound, Net.SocketAddress.parse? address = some bound := by
  cases parsed : Net.SocketAddress.parse? address with
  | none => exact absurd (.unbound parsed) (unflawed _)
  | some bound => exact ⟨bound,rfl⟩

end Place

open Place

theorem validateChecks (config : Config) : validate config = forM all (check config) := by
  unfold validate
  cases locally : config.components.interpreter.bundlePath with
  | none => simp [all,check,address?,checkAddress,locally,field]
  | some path =>
    simp [all,check,address?,checkAddress,locally,field]
    rfl

theorem checksInTurn (config : Config) (places : List Place) :
    forM places (check config) = .ok () ∧ (∀ place ∈ places, ∀ reason, ¬ place.Bad config reason) ∨
    ∃ earlier place later reason, places = earlier ++ place :: later ∧ place.Bad config reason ∧
      (∀ known ∈ earlier, ∀ reason, ¬ known.Bad config reason) ∧
      forM places (check config) = .error (.invalid place.field reason) := by
  induction places with
  | nil => exact .inl ⟨rfl,by simp⟩
  | cons place places ih =>
    rw [List.forM_cons]
    rcases checkCases config place with ⟨passes,good⟩ | ⟨reason,fails,bad⟩
    · rw [passes]
      rcases ih with ⟨all,others⟩ | ⟨earlier,first,later,reason,rfl,bad,before,fails⟩
      · exact .inl ⟨all,List.forall_mem_cons.mpr ⟨good,others⟩⟩
      · exact .inr ⟨place :: earlier,first,later,reason,rfl,bad,List.forall_mem_cons.mpr ⟨good,before⟩,fails⟩
    · exact .inr ⟨[],place,places,reason,rfl,bad,by simp,by rw [fails]; rfl⟩

theorem validateCases (config : Config) :
    validate config = .ok () ∧ (∀ (place : Place) reason, ¬ place.Bad config reason) ∨
    ∃ (place : Place) (reason : String), place.FirstBad config reason ∧
      validate config = .error (.invalid place.field reason) := by
  rw [validateChecks]
  rcases checksInTurn config all with ⟨passes,good⟩ | ⟨earlier,place,later,reason,order,bad,before,fails⟩
  · exact .inl ⟨passes,fun place => good place (by cases place <;> decide)⟩
  · exact .inr ⟨place,reason,⟨bad,earlier,later,order,before⟩,fails⟩

theorem decodedLoads {text : String} {config : Config} (decoded : decode? text = some config) :
    ofText text = (validate config).map fun _ => config := by
  unfold ofText
  rw [decoded]
  show (validate config >>= fun _ => pure config) = _
  cases validate config <;> rfl

theorem loadedDecodes {text : String} {config : Config} (loaded : ofText text = .ok config) :
    decode? text = some config ∧ ∀ (place : Place) reason, ¬ place.Bad config reason := by
  cases decoded : decode? text with
  | none =>
    unfold ofText at loaded
    rw [decoded] at loaded
    contradiction
  | some known =>
    rw [decodedLoads decoded] at loaded
    rcases validateCases known with ⟨passes,good⟩ | ⟨place,reason,-,fails⟩
    · rw [passes] at loaded
      cases loaded
      exact ⟨rfl,good⟩
    · rw [fails] at loaded
      contradiction

def Present (credential : Option String) : Prop :=
  ∃ text, credential = some text ∧ ∃ c ∈ text.toList, Text.isBlank c = false

theorem presentIff (credential : Option String) : isPresent credential = true ↔ Present credential := by
  cases credential <;> simp [isPresent,Present,Text.isBlankString,Text.allBlank]

theorem configuredIff (remote : Remote) :
    remote.isConfigured = true ↔ Present remote.clientId ∧ Present remote.clientSecret := by
  unfold Remote.isConfigured
  rw [Bool.and_eq_true,presentIff,presentIff]

def HasCredentials (config : Config) : Prop :=
  Present config.components.remote.clientId ∧ Present config.components.remote.clientSecret

structure Built (config : Config) : Prop where
  server : ∃ settings, Server.Settings.ofConfig config.server = .ok settings ∧
    Net.SocketAddress.parse? config.server.bindAddr = some settings.bindAddr
  bundle : ∃ bundle, Interpreter.Bundle.ofSettings config.components.interpreter.bundlePath
      config.components.interpreter.bundleUrl config.components.engine.cachePath = .ok bundle ∧
    ∀ path, config.components.interpreter.bundlePath = some path → bundle = .file path
  client : ∃ client, Remote.Client.ofConfig config.components.remote = .ok client ∧
    (client.isSome = true ↔ HasCredentials config) ∧
    ∀ made, client = some made → Remote.Client.MadeFrom config.components.remote made
  engine : ∀ (W M : Type) [Interpreter.Modules M] (equipment : Engine.Equipment W M),
    (∀ fault, Engine.assemble equipment config.components = .error fault ↔
      Interpreter.Machine.ofConfig config.components.engine = .error fault) ∧
    ∀ c, Engine.assemble equipment config.components = .ok c → (c.remote.isSome = true ↔ HasCredentials config)

section
variable {config : Config} (good : ∀ (place : Place) reason, ¬ place.Bad config reason)
include good

theorem goodUnflawed {place : Place} {address : String} (counts : place.address? config = some address)
    (reason : String) : ¬ Flawed place address reason :=
  fun flawed => good place reason ⟨address,counts,flawed⟩

theorem serverBuilt : ∃ settings, Server.Settings.ofConfig config.server = .ok settings ∧
    Net.SocketAddress.parse? config.server.bindAddr = some settings.bindAddr := by
  have counts : Place.binding.address? config = some config.server.bindAddr := rfl
  obtain ⟨bound,parsed⟩ := unflawedBound (goodUnflawed good counts)
  unfold Server.Settings.ofConfig
  rw [parsed]
  exact ⟨_,rfl,rfl⟩

theorem bundleBuilt : ∃ bundle, Interpreter.Bundle.ofSettings config.components.interpreter.bundlePath
      config.components.interpreter.bundleUrl config.components.engine.cachePath = .ok bundle ∧
    ∀ path, config.components.interpreter.bundlePath = some path → bundle = .file path := by
  unfold Interpreter.Bundle.ofSettings
  cases locally : config.components.interpreter.bundlePath with
  | some path => exact ⟨_,rfl,fun known same => by rw [Option.some.inj same]⟩
  | none =>
    have counts : Place.bundle.address? config = some config.components.interpreter.bundleUrl := if_pos locally
    obtain ⟨url,parsed⟩ := unflawedRead (by decide) (goodUnflawed good counts)
    unfold Interpreter.Download.ofAddress
    rw [parsed]
    exact ⟨_,rfl,by simp⟩

theorem clientBuilt : ∃ client, Remote.Client.ofConfig config.components.remote = .ok client ∧
    (client.isSome = true ↔ HasCredentials config) ∧
    ∀ made, client = some made → Remote.Client.MadeFrom config.components.remote made := by
  have cases : ∃ client, Remote.Client.ofConfig config.components.remote = .ok client ∧
      (client.isSome = true ↔ HasCredentials config) := by
    by_cases configured : config.components.remote.isConfigured = true
    · have credentials := (configuredIff _).mp configured
      obtain ⟨⟨id,given,-⟩,⟨secret,givenSecret,-⟩⟩ := credentials
      have counts : Place.endpoint.address? config = some config.components.remote.endpoint := rfl
      obtain ⟨url,parsed⟩ := unflawedRead (by decide) (goodUnflawed good counts)
      unfold Remote.Client.ofConfig
      rw [configured,given,givenSecret,parsed]
      exact ⟨_,rfl,iff_of_true rfl ((configuredIff _).mp configured)⟩
    · have missing := fun credentials => configured ((configuredIff _).mpr credentials)
      unfold Remote.Client.ofConfig
      rw [Bool.eq_false_iff.mpr configured]
      exact ⟨none,rfl,iff_of_false (by simp) missing⟩
  obtain ⟨client,built,present⟩ := cases
  exact ⟨client,built,present,fun made same => Remote.Client.madeFrom (same ▸ built)⟩

theorem engineBuilt (W M : Type) [Interpreter.Modules M] (equipment : Engine.Equipment W M) :
    (∀ fault, Engine.assemble equipment config.components = .error fault ↔
      Interpreter.Machine.ofConfig config.components.engine = .error fault) ∧
    ∀ c, Engine.assemble equipment config.components = .ok c → (c.remote.isSome = true ↔ HasCredentials config) := by
  obtain ⟨bundle,fetches,-⟩ := bundleBuilt good
  obtain ⟨client,made,present,-⟩ := clientBuilt good
  unfold Engine.assemble
  rw [fetches,made]
  cases Interpreter.Machine.ofConfig config.components.engine with
  | error fault =>
    refine ⟨fun known => ⟨fun failed => ?_,fun failed => ?_⟩,fun c assembled => by contradiction⟩
    · cases failed
      rfl
    · cases failed
      rfl
  | ok machine =>
    refine ⟨fun fault => iff_of_false (fun failed => by contradiction) (fun failed => by contradiction),?_⟩
    rintro c assembled
    cases assembled
    rw [Option.isSome_map]
    exact present

end

/- Settings with good addresses load and build; else the first bad place is named. -/
theorem loadedSettingsBuild (text : String) :
    (∀ config, ofText text = .ok config → Built config) ∧
    ∀ config, decode? text = some config →
      ((∀ (place : Place) reason, ¬ place.Bad config reason) → ofText text = .ok config) ∧
      ((∃ (place : Place) (reason : String), place.Bad config reason) →
        ∃ (place : Place) (reason : String), place.FirstBad config reason ∧
          ofText text = .error (.invalid place.field reason)) := by
  refine ⟨fun config loaded => ?_,fun config decoded => ?_⟩
  · obtain ⟨-,good⟩ := loadedDecodes loaded
    exact ⟨serverBuilt good,bundleBuilt good,clientBuilt good,engineBuilt good⟩
  · rw [decodedLoads decoded]
    rcases validateCases config with ⟨passes,good⟩ | ⟨place,reason,first,fails⟩
    · rw [passes]
      exact ⟨fun _ => rfl,fun ⟨place,reason,bad⟩ => absurd bad (good place reason)⟩
    · rw [fails]
      exact ⟨fun good => absurd first.1 (good place reason),fun _ => ⟨place,reason,first,rfl⟩⟩

def localBundle : String :=
  "[workbench.runtime]\nbundle_url='x'\nbundle_path='p'\n[workbench.remote]\nclient_id='a'\nclient_secret='b'\n"

def strayAddresses : String := localBundle ++ "endpoint='y'\n[server]\nbind_addr='z'\n"

def localSettings : Config where
  components := { interpreter := { bundleUrl := "x", bundlePath := some "p" },
                  remote := { clientId := some "a", clientSecret := some "b" } }

def straySettings : Config where
  components := { localSettings.components with remote := { localSettings.components.remote with endpoint := "y" } }
  server := { bindAddr := "z" }

theorem localPasses : validate localSettings = .ok () := by
  have passes : (validate localSettings).toOption = some () := by decide +kernel
  cases checked : validate localSettings with
  | error fault =>
    rw [checked] at passes
    contradiction
  | ok _ => rfl

theorem bindingLast {earlier later : List Place} (order : all = earlier ++ .binding :: later) :
    earlier = [.bundle,.endpoint] := by
  unfold all at order
  match earlier with
  | [] => cases order
  | [_] => cases order
  | [_,_] =>
    cases order
    rfl
  | _ :: _ :: _ :: rest => cases rest <;> cases order

theorem strayEndpoint : Flawed .endpoint "y" Url.Flaw.relativeWithoutBase.message :=
  .unread (by decide) rfl

theorem localBundleBuilds :
    ofText localBundle = .ok localSettings ∧ Built localSettings ∧ HasCredentials localSettings ∧
    ∃ reason, ofText strayAddresses = .error (.invalid "workbench.remote.endpoint" reason) := by
  have loaded : ofText localBundle = .ok localSettings := by
    have decoded : decode? localBundle = some localSettings := by decide +kernel
    rw [decodedLoads decoded,localPasses]
    rfl
  have credentials : HasCredentials localSettings :=
    ⟨⟨"a",rfl,'a',by decide,by decide⟩,⟨"b",rfl,'b',by decide,by decide⟩⟩
  obtain ⟨builds,-⟩ := loadedSettingsBuild localBundle
  obtain ⟨-,named⟩ := loadedSettingsBuild strayAddresses
  have bad : Place.endpoint.Bad straySettings _ := ⟨"y",rfl,strayEndpoint⟩
  obtain ⟨place,reason,first,fails⟩ := (named straySettings (by decide +kernel)).2 ⟨.endpoint,_,bad⟩
  refine ⟨loaded,builds _ loaded,credentials,reason,?_⟩
  obtain ⟨⟨address,counts,-⟩,earlier,later,order,good⟩ := first
  cases place with
  | bundle => cases counts
  | endpoint => exact fails
  | binding =>
    -- the place to bind is the last one, so the endpoint was checked before it
    have before : Place.endpoint ∈ earlier := by
      have split : earlier = [.bundle,.endpoint] := bindingLast order
      rw [split]
      decide
    exact absurd bad (good .endpoint before _)

end Playground.Config
