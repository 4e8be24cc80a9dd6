import Playground.Proofs.Config.Headers
import Playground.Proofs.Toml.Lines

/-! What a text leaves open. Main statement: every setting that a text does not give has its default,
and a header with nothing behind it changes nothing, but for the cache directory: a section that names
none has none, while the default names one. -/
namespace Playground.Config

theorem loadsIff {text : String} {config : Config} :
    ofText text = .ok config ↔
      ∃ table, Toml.table? text = some table ∧ ofToml? table.value = some config ∧ validate config = .ok () := by
  constructor
  · intro accepted
    unfold ofText at accepted
    split at accepted
    · contradiction
    · rename_i decoded found
      cases checked : validate decoded with
      | error fault =>
        rw [checked] at accepted
        contradiction
      | ok _ =>
        rw [checked] at accepted
        cases accepted
        obtain ⟨entries,parsed,read⟩ := Option.bind_eq_some_iff.mp found
        obtain ⟨table,opened,rfl⟩ := Option.map_eq_some_iff.mp parsed
        exact ⟨table,opened,read,checked⟩
  · rintro ⟨table,opened,read,checked⟩
    have found : decode? text = some config :=
      Option.bind_eq_some_iff.mpr ⟨_,Option.map_eq_some_iff.mpr ⟨table,opened,rfl⟩,read⟩
    unfold ofText
    rw [found]
    show (validate config >>= fun _ => pure config) = _
    rw [checked]
    rfl

theorem engineAccepted (engine : Engine) : validate { components := { engine } } = .ok () := by
  have defaults : (validate {}).toOption = some () := by decide +kernel
  cases checked : validate {} with
  | error fault =>
    rw [checked] at defaults
    contradiction
  | ok _ => exact checked

def headers : List (List String) :=
  ["workbench"] :: [Section.engine,.execution,.runtime,.remote,.server].map Section.path

/- The second text reads as the first one with this header behind it. -/
def Headed (path : List String) (text text' : String) : Prop :=
  ∃ table table', Toml.table? text = some table ∧ Toml.table? text' = some table' ∧
    table.openTable path = some table'

theorem headerLineHeads {text : String} {path : List String} (known : path ∈ headers) :
    Headed path text (text ++ "\n" ++ Toml.headerLine path) ↔
      ∃ table, Toml.table? text = some table ∧ (table.openTable path).isSome := by
  have named : ∀ path ∈ headers, Toml.readKey ((".".intercalate path).toList ++ [']','\n']) =
      some (path,[']','\n']) := by
    decide +kernel
  constructor
  · rintro ⟨table,table',parsed,-,opened⟩
    exact ⟨table,parsed,by rw [opened]; rfl⟩
  · rintro ⟨table,parsed,opens⟩
    obtain ⟨table',opened⟩ := Option.isSome_iff_exists.mp opens
    exact ⟨table,table',parsed,(Toml.headerBehind parsed (named path known)).trans opened,opened⟩

theorem headedSetting {table table' : Toml.Table} {config config' : Config} {path : List String}
    (known : path ∈ headers) (headed : table.openTable path = some table')
    (done : ofToml? table.value = some config) (done' : ofToml? table'.value = some config')
    (s : Section) {name : String} (named : name ∈ s.names) :
    s.setting? config' name =
      if path = Section.engine.path ∧ s = .engine ∧ name = "cache_dir" ∧ (s.value? table.value).isNone then
        some .null
      else s.setting? config name := by
  rcases List.mem_cons.mp known with rfl | inner
  · have same := Section.outerHeaderKeeps headed s
    have given : s.assigned? table'.value name = s.assigned? table.value name := by
      rw [Section.assigned?,same]
      rfl
    rw [Section.sameSetting done done' s given (by rw [same]; exact id),same]
    have engine : ["workbench"] ≠ Section.engine.path := by decide
    cases s.value? table.value <;> simp [engine]
  · obtain ⟨opened,-,rfl⟩ := List.mem_map.mp inner
    obtain ⟨stays,given⟩ := Section.headerKeeps headed s
    rw [Section.sameSetting done done' s (given name named) stays]
    refine if_congr ?_ rfl rfl
    by_cases same : s = opened
    · subst same
      constructor
      · rintro ⟨rfl,cacheDir,absent,-⟩
        exact ⟨rfl,rfl,cacheDir,absent⟩
      · rintro ⟨-,rfl,cacheDir,absent⟩
        exact ⟨rfl,cacheDir,absent,Section.headerEngine headed⟩
    · constructor
      · rintro ⟨-,-,absent,there⟩
        rw [Section.headerOther same headed] at there
        simp [Option.isNone_iff_eq_none.mp absent] at there
      · rintro ⟨path,rfl,-⟩
        exact absurd (Section.pathInjective path).symm same

theorem unassignedFallsBack {text : String} {config : Config} (accepted : ofText text = .ok config) :
    ∃ table, Toml.table? text = some table ∧
    (∀ (s : Section) name, s.assigned? table.value name = none →
      s.setting? config name =
        if s = .engine ∧ name = "cache_dir" ∧ (s.value? table.value).isSome then some .null
        else s.setting? {} name) ∧
    ∀ path ∈ headers, ∀ text' config', Headed path text text' → ofText text' = .ok config' →
      ∀ (s : Section), ∀ name ∈ s.names, s.setting? config' name =
        if path = Section.engine.path ∧ s = .engine ∧ name = "cache_dir" ∧ (s.value? table.value).isNone then
          some .null
        else s.setting? config name := by
  obtain ⟨table,parsed,done,-⟩ := loadsIff.mp accepted
  refine ⟨table,parsed,fun s name => Section.unassignedSetting done s,?_⟩
  rintro path known text' config' ⟨_,table',parsed',reread,headed⟩ accepted' s name named
  cases parsed.symm.trans parsed'
  obtain ⟨_,parsedOther,done',-⟩ := loadsIff.mp accepted'
  cases reread.symm.trans parsedOther
  exact headedSetting known headed done done' s named

def loneSetting : Toml.Table :=
  ⟨[("workbench",.table .implied [("engine",.table .header [("max_instances",.leaf (.int 3))])])]⟩

theorem loneSettingLeavesDefaults :
    ∃ config, ofText "[workbench.engine]\nmax_instances = 3\n" = .ok config ∧
      Section.engine.setting? config "max_instances" = some (.ofNat 3) ∧
      ∀ (s : Section) name, (s = .engine → name ≠ "max_instances") →
        s.setting? config name =
          if s = .engine ∧ name = "cache_dir" then some .null else s.setting? {} name := by
  have accepted : ofText "[workbench.engine]\nmax_instances = 3\n" =
      .ok { components := { engine := { maxInstances := 3, cacheDir := none } } } :=
    loadsIff.mpr ⟨loneSetting,rfl,rfl,engineAccepted _⟩
  refine ⟨_,accepted,rfl,fun s name other => ?_⟩
  obtain ⟨table,parsed,fallsBack,-⟩ := unassignedFallsBack accepted
  have read : table = loneSetting := Option.some.inj (parsed.symm.trans rfl)
  subst read
  cases s with
  | engine =>
    have unassigned : Section.engine.assigned? loneSetting.value name = none :=
      (lookupCons "max_instances" name (Toml.int 3) []).trans (if_neg (other rfl))
    have present : (Section.engine.value? loneSetting.value).isSome = true := rfl
    have falls := fallsBack .engine name unassigned
    rw [present] at falls
    simpa only [true_and,and_true] using falls
  | execution => exact fallsBack .execution name rfl
  | runtime => exact fallsBack .runtime name rfl
  | remote => exact fallsBack .remote name rfl
  | server => exact fallsBack .server name rfl

def bareHeader : Toml.Table := ⟨[("workbench",.table .implied [("engine",.table .header [])])]⟩

theorem bareHeaderDropsCacheDir :
    ∃ config, ofText "" = .ok {} ∧ ofText "[workbench.engine]\n" = .ok config ∧
      Headed Section.engine.path "" "[workbench.engine]\n" ∧
      Section.engine.setting? config "cache_dir" = some .null ∧
      Section.engine.setting? {} "cache_dir" = some (.string "./cache") :=
  ⟨{ components := { engine := { cacheDir := none } } },loadsIff.mpr ⟨{},rfl,rfl,engineAccepted _⟩,
    loadsIff.mpr ⟨bareHeader,rfl,rfl,engineAccepted _⟩,⟨{},bareHeader,rfl,rfl,rfl⟩,rfl,rfl⟩

end Playground.Config
