/-! How a world may change under acts that are not known. A drift names the changes that are allowed;
acts that are put together from such as it covers are covered as well. -/
namespace Playground

structure Drift (W : Type) where
  leads : W → W → Prop
  stays : ∀ w, leads w w
  goesOn : ∀ {u v w}, leads u v → leads v w → leads u w

namespace Drift

section Acts

variable {W α β : Type}

def Covers (d : Drift W) (act : StateM W α) : Prop := ∀ w, d.leads w (act.run w).2

def CoversAny (d : Drift W) (act : Option (StateM W α)) : Prop := ∀ a, act = some a → d.Covers a

theorem coversPure (d : Drift W) (a : α) : d.Covers (pure a : StateM W α) := d.stays

theorem coversBind {d : Drift W} {act : StateM W α} {next : α → StateM W β} (first : d.Covers act)
    (rest : ∀ a, d.Covers (next a)) : d.Covers (act >>= next) :=
  fun w => d.goesOn (first w) (rest _ _)

end Acts

section Parts

variable {V W α : Type}

def via (d : Drift W) (part : V → W) : Drift V where
  leads := fun u v => d.leads (part u) (part v)
  stays := fun u => d.stays (part u)
  goesOn := d.goesOn

end Parts

section States

variable {W σ α β : Type} {d : Drift W}

/- A state is carried along, and does not matter. -/
def CoversWith (d : Drift W) (act : StateT σ (StateM W) α) : Prop := ∀ s, d.Covers (act.run s)

theorem withPure (a : α) : d.CoversWith (pure a : StateT σ (StateM W) α) := fun _ => d.stays

theorem withBind {act : StateT σ (StateM W) α} {next : α → StateT σ (StateM W) β}
    (first : d.CoversWith act) (rest : ∀ a, d.CoversWith (next a)) : d.CoversWith (act >>= next) := by
  intro s
  rw [StateT.run_bind]
  exact coversBind (first s) fun reached => rest reached.1 reached.2

theorem withGet : d.CoversWith (get : StateT σ (StateM W) σ) := fun _ => d.stays

theorem withSet (s : σ) : d.CoversWith (set s : StateT σ (StateM W) PUnit) :=
  fun _ => d.stays

theorem withModify (f : σ → σ) : d.CoversWith (modify f : StateT σ (StateM W) PUnit) :=
  fun _ => d.stays

theorem withLift {act : StateM W α} (covered : d.Covers act) :
    d.CoversWith (liftM act : StateT σ (StateM W) α) :=
  fun s => coversBind covered fun a => d.coversPure (a,s)

end States

end Drift
end Playground
