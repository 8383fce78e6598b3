import RelProto.Proofs.Reading.FirstFailure

/-! Properties of the world that reading a database leaves alone: those that no query changes, also
when the reading fails. -/
namespace RelProto

variable {σ α β : Type} {P : σ → Prop}

namespace Action

/-- However the action ends, the property still holds. -/
def Maintains (P : σ → Prop) (action : Action σ α) : Prop :=
  ∀ world, P world → P (action.outcome world).2

lemma maintains_pure (a : α) : Maintains P (pure a : Action σ α) := fun _ h => h

lemma maintains_throw (fault : Fault) : Maintains P (throw fault : Action σ α) := fun _ h => h

lemma maintains_ofExcept (x : Except Fault α) : Maintains P (ofExcept x : Action σ α) := fun _ h => h

lemma Maintains.bind {action : Action σ α} {next : α → Action σ β} (h : Maintains P action)
    (hnext : ∀ a, Maintains P (next a)) : Maintains P (action >>= next) := by
  intro world hworld
  have hbetween := h world hworld
  rw [outcome_bind]
  rcases hrun : action.outcome world with ⟨fault | a, between⟩
  · rwa [hrun] at hbetween
  · rw [hrun] at hbetween
    exact hnext a between hbetween

end Action

open RelProto.Action

/-- No query changes whether the property holds. -/
structure Catalog.Maintains (catalog : Catalog σ) (P : σ → Prop) : Prop where
  tables : ∀ schema excluded, Action.Maintains P (catalog.tables schema excluded)
  columns : ∀ schema table, Action.Maintains P (catalog.columns schema table)
  indexRows : ∀ schema table, Action.Maintains P (catalog.indexRows schema table)
  foreignKeyRows : ∀ schema table, Action.Maintains P (catalog.foreignKeyRows schema table)

namespace Catalog.Maintains

variable {catalog : Catalog σ} (h : catalog.Maintains P)
include h

lemma perform (settings : GeneratorSettings) (step : ReadStep) :
    Action.Maintains P (step.perform catalog settings) := by
  cases step with
  | schemaList | schemaName schema | tableName schema table =>
    rw [ReadStep.perform]
    split_ifs
    · exact maintains_throw _
    · exact maintains_pure _
  | tables schema => exact (h.tables schema _).bind fun _ => maintains_pure _
  | columns schema table => exact (h.columns schema table).bind fun _ => maintains_pure _
  | indexRows schema table => exact (h.indexRows schema table).bind fun _ => maintains_pure _
  | foreignKeyRows schema table =>
    exact (h.foreignKeyRows schema table).bind fun _ => maintains_pure _
  | indexes schema table rows | relations schema table rows =>
    exact (maintains_ofExcept _).bind fun _ => maintains_pure _

lemma walk {settings : GeneratorSettings} {steps performed : List ReadStep}
    {failure? : Option (ReadStep × Fault)} {world after : σ}
    (hwalk : catalog.Walk settings steps world performed failure? after) (hworld : P world) :
    P after := by
  induction hwalk with
  | done => exact hworld
  | @next step _ _ world _ _ _ _ hstep _ ih =>
    have hbetween := h.perform settings step world hworld
    rw [hstep] at hbetween
    exact ih hbetween
  | @fails step _ world _ _ hstep =>
    have hafter := h.perform settings step world hworld
    rwa [hstep] at hafter

/-- Neither does reading the whole database, nor an attempt that fails. -/
theorem readDatabase (settings : GeneratorSettings) :
    Action.Maintains P (catalog.readDatabase settings) := by
  intro world hworld
  obtain ⟨performed, failure?, after, hwalk, _⟩ := catalog.follows_readDatabase settings world
  rw [world_of_walk hwalk]
  exact h.walk hwalk hworld

end Catalog.Maintains

end RelProto
