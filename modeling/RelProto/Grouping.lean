/-! Folding a stream of rows into groups of consecutive rows with the same key. -/
namespace RelProto

/-- A key that comes up again after its group was closed. -/
structure Reopened (κ : Type) where
  key : κ
  deriving DecidableEq

/-- How rows of type `ρ` build groups of type `γ`: `start` makes an empty group from the first row
of a run, and `append` adds every row of the run, the first one included. -/
structure GroupBuilder (m : Type → Type) (ρ κ γ : Type) where
  keyOf : ρ → κ
  start : ρ → m γ
  append : γ → ρ → m γ

namespace GroupBuilder

variable {m : Type → Type} [Monad m] {ρ κ γ : Type} [DecidableEq κ]

/-- The groups of the remaining rows, the open one first. `closed` are the keys of finished groups.
-/
def continueGroup (builder : GroupBuilder m ρ κ γ) (closed : List κ) (key : κ) (group : γ) :
    List ρ → m (Except (Reopened κ) (List γ))
  | [] => pure (.ok [group])
  | row :: rows => do
    let next := builder.keyOf row
    if key = next then
      let group ← builder.append group row
      builder.continueGroup closed key group rows
    else
      let fresh ← builder.start row
      if next ∈ key :: closed then
        pure (.error ⟨next⟩)
      else
        let fresh ← builder.append fresh row
        let rest ← builder.continueGroup (key :: closed) next fresh rows
        pure (rest.map (group :: ·))

/-- One group for each maximal run of rows with one key. Fails at the first row whose key already
had a run before. -/
def consecutiveGroupsM (builder : GroupBuilder m ρ κ γ) : List ρ → m (Except (Reopened κ) (List γ))
  | [] => pure (.ok [])
  | row :: rows => do
    let group ← builder.start row
    let group ← builder.append group row
    builder.continueGroup [] (builder.keyOf row) group rows

end GroupBuilder

/-- Grouping with a builder that has no effects. -/
def consecutiveGroups {ρ κ γ : Type} [DecidableEq κ] (builder : GroupBuilder Id ρ κ γ)
    (rows : List ρ) : Except (Reopened κ) (List γ) :=
  Id.run (builder.consecutiveGroupsM rows)

/-- What a builder was asked to do. -/
inductive GroupEvent (ρ κ : Type) where
  | start (row : ρ)
  | append (key : κ) (row : ρ)
  deriving DecidableEq

/-- Collects the rows of each group under its key, and notes every request. -/
def tracingBuilder {ρ κ : Type} (keyOf : ρ → κ) :
    GroupBuilder (StateM (List (GroupEvent ρ κ))) ρ κ (κ × List ρ) where
  keyOf := keyOf
  start row := do
    modify (· ++ [.start row])
    pure (keyOf row, [])
  append group row := do
    modify (· ++ [.append group.1 row])
    pure (group.1, group.2 ++ [row])

/-- The groups of the rows, with the requests made on the way. -/
def tracedGroups {ρ κ : Type} [DecidableEq κ] (keyOf : ρ → κ) (rows : List ρ) :
    Except (Reopened κ) (List (κ × List ρ)) × List (GroupEvent ρ κ) :=
  ((tracingBuilder keyOf).consecutiveGroupsM rows).run []

end RelProto
