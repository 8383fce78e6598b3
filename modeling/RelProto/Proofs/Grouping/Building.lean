import Mathlib.Data.List.Induction
import RelProto.CatalogRow
import RelProto.Proofs.Grouping

/-! Grouping is by runs: every maximal run becomes one group, built from its rows in their order, and
a stream in which a key has two runs is refused at the second one. What starting a group and adding
a row to it do besides, is done in the order of the rows. -/
namespace RelProto

section Keys

variable {ι κ : Type} {key : ι → κ}

/-- Items with keys of their own stay apart from the closed keys when one of them is closed. -/
lemma forall_key_notMem_cons {item : ι} {items : List ι} {closed : List κ}
    (hnew : key item ∉ items.map key) (hclosed : ∀ other ∈ items, key other ∉ closed) :
    ∀ other ∈ items, key other ∉ key item :: closed := by
  intro other hother
  rw [List.mem_cons, not_or]
  refine ⟨?_, hclosed other hother⟩
  intro hsame
  exact hnew (hsame ▸ List.mem_map_of_mem hother)

/-- If keys repeat, there is a first item whose key came up before. -/
lemma exists_reopened {items : List ι} (h : ¬ (items.map key).Nodup) :
    ∃ before item after, items = before ++ item :: after ∧ (before.map key).Nodup ∧
      key item ∈ before.map key := by
  induction items using List.reverseRecOn with
  | nil => exact absurd List.nodup_nil h
  | append_singleton items last ih =>
    by_cases hnodup : (items.map key).Nodup
    · refine ⟨items, last, [], rfl, hnodup, ?_⟩
      by_contra hnew
      apply h
      rw [List.map_append, List.map_singleton, ← List.concat_eq_append]
      exact hnodup.concat hnew
    · obtain ⟨before, item, after, rfl, hbefore, hmem⟩ := ih hnodup
      exact ⟨before, item, after ++ [last], by simp, hbefore, hmem⟩

end Keys

namespace GroupBuilder

section Step

variable {m : Type → Type} [Monad m] {ρ κ γ : Type} [DecidableEq κ]
  {builder : GroupBuilder m ρ κ γ} {closed : List κ} {key : κ} {group : γ} {row : ρ} {rows : List ρ}

lemma continueGroup_of_eq (h : key = builder.keyOf row) :
    builder.continueGroup closed key group (row :: rows) =
      builder.append group row >>= fun group => builder.continueGroup closed key group rows := by
  rw [continueGroup, if_pos h]

lemma continueGroup_of_mem (h : key ≠ builder.keyOf row)
    (hmem : builder.keyOf row ∈ key :: closed) :
    builder.continueGroup closed key group (row :: rows) =
      builder.start row >>= fun _ => pure (.error ⟨builder.keyOf row⟩) := by
  simp only [continueGroup, if_neg h, if_pos hmem]

lemma continueGroup_of_notMem (h : key ≠ builder.keyOf row)
    (hmem : builder.keyOf row ∉ key :: closed) :
    builder.continueGroup closed key group (row :: rows) =
      builder.start row >>= fun fresh => builder.append fresh row >>= fun fresh =>
        builder.continueGroup (key :: closed) (builder.keyOf row) fresh rows >>= fun rest =>
          pure (rest.map (group :: ·)) := by
  simp only [continueGroup, if_neg h, if_neg hmem]

end Step

section Build

variable {m : Type → Type} [Monad m] {ρ κ γ : Type} [DecidableEq κ]
  (builder : GroupBuilder m ρ κ γ)

/-- Builds the group of a run: its first row starts it, and then every row is added. -/
def build (run : KeyRun ρ) : m γ := do
  let group ← builder.start run.first
  run.rows.foldlM builder.append group

/-- Builds the groups of the runs. A run whose key is closed is started, and then refused. -/
def buildAll (closed : List κ) : List (KeyRun ρ) → m (Except (Reopened κ) (List γ))
  | [] => pure (.ok [])
  | run :: runs =>
    if builder.keyOf run.first ∈ closed then do
      let _ ← builder.start run.first
      pure (.error ⟨builder.keyOf run.first⟩)
    else do
      let group ← builder.build run
      let rest ← buildAll (builder.keyOf run.first :: closed) runs
      pure (rest.map (group :: ·))

variable {builder} [LawfulMonad m]

lemma continueGroup_append {closed : List κ} {key : κ} {same : List ρ}
    (h : ∀ row ∈ same, builder.keyOf row = key) (group : γ) (rows : List ρ) :
    builder.continueGroup closed key group (same ++ rows) =
      same.foldlM builder.append group >>= fun group =>
        builder.continueGroup closed key group rows := by
  induction same generalizing group with
  | nil => simp
  | cons row same ih =>
    rw [List.forall_mem_cons] at h
    rw [List.cons_append, continueGroup_of_eq h.1.symm, List.foldlM_cons, bind_assoc]
    exact bind_congr fun group => ih h.2 group

lemma continueGroup_rest {closed : List κ} {run : KeyRun ρ} (h : run.Uniform builder.keyOf)
    (group : γ) (rows : List ρ) :
    builder.continueGroup closed (builder.keyOf run.first) group (run.rest ++ rows) =
      run.rest.foldlM builder.append group >>= fun group =>
        builder.continueGroup closed (builder.keyOf run.first) group rows := by
  apply continueGroup_append
  intro row hrow
  exact h row (List.mem_cons_of_mem run.first hrow)

/-- The open group is closed by the runs that come after it. -/
theorem continueGroup_flatMap {runs : List (KeyRun ρ)}
    (huniform : ∀ run ∈ runs, run.Uniform builder.keyOf)
    (hapart : runs.IsChain fun run next => builder.keyOf run.first ≠ builder.keyOf next.first)
    {closed : List κ} {key : κ} (hkey : ∀ run ∈ runs.head?, key ≠ builder.keyOf run.first)
    (group : γ) :
    builder.continueGroup closed key group (runs.flatMap KeyRun.rows) =
      builder.buildAll (key :: closed) runs >>= fun rest => pure (rest.map (group :: ·)) := by
  induction runs generalizing closed key group with
  | nil => simp [continueGroup, buildAll, Except.map]
  | cons run runs ih =>
    rw [List.forall_mem_cons] at huniform
    rw [List.isChain_cons] at hapart
    have hne : key ≠ builder.keyOf run.first := hkey run rfl
    rw [List.flatMap_cons, KeyRun.rows, List.cons_append]
    by_cases hmem : builder.keyOf run.first ∈ key :: closed
    · simp only [continueGroup_of_mem hne hmem, buildAll, if_pos hmem, bind_assoc, pure_bind]
      rfl
    · rw [continueGroup_of_notMem hne hmem]
      simp only [continueGroup_rest huniform.1, ih huniform.2 hapart.2 hapart.1, buildAll,
        if_neg hmem, build, KeyRun.rows, List.foldlM_cons, bind_assoc, pure_bind]

theorem consecutiveGroupsM_of_maximalRuns {rows : List ρ} {runs : List (KeyRun ρ)}
    (h : MaximalRuns builder.keyOf rows runs) :
    builder.consecutiveGroupsM rows = builder.buildAll [] runs := by
  obtain ⟨rfl, huniform, hapart⟩ := h
  cases runs with
  | nil => rfl
  | cons run runs =>
    rw [List.forall_mem_cons] at huniform
    rw [List.isChain_cons] at hapart
    rw [List.flatMap_cons, KeyRun.rows, List.cons_append, consecutiveGroupsM]
    simp only [continueGroup_rest huniform.1, continueGroup_flatMap huniform.2 hapart.2 hapart.1,
      buildAll, if_neg List.not_mem_nil, build, KeyRun.rows, List.foldlM_cons, bind_assoc]

/-- Runs with keys of their own are all built. -/
theorem buildAll_of_nodup {closed : List κ} {runs : List (KeyRun ρ)}
    (hnodup : (runs.map (builder.keyOf ·.first)).Nodup)
    (hclosed : ∀ run ∈ runs, builder.keyOf run.first ∉ closed) :
    builder.buildAll closed runs = .ok <$> runs.mapM builder.build := by
  induction runs generalizing closed with
  | nil => simp [buildAll]
  | cons run runs ih =>
    rw [List.map_cons, List.nodup_cons] at hnodup
    rw [List.forall_mem_cons] at hclosed
    rw [buildAll, if_neg hclosed.1, ih hnodup.2 (forall_key_notMem_cons hnodup.1 hclosed.2),
      List.mapM_cons]
    simp only [map_eq_pure_bind, bind_assoc, pure_bind]
    rfl

/-- The first run whose key is not its own ends the building. -/
theorem buildAll_of_reopened {closed : List κ} {before after : List (KeyRun ρ)} {run : KeyRun ρ}
    (hnodup : (before.map (builder.keyOf ·.first)).Nodup)
    (hclosed : ∀ earlier ∈ before, builder.keyOf earlier.first ∉ closed)
    (hmem : builder.keyOf run.first ∈ before.map (builder.keyOf ·.first) ∨
      builder.keyOf run.first ∈ closed) :
    builder.buildAll closed (before ++ run :: after) =
      before.mapM builder.build >>= fun _ => builder.start run.first >>= fun _ =>
        pure (.error ⟨builder.keyOf run.first⟩) := by
  induction before generalizing closed with
  | nil =>
    have hkey : builder.keyOf run.first ∈ closed := by simpa using hmem
    rw [List.nil_append, buildAll, if_pos hkey, List.mapM_nil, pure_bind]
  | cons earlier before ih =>
    rw [List.map_cons, List.nodup_cons] at hnodup
    rw [List.forall_mem_cons] at hclosed
    have hkey : builder.keyOf run.first ∈ before.map (builder.keyOf ·.first) ∨
        builder.keyOf run.first ∈ builder.keyOf earlier.first :: closed := by
      rw [List.map_cons, List.mem_cons] at hmem
      rw [List.mem_cons]
      tauto
    rw [List.cons_append, buildAll, if_neg hclosed.1,
      ih hnodup.2 (forall_key_notMem_cons hnodup.1 hclosed.2) hkey, List.mapM_cons]
    simp only [bind_assoc, pure_bind]
    rfl

variable {rows : List ρ}

lemma consecutiveGroupsM_of_nodup {runs : List (KeyRun ρ)} (h : MaximalRuns builder.keyOf rows runs)
    (hnodup : (runs.map (builder.keyOf ·.first)).Nodup) :
    builder.consecutiveGroupsM rows = .ok <$> runs.mapM builder.build := by
  rw [consecutiveGroupsM_of_maximalRuns h, buildAll_of_nodup hnodup fun _ _ => List.not_mem_nil]

lemma consecutiveGroupsM_of_reopened {before after : List (KeyRun ρ)} {run : KeyRun ρ}
    (h : MaximalRuns builder.keyOf rows (before ++ run :: after))
    (hnodup : (before.map (builder.keyOf ·.first)).Nodup)
    (hmem : builder.keyOf run.first ∈ before.map (builder.keyOf ·.first)) :
    builder.consecutiveGroupsM rows =
      before.mapM builder.build >>= fun _ => builder.start run.first >>= fun _ =>
        pure (.error ⟨builder.keyOf run.first⟩) := by
  rw [consecutiveGroupsM_of_maximalRuns h,
    buildAll_of_reopened hnodup (fun _ _ => List.not_mem_nil) (.inl hmem)]

end Build

/-- Grouping cuts the rows into maximal runs, and there is one way to do so. If every run has a key
of its own, all groups are built, one after the other. Otherwise the groups before the first run
whose key had one already are built, that run is started, and its key is reported. -/
theorem groups_of_maximalRuns {m : Type → Type} [Monad m] [LawfulMonad m] {ρ κ γ : Type}
    [DecidableEq κ] [Text.Literal κ] (builder : GroupBuilder m ρ κ γ) (rows : List ρ) :
    ∃ runs, (∀ other, MaximalRuns builder.keyOf rows other ↔ other = runs) ∧
      ((runs.map (builder.keyOf ·.first)).Nodup →
        (·.mapError Reopened.fault) <$> builder.consecutiveGroupsM rows =
          .ok <$> runs.mapM builder.build) ∧
      (¬ (runs.map (builder.keyOf ·.first)).Nodup →
        ∃ before run after, runs = before ++ run :: after ∧
          (before.map (builder.keyOf ·.first)).Nodup ∧
          builder.keyOf run.first ∈ before.map (builder.keyOf ·.first) ∧
          (·.mapError Reopened.fault) <$> builder.consecutiveGroupsM rows =
            before.mapM builder.build >>= fun _ => builder.start run.first >>= fun _ =>
              pure (.error (.of (.invalidCatalogOrder
                (Text.literal (builder.keyOf run.first)))))) := by
  have hruns := maximalRuns_iff.mpr (Eq.refl (keyRuns builder.keyOf rows))
  refine ⟨keyRuns builder.keyOf rows, fun _ => maximalRuns_iff, ?_, ?_⟩
  · intro hnodup
    rw [consecutiveGroupsM_of_maximalRuns hruns,
      buildAll_of_nodup hnodup fun _ _ => List.not_mem_nil]
    simp [Except.mapError]
  · intro hrepeated
    obtain ⟨before, run, after, hsplit, hnodup, hmem⟩ := exists_reopened hrepeated
    refine ⟨before, run, after, hsplit, hnodup, hmem, ?_⟩
    rw [consecutiveGroupsM_of_maximalRuns hruns, hsplit,
      buildAll_of_reopened hnodup (fun _ _ => List.not_mem_nil) (.inl hmem)]
    simp [Except.mapError, Reopened.fault]

/-- Index rows of a table in which one index comes up twice. -/
def addressIndexRows : List IndexRow := [
  ⟨"by_zip", "zip", false, false⟩, ⟨"by_zip", "street", false, false⟩,
  ⟨"address_pkey", "id", true, true⟩, ⟨"by_zip", "city", false, false⟩]

theorem groups_of_maximalRuns_address :
    (∃ runs,
      (∀ other, MaximalRuns IndexRow.index (addressIndexRows.take 3) other ↔ other = runs) ∧
      (runs.map (·.first.index)).Nodup ∧
      indexesOf "shop" "address" (addressIndexRows.take 3) = .ok [
        ⟨"shop", "address", "by_zip", .nonUnique, ["zip", "street"]⟩,
        ⟨"shop", "address", "address_pkey", .primaryKey, ["id"]⟩]) ∧
    ∃ runs, (∀ other, MaximalRuns IndexRow.index addressIndexRows other ↔ other = runs) ∧
      ¬ (runs.map (·.first.index)).Nodup ∧
      ∃ before run after, runs = before ++ run :: after ∧
        (before.map (·.first.index)).Nodup ∧ run.first.index ∈ before.map (·.first.index) ∧
        indexesOf "shop" "address" addressIndexRows =
          .error (.of (.invalidCatalogOrder (Text.literal run.first.index))) := by
  constructor
  · obtain ⟨runs, hruns, hbuilt, -⟩ :=
      groups_of_maximalRuns (IndexRow.builder "shop" "address") (addressIndexRows.take 3)
    have hfound := (hruns _).mp (maximalRuns_iff.mpr rfl)
    subst hfound
    exact ⟨_, hruns, by decide, (hbuilt (by decide)).trans rfl⟩
  · obtain ⟨runs, hruns, -, hrepeated⟩ :=
      groups_of_maximalRuns (IndexRow.builder "shop" "address") addressIndexRows
    have hkeys : ¬ (runs.map (·.first.index)).Nodup := by
      rw [← (hruns _).mp (maximalRuns_iff.mpr rfl)]
      decide
    exact ⟨runs, hruns, hkeys, hrepeated hkeys⟩

variable {ρ κ γ : Type}

/-- The group of a run: started by its first row, and then every row is added. -/
def groupOf (builder : GroupBuilder Id ρ κ γ) (run : KeyRun ρ) : γ :=
  run.rows.foldl (fun group row => (builder.append group row).run) (builder.start run.first).run

lemma run_mapM_build (builder : GroupBuilder Id ρ κ γ) (runs : List (KeyRun ρ)) :
    (runs.mapM builder.build).run = runs.map builder.groupOf := by
  rw [List.idRun_mapM]
  apply List.map_congr_left
  intro run _
  rw [build, Id.run_bind, List.idRun_foldlM, groupOf]

end GroupBuilder

theorem consecutiveGroups_eq_ok_iff {ρ κ γ : Type} [DecidableEq κ]
    {builder : GroupBuilder Id ρ κ γ} {rows : List ρ} {groups : List γ} :
    consecutiveGroups builder rows = .ok groups ↔
      (runKeys builder.keyOf rows).Nodup ∧
        groups = (keyRuns builder.keyOf rows).map builder.groupOf := by
  have hruns := maximalRuns_iff.mpr (Eq.refl (keyRuns builder.keyOf rows))
  rw [consecutiveGroups]
  by_cases hnodup : (runKeys builder.keyOf rows).Nodup
  · rw [GroupBuilder.consecutiveGroupsM_of_nodup hruns hnodup, Id.run_map,
      GroupBuilder.run_mapM_build]
    simp [hnodup, eq_comm]
  · obtain ⟨before, run, after, hsplit, hbefore, hmem⟩ := exists_reopened hnodup
    rw [hsplit] at hruns
    rw [GroupBuilder.consecutiveGroupsM_of_reopened hruns hbefore hmem]
    simp [hnodup]

end RelProto
