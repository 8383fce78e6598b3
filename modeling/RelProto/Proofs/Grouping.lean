import Mathlib.Data.List.Chain
import Mathlib.Data.List.Destutter
import Mathlib.Data.List.Nodup
import RelProto.Grouping

/-! Runs of rows with one key: a stream of rows is cut wherever the key changes. -/
namespace RelProto

/-- Consecutive rows, at least one. -/
structure KeyRun (ρ : Type) where
  first : ρ
  rest : List ρ
  deriving DecidableEq

def KeyRun.rows {ρ : Type} (run : KeyRun ρ) : List ρ := run.first :: run.rest

section Runs

variable {ρ κ : Type} [DecidableEq κ] (keyOf : ρ → κ)

/-- Puts a row in front of the runs; it joins the first one if that has its key. -/
def joinRuns (row : ρ) : List (KeyRun ρ) → List (KeyRun ρ)
  | [] => [⟨row, []⟩]
  | run :: runs =>
    if keyOf row = keyOf run.first then ⟨row, run.rows⟩ :: runs else ⟨row, []⟩ :: run :: runs

/-- The maximal runs of rows with one key. -/
def keyRuns (rows : List ρ) : List (KeyRun ρ) := rows.foldr (joinRuns keyOf) []

/-- The keys of the runs. -/
def runKeys (rows : List ρ) : List κ := (keyRuns keyOf rows).map (keyOf ·.first)

variable {keyOf}

lemma flatMap_joinRuns (row : ρ) (runs : List (KeyRun ρ)) :
    (joinRuns keyOf row runs).flatMap KeyRun.rows = row :: runs.flatMap KeyRun.rows := by
  cases runs with
  | nil => rfl
  | cons run runs =>
    by_cases h : keyOf row = keyOf run.first
    · simp [joinRuns, h, KeyRun.rows]
    · simp [joinRuns, h, KeyRun.rows]

variable (keyOf) in
/-- The runs hold all rows in their order. -/
@[simp] theorem flatMap_keyRuns (rows : List ρ) :
    (keyRuns keyOf rows).flatMap KeyRun.rows = rows := by
  induction rows with
  | nil => rfl
  | cons row rows ih =>
    rw [keyRuns, List.foldr_cons, flatMap_joinRuns]
    exact congrArg (row :: ·) ih

/-- All rows of the run have the key of its first one. -/
def KeyRun.Uniform (keyOf : ρ → κ) (run : KeyRun ρ) : Prop :=
  ∀ row ∈ run.rows, keyOf row = keyOf run.first

omit [DecidableEq κ] in
lemma uniform_singleton (row : ρ) : KeyRun.Uniform keyOf ⟨row, []⟩ := by
  intro other hother
  rw [List.mem_singleton.mp hother]

lemma uniform_of_mem_joinRuns {row : ρ} {runs : List (KeyRun ρ)}
    (h : ∀ run ∈ runs, run.Uniform keyOf) :
    ∀ run ∈ joinRuns keyOf row runs, run.Uniform keyOf := by
  cases runs with
  | nil => simpa [joinRuns] using uniform_singleton row
  | cons first runs =>
    rw [List.forall_mem_cons] at h
    by_cases hkey : keyOf row = keyOf first.first
    · rw [joinRuns, if_pos hkey, List.forall_mem_cons]
      refine ⟨?_, h.2⟩
      intro other hother
      rcases List.mem_cons.mp hother with rfl | hother
      · rfl
      · exact (h.1 other hother).trans hkey.symm
    · rw [joinRuns, if_neg hkey, List.forall_mem_cons, List.forall_mem_cons]
      exact ⟨uniform_singleton row, h⟩

variable (keyOf) in
theorem uniform_of_mem_keyRuns (rows : List ρ) :
    ∀ run ∈ keyRuns keyOf rows, run.Uniform keyOf := by
  induction rows with
  | nil => simp [keyRuns]
  | cons row rows ih => exact uniform_of_mem_joinRuns ih

/-- A run that is open goes on with rows of its key. -/
lemma foldr_joinRuns (run : KeyRun ρ) (h : run.Uniform keyOf) (runs : List (KeyRun ρ))
    (hne : ∀ next ∈ runs.head?, keyOf next.first ≠ keyOf run.first) :
    run.rows.foldr (joinRuns keyOf) runs = run :: runs := by
  obtain ⟨first, rest⟩ := run
  induction rest generalizing first with
  | nil =>
    cases runs with
    | nil => rfl
    | cons next runs =>
      have hnext := hne next rfl
      simp [KeyRun.rows, joinRuns, Ne.symm hnext]
  | cons row rest ih =>
    have hrow : keyOf row = keyOf first := h row (by simp [KeyRun.rows])
    have htail : KeyRun.Uniform keyOf ⟨row, rest⟩ := by
      intro other hother
      exact (h other (List.mem_cons_of_mem first hother)).trans hrow.symm
    have hrest := ih row htail (by simpa only [hrow] using hne)
    simp only [KeyRun.rows, List.foldr_cons] at hrest ⊢
    rw [hrest, joinRuns, if_pos hrow.symm]
    rfl

lemma keyRuns_rows {run : KeyRun ρ} (h : run.Uniform keyOf) : keyRuns keyOf run.rows = [run] :=
  foldr_joinRuns run h [] (by simp)

variable (keyOf) in
lemma exists_keyRuns_cons (row : ρ) (rows : List ρ) :
    ∃ rest runs, keyRuns keyOf (row :: rows) = ⟨row, rest⟩ :: runs := by
  rw [keyRuns, List.foldr_cons]
  cases rows.foldr (joinRuns keyOf) [] with
  | nil => exact ⟨[], [], rfl⟩
  | cons run runs =>
    by_cases h : keyOf row = keyOf run.first
    · exact ⟨run.rows, runs, by simp [joinRuns, h]⟩
    · exact ⟨[], run :: runs, by simp [joinRuns, h]⟩

/-- A row with another key ends the run. -/
lemma keyRuns_rows_append {run : KeyRun ρ} (h : run.Uniform keyOf) {row : ρ}
    (hne : keyOf row ≠ keyOf run.first) (rows : List ρ) :
    keyRuns keyOf (run.rows ++ row :: rows) = run :: keyRuns keyOf (row :: rows) := by
  rw [keyRuns, List.foldr_append]
  apply foldr_joinRuns run h
  obtain ⟨rest, runs, hruns⟩ := exists_keyRuns_cons keyOf row rows
  intro next hnext
  rw [← keyRuns, hruns] at hnext
  cases hnext
  exact hne

lemma runKeys_cons_cons (row next : ρ) (rows : List ρ) :
    runKeys keyOf (row :: next :: rows) =
      if keyOf row = keyOf next then runKeys keyOf (next :: rows)
      else keyOf row :: runKeys keyOf (next :: rows) := by
  obtain ⟨rest, runs, hruns⟩ := exists_keyRuns_cons keyOf next rows
  have hcons : keyRuns keyOf (row :: next :: rows) =
      joinRuns keyOf row (keyRuns keyOf (next :: rows)) := rfl
  rw [runKeys, runKeys, hcons, hruns, joinRuns]
  by_cases hkey : keyOf row = keyOf next
  · rw [if_pos hkey, if_pos hkey, List.map_cons, List.map_cons, hkey]
  · rw [if_neg hkey, if_neg hkey, List.map_cons]

variable (keyOf) in
/-- Only the keys of the rows decide on the keys of the runs. -/
theorem runKeys_eq_destutter (rows : List ρ) :
    runKeys keyOf rows = (rows.map keyOf).destutter (· ≠ ·) := by
  induction rows with
  | nil => rfl
  | cons row rows ih =>
    cases rows with
    | nil => rfl
    | cons next rows =>
      rw [runKeys_cons_cons, ih]
      simp only [List.map_cons, List.destutter_cons', List.destutter'_cons]
      by_cases hkey : keyOf row = keyOf next
      · rw [if_pos hkey, if_neg (not_not.mpr hkey), hkey]
      · rw [if_neg hkey, if_pos hkey]

/-- The runs are cut wherever the key changes, and nowhere else. -/
structure MaximalRuns (keyOf : ρ → κ) (rows : List ρ) (runs : List (KeyRun ρ)) : Prop where
  joined : runs.flatMap KeyRun.rows = rows
  uniform : ∀ run ∈ runs, run.Uniform keyOf
  apart : runs.IsChain fun run next => keyOf run.first ≠ keyOf next.first

lemma isChain_joinRuns {row : ρ} {runs : List (KeyRun ρ)}
    (h : runs.IsChain fun run next => keyOf run.first ≠ keyOf next.first) :
    (joinRuns keyOf row runs).IsChain fun run next => keyOf run.first ≠ keyOf next.first := by
  cases runs with
  | nil => exact .singleton _
  | cons run runs =>
    by_cases hkey : keyOf row = keyOf run.first
    · rw [joinRuns, if_pos hkey]
      rw [List.isChain_cons] at h ⊢
      refine ⟨?_, h.2⟩
      intro next hnext
      rw [hkey]
      exact h.1 next hnext
    · rw [joinRuns, if_neg hkey]
      exact .cons_cons hkey h

lemma isChain_keyRuns (rows : List ρ) :
    (keyRuns keyOf rows).IsChain fun run next => keyOf run.first ≠ keyOf next.first := by
  induction rows with
  | nil => exact .nil
  | cons row rows ih => exact isChain_joinRuns ih

lemma keyRuns_flatMap {runs : List (KeyRun ρ)} (huniform : ∀ run ∈ runs, run.Uniform keyOf)
    (hapart : runs.IsChain fun run next => keyOf run.first ≠ keyOf next.first) :
    keyRuns keyOf (runs.flatMap KeyRun.rows) = runs := by
  induction runs with
  | nil => rfl
  | cons run runs ih =>
    rw [List.forall_mem_cons] at huniform
    rw [List.isChain_cons] at hapart
    have hrest := ih huniform.2 hapart.2
    rw [keyRuns] at hrest
    rw [List.flatMap_cons, keyRuns, List.foldr_append, hrest]
    apply foldr_joinRuns run huniform.1
    intro next hnext
    exact (hapart.1 next hnext).symm

/-- Rows with keys that none of the first ones has make up runs of their own. -/
lemma keyRuns_append {rows more : List ρ}
    (h : ∀ row ∈ rows, ∀ other ∈ more, keyOf row ≠ keyOf other) :
    keyRuns keyOf (rows ++ more) = keyRuns keyOf rows ++ keyRuns keyOf more := by
  have hfirst : ∀ rows, ∀ run ∈ keyRuns keyOf rows, run.first ∈ rows := by
    intro rows run hrun
    rw [← flatMap_keyRuns keyOf rows]
    exact List.mem_flatMap.mpr ⟨run, hrun, List.mem_cons_self⟩
  have hjoined : (keyRuns keyOf rows ++ keyRuns keyOf more).flatMap KeyRun.rows = rows ++ more := by
    rw [List.flatMap_append, flatMap_keyRuns, flatMap_keyRuns]
  rw [← hjoined]
  apply keyRuns_flatMap
  · exact List.forall_mem_append.mpr
      ⟨uniform_of_mem_keyRuns keyOf rows, uniform_of_mem_keyRuns keyOf more⟩
  · refine List.isChain_append.mpr ⟨isChain_keyRuns rows, isChain_keyRuns more, ?_⟩
    intro run hrun next hnext
    exact h _ (hfirst rows run (List.mem_of_mem_getLast? hrun)) _
      (hfirst more next (List.mem_of_mem_head? hnext))

/-- A stream has one division into maximal runs. -/
theorem maximalRuns_iff {rows : List ρ} {runs : List (KeyRun ρ)} :
    MaximalRuns keyOf rows runs ↔ runs = keyRuns keyOf rows := by
  constructor
  · rintro ⟨rfl, huniform, hapart⟩
    exact (keyRuns_flatMap huniform hapart).symm
  · rintro rfl
    exact ⟨flatMap_keyRuns keyOf rows, uniform_of_mem_keyRuns keyOf rows, isChain_keyRuns rows⟩

lemma mem_runKeys {rows : List ρ} {key : κ} : key ∈ runKeys keyOf rows ↔ key ∈ rows.map keyOf := by
  simp only [runKeys, List.mem_map]
  constructor
  · rintro ⟨run, hrun, rfl⟩
    refine ⟨run.first, ?_, rfl⟩
    rw [← flatMap_keyRuns keyOf rows]
    exact List.mem_flatMap.mpr ⟨run, hrun, List.mem_cons_self⟩
  · rintro ⟨row, hrow, rfl⟩
    rw [← flatMap_keyRuns keyOf rows] at hrow
    obtain ⟨run, hrun, hmem⟩ := List.mem_flatMap.mp hrow
    exact ⟨run, hrun, (uniform_of_mem_keyRuns keyOf rows run hrun row hmem).symm⟩

lemma filter_flatMap_rows_of_notMem {runs : List (KeyRun ρ)}
    (h : ∀ run ∈ runs, run.Uniform keyOf) {key : κ} (hkey : key ∉ runs.map (keyOf ·.first)) :
    (runs.flatMap KeyRun.rows).filter (fun row => keyOf row = key) = [] := by
  apply List.filter_eq_nil_iff.mpr
  intro row hrow hsame
  obtain ⟨run, hrun, hmem⟩ := List.mem_flatMap.mp hrow
  have hfirst := h run hrun row hmem
  refine hkey (List.mem_map.mpr ⟨run, hrun, ?_⟩)
  exact hfirst.symm.trans (by simpa using hsame)

/-- When no key has two runs, a run holds all rows with its key. -/
theorem rows_eq_filter {rows : List ρ} (h : (runKeys keyOf rows).Nodup) {run : KeyRun ρ}
    (hrun : run ∈ keyRuns keyOf rows) :
    run.rows = rows.filter fun row => keyOf row = keyOf run.first := by
  have huniform := uniform_of_mem_keyRuns keyOf rows
  have hrows := flatMap_keyRuns keyOf rows
  obtain ⟨before, after, hsplit⟩ := List.append_of_mem hrun
  rw [runKeys, hsplit, List.map_append, List.map_cons, List.nodup_middle, List.nodup_cons,
    List.mem_append, not_or] at h
  rw [hsplit] at huniform hrows
  obtain ⟨hbefore, hmiddle, hafter⟩ := List.forall_mem_append.mp huniform |>.imp_right
    List.forall_mem_cons.mp
  have hself : run.rows.filter (fun row => keyOf row = keyOf run.first) = run.rows := by
    apply List.filter_eq_self.mpr
    intro row hrow
    simpa using hmiddle row hrow
  conv_rhs => rw [← hrows]
  rw [List.flatMap_append, List.flatMap_cons, List.filter_append, List.filter_append, hself,
    filter_flatMap_rows_of_notMem hbefore h.1.1, filter_flatMap_rows_of_notMem hafter h.1.2]
  simp

/-- Rows with other keys begin another run. -/
lemma runKeys_rows_append {run : KeyRun ρ} (h : run.Uniform keyOf) {rows : List ρ}
    (hne : ∀ row ∈ rows, keyOf row ≠ keyOf run.first) :
    runKeys keyOf (run.rows ++ rows) = keyOf run.first :: runKeys keyOf rows := by
  cases rows with
  | nil =>
    rw [List.append_nil, runKeys, keyRuns_rows h]
    rfl
  | cons row rows =>
    rw [runKeys, keyRuns_rows_append h (hne row List.mem_cons_self)]
    rfl

omit [DecidableEq κ] in
/-- What is kept of a run is one run, or nothing. -/
lemma filter_rows_eq_nil_or {run : KeyRun ρ} (h : run.Uniform keyOf) (keep : ρ → Bool) :
    run.rows.filter keep = [] ∨ ∃ kept : KeyRun ρ, run.rows.filter keep = kept.rows ∧
      kept.Uniform keyOf ∧ keyOf kept.first = keyOf run.first := by
  cases hkept : run.rows.filter keep with
  | nil => exact .inl rfl
  | cons row more =>
    have hsame : ∀ other ∈ row :: more, keyOf other = keyOf run.first := by
      intro other hother
      exact h other (List.mem_of_mem_filter (hkept ▸ hother))
    have hfirst := hsame row List.mem_cons_self
    refine .inr ⟨⟨row, more⟩, rfl, ?_, hfirst⟩
    intro other hother
    exact (hsame other hother).trans hfirst.symm

lemma runKeys_filter_flatMap (keep : ρ → Bool) {runs : List (KeyRun ρ)}
    (h : ∀ run ∈ runs, run.Uniform keyOf) (hnodup : (runs.map (keyOf ·.first)).Nodup) :
    runKeys keyOf ((runs.flatMap KeyRun.rows).filter keep) =
      (runs.map (keyOf ·.first)).filter fun key =>
        key ∈ ((runs.flatMap KeyRun.rows).filter keep).map keyOf := by
  induction runs with
  | nil => rfl
  | cons run runs ih =>
    rw [List.forall_mem_cons] at h
    rw [List.map_cons, List.nodup_cons] at hnodup
    have hrest := ih h.2 hnodup.2
    have hne : ∀ row ∈ (runs.flatMap KeyRun.rows).filter keep, keyOf row ≠ keyOf run.first := by
      intro row hrow hsame
      have hnone := filter_flatMap_rows_of_notMem h.2 hnodup.1
      rw [List.filter_eq_nil_iff] at hnone
      exact hnone row (List.mem_of_mem_filter hrow) (by simpa using hsame)
    rw [List.flatMap_cons, List.filter_append, List.map_cons, List.map_append]
    obtain hnil | ⟨kept, hkept, huniform, hfirst⟩ := filter_rows_eq_nil_or h.1 keep
    · have hgone : keyOf run.first ∉ ((runs.flatMap KeyRun.rows).filter keep).map keyOf := by
        rw [List.mem_map]
        rintro ⟨row, hrow, hsame⟩
        exact hne row hrow hsame
      rw [hnil, List.map_nil, List.nil_append, List.nil_append, hrest,
        List.filter_cons_of_neg (by simpa only [decide_eq_true_iff] using hgone)]
    · have hstays : keyOf run.first ∈ kept.rows.map keyOf := by
        rw [← hfirst]
        exact List.mem_map_of_mem List.mem_cons_self
      rw [← hfirst] at hne
      rw [hkept, runKeys_rows_append huniform hne, hfirst, hrest,
        List.filter_cons_of_pos (by simp [hstays])]
      congr 1
      apply List.filter_congr
      intro key hkey
      -- The kept rows of this run have another key, so they do not decide.
      have hother : key ∉ kept.rows.map keyOf := by
        rw [List.mem_map]
        rintro ⟨row, hrow, rfl⟩
        exact hnodup.1 (hfirst ▸ huniform row hrow ▸ hkey)
      rw [decide_eq_decide, List.mem_append, or_iff_right hother]

/-- When no key has two runs, rows may be dropped: the keys that still have rows keep their order. -/
theorem runKeys_filter {rows : List ρ} (h : (runKeys keyOf rows).Nodup) (keep : ρ → Bool) :
    runKeys keyOf (rows.filter keep) =
      (runKeys keyOf rows).filter fun key => key ∈ (rows.filter keep).map keyOf := by
  have hfilter := runKeys_filter_flatMap keep (uniform_of_mem_keyRuns keyOf rows) h
  rwa [flatMap_keyRuns] at hfilter

lemma map_first_sublist_flatMap (runs : List (KeyRun ρ)) :
    (runs.map KeyRun.first).Sublist (runs.flatMap KeyRun.rows) := by
  induction runs with
  | nil => exact .slnil
  | cons run runs ih => exact .cons_cons run.first (ih.trans (List.sublist_append_right _ _))

/-- In rows that are sorted by their keys no key has two runs. -/
theorem nodup_runKeys_of_pairwise_le {α : Type} [PartialOrder α] {rank : κ → α}
    (hrank : Function.Injective rank) {rows : List ρ}
    (h : rows.Pairwise fun row next => rank (keyOf row) ≤ rank (keyOf next)) :
    (runKeys keyOf rows).Nodup := by
  have hfirsts : ((keyRuns keyOf rows).map KeyRun.first).Sublist rows := by
    conv_rhs => rw [← flatMap_keyRuns keyOf rows]
    exact map_first_sublist_flatMap _
  have hle : (keyRuns keyOf rows).IsChain fun run next =>
      rank (keyOf run.first) ≤ rank (keyOf next.first) :=
    (List.pairwise_map.mp (h.sublist hfirsts)).isChain
  have hne : (keyRuns keyOf rows).IsChain fun run next => keyOf run.first ≠ keyOf next.first :=
    isChain_keyRuns rows
  have hlt : ((runKeys keyOf rows).map rank).IsChain (· < ·) := by
    rw [runKeys, List.isChain_map, List.isChain_map]
    rw [List.isChain_iff_getElem] at hle hne ⊢
    intro i hi
    exact (hle i hi).lt_of_ne (hrank.ne (hne i hi))
  exact List.Nodup.of_map rank ((List.isChain_iff_pairwise.mp hlt).imp fun h => h.ne)

end Runs

end RelProto
