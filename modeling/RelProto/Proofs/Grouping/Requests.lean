import RelProto.Proofs.Grouping.Building

/-! What a builder is asked to do while rows are grouped: to start a group with the first row of a
run and to add the rows of the run to it, run after run. A stream that is refused ends with one more
request, to start a group. What the builder does besides has no influence on the requests. -/
namespace RelProto

namespace GroupEvent

variable {ρ : Type}

def isStart {κ : Type} : GroupEvent ρ κ → Bool
  | .start _ => true
  | .append _ _ => false

/-- How many groups were started. -/
def started (events : List (GroupEvent ρ Nat)) : Nat := events.countP isStart

/-- The requests for a run whose group has the number. -/
def requestsOf (number : Nat) (run : KeyRun ρ) : List (GroupEvent ρ Nat) :=
  .start run.first :: run.rows.map (.append number)

/-- The requests for the runs in their order, whose groups are numbered from `first` on. -/
def requestsFrom (first : Nat) (runs : List (KeyRun ρ)) : List (GroupEvent ρ Nat) :=
  (runs.zipIdx first).flatMap fun (run, number) => requestsOf number run

/-- With `earlier` groups started before, rows are only added to the group started last. -/
def InTurn (earlier : Nat) (events : List (GroupEvent ρ Nat)) : Prop :=
  ∀ before number row after, events = before ++ .append number row :: after →
    number + 1 = earlier + started before

section Requests

variable {first earlier : Nat} {events more : List (GroupEvent ρ Nat)}

@[simp] lemma started_nil : started ([] : List (GroupEvent ρ Nat)) = 0 := rfl

@[simp] lemma started_append (events more : List (GroupEvent ρ Nat)) :
    started (events ++ more) = started events + started more :=
  List.countP_append

lemma started_map_append (number : Nat) (rows : List ρ) :
    started (rows.map (.append number)) = 0 := by
  rw [started, List.countP_eq_zero]
  simp [isStart]

@[simp] lemma started_requestsOf (number : Nat) (run : KeyRun ρ) :
    started (requestsOf number run) = 1 := by
  have hstart : started [GroupEvent.start (κ := Nat) run.first] = 1 := rfl
  rw [requestsOf, ← List.singleton_append, started_append, hstart, started_map_append]

lemma requestsFrom_cons (first : Nat) (run : KeyRun ρ) (runs : List (KeyRun ρ)) :
    requestsFrom first (run :: runs) = requestsOf first run ++ requestsFrom (first + 1) runs := by
  rw [requestsFrom, List.zipIdx_cons, List.flatMap_cons, requestsFrom]

lemma inTurn_singleton_start (earlier : Nat) (row : ρ) : InTurn earlier [.start row] := by
  intro before number added after h
  rw [List.singleton_eq_append_iff] at h
  simp at h

lemma inTurn_map_append (number : Nat) (rows : List ρ) :
    InTurn (number + 1) (rows.map (.append number)) := by
  intro before number' row after h
  obtain ⟨rows', more, -, rfl, hrest⟩ := List.map_eq_append_iff.mp h
  obtain ⟨row', more', -, hrow, -⟩ := List.map_eq_cons_iff.mp hrest
  cases hrow
  rw [started_map_append]

lemma InTurn.append (h : InTurn earlier events) (hmore : InTurn (earlier + started events) more) :
    InTurn earlier (events ++ more) := by
  intro before number row after hsplit
  rcases List.append_eq_append_iff.mp hsplit with ⟨rest, rfl, hrest⟩ | ⟨rest, rfl, hrest⟩
  · rw [started_append, ← Nat.add_assoc]
    exact hmore rest number row after hrest
  · -- Without a rest the addition is the first of the later requests.
    cases rest with
    | nil => simpa using hmore [] number row after hrest.symm
    | cons event rest =>
      obtain ⟨rfl, -⟩ := List.cons.inj hrest
      exact h before number row rest rfl

/-- Rows are only added to groups that were started. -/
lemma InTurn.lt_started (h : InTurn 0 events) {number : Nat} {row : ρ}
    (hadded : .append number row ∈ events) : number < started events := by
  obtain ⟨before, after, rfl⟩ := List.append_of_mem hadded
  have hlast := h before number row after rfl
  rw [started_append]
  omega

lemma inTurn_requestsOf (number : Nat) (run : KeyRun ρ) : InTurn number (requestsOf number run) :=
  (inTurn_singleton_start number run.first).append (inTurn_map_append number run.rows)

theorem inTurn_requestsFrom (first : Nat) (runs : List (KeyRun ρ)) :
    InTurn first (requestsFrom first runs) := by
  induction runs generalizing first with
  | nil =>
    intro before number row after h
    simp [requestsFrom] at h
  | cons run runs ih =>
    rw [requestsFrom_cons]
    apply (inTurn_requestsOf first run).append
    rw [started_requestsOf]
    exact ih (first + 1)

end Requests

end GroupEvent

/-- The runs before the row have keys of their own, and the row begins another one for one of these
keys. -/
structure RefusedAt {ρ κ : Type} (keyOf : ρ → κ) (earlier : List (KeyRun ρ)) (row : ρ) : Prop where
  distinct : (earlier.map (keyOf ·.first)).Nodup
  begins : ∀ last ∈ earlier.getLast?, keyOf last.first ≠ keyOf row
  reopened : keyOf row ∈ earlier.map (keyOf ·.first)

namespace MaximalRuns

variable {ρ κ : Type} {keyOf : ρ → κ} {rows : List ρ} {before after : List (KeyRun ρ)}
  {run : KeyRun ρ}

lemma left (h : MaximalRuns keyOf rows (before ++ after)) :
    MaximalRuns keyOf (before.flatMap KeyRun.rows) before where
  joined := rfl
  uniform := (List.forall_mem_append.mp h.uniform).1
  apart := (List.isChain_append.mp h.apart).1

lemma begins (h : MaximalRuns keyOf rows (before ++ run :: after)) :
    ∀ last ∈ before.getLast?, keyOf last.first ≠ keyOf run.first := by
  intro last hlast
  exact (List.isChain_append.mp h.apart).2.2 last hlast run rfl

end MaximalRuns

namespace GroupBuilder

open GroupEvent

section Recording

variable {m : Type → Type} [Monad m] {ρ κ γ : Type}

/-- Notes every request before it is passed on. The groups are numbered in the order in which they
are started. -/
def recording (builder : GroupBuilder m ρ κ γ) :
    GroupBuilder (StateT (List (GroupEvent ρ Nat)) m) ρ κ (γ × Nat) where
  keyOf := builder.keyOf
  start row := do
    let number := started (← get)
    modify (· ++ [.start row])
    return (← builder.start row, number)
  append := fun (group, number) row => do
    modify (· ++ [.append number row])
    return (← builder.append group row, number)

/-- The groups of the rows, with all requests in the order in which they were made. -/
def recordedGroupsM [DecidableEq κ] (builder : GroupBuilder m ρ κ γ) (rows : List ρ) :
    m (Except (Reopened κ) (List γ) × List (GroupEvent ρ Nat)) := do
  let (outcome, events) ← (builder.recording.consecutiveGroupsM rows).run []
  return (outcome.map (·.map Prod.fst), events)

variable [LawfulMonad m] {builder : GroupBuilder m ρ κ γ}

lemma run_start_recording (row : ρ) (events : List (GroupEvent ρ Nat)) :
    (builder.recording.start row).run events =
      (fun group => ((group, started events), events ++ [.start row])) <$> builder.start row := by
  simp [recording]

lemma run_append_recording (group : γ) (number : Nat) (row : ρ) (events : List (GroupEvent ρ Nat)) :
    (builder.recording.append (group, number) row).run events =
      (fun group => ((group, number), events ++ [.append number row])) <$>
        builder.append group row := by
  simp [recording]

lemma run_foldlM_recording (rows : List ρ) (group : γ) (number : Nat)
    (events : List (GroupEvent ρ Nat)) :
    (rows.foldlM builder.recording.append (group, number)).run events =
      (fun group => ((group, number), events ++ rows.map (.append number))) <$>
        rows.foldlM builder.append group := by
  induction rows generalizing group events with
  | nil => simp
  | cons row rows ih => simp [run_append_recording, ih]

lemma run_build_recording (run : KeyRun ρ) (events : List (GroupEvent ρ Nat)) :
    (builder.recording.build run).run events =
      (fun group => ((group, started events), events ++ requestsOf (started events) run)) <$>
        builder.build run := by
  simp [build, run_start_recording, run_foldlM_recording, requestsOf]

lemma run_mapM_build_recording (runs : List (KeyRun ρ)) (events : List (GroupEvent ρ Nat)) :
    (runs.mapM builder.recording.build).run events =
      (fun groups => (groups.zipIdx (started events),
        events ++ requestsFrom (started events) runs)) <$> runs.mapM builder.build := by
  induction runs generalizing events with
  | nil => simp [requestsFrom]
  | cons run runs ih => simp [run_build_recording, ih, requestsFrom_cons]

variable [DecidableEq κ] {rows : List ρ}

lemma recordedGroupsM_of_nodup {runs : List (KeyRun ρ)} (h : MaximalRuns builder.keyOf rows runs)
    (hnodup : (runs.map (builder.keyOf ·.first)).Nodup) :
    builder.recordedGroupsM rows =
      (fun groups => (.ok groups, requestsFrom 0 runs)) <$> runs.mapM builder.build := by
  have hgroups : builder.recording.consecutiveGroupsM rows =
      .ok <$> runs.mapM builder.recording.build := consecutiveGroupsM_of_nodup h hnodup
  rw [recordedGroupsM, hgroups]
  simp [run_mapM_build_recording, Except.map]

lemma recordedGroupsM_of_reopened {before after : List (KeyRun ρ)} {run : KeyRun ρ}
    (h : MaximalRuns builder.keyOf rows (before ++ run :: after))
    (hnodup : (before.map (builder.keyOf ·.first)).Nodup)
    (hmem : builder.keyOf run.first ∈ before.map (builder.keyOf ·.first)) :
    builder.recordedGroupsM rows =
      (fun _ => (.error ⟨builder.keyOf run.first⟩, requestsFrom 0 before ++ [.start run.first])) <$>
        (before.mapM builder.build >>= fun _ => builder.start run.first) := by
  have hgroups : builder.recording.consecutiveGroupsM rows =
      before.mapM builder.recording.build >>= fun _ => builder.recording.start run.first >>= fun _ =>
        pure (.error ⟨builder.keyOf run.first⟩) := consecutiveGroupsM_of_reopened h hnodup hmem
  rw [recordedGroupsM, hgroups]
  simp [run_mapM_build_recording, run_start_recording, Except.map]

/-- Noting the requests does not disturb the grouping. -/
theorem map_fst_recordedGroupsM (builder : GroupBuilder m ρ κ γ) (rows : List ρ) :
    Prod.fst <$> builder.recordedGroupsM rows = builder.consecutiveGroupsM rows := by
  have hruns := maximalRuns_iff.mpr (Eq.refl (keyRuns builder.keyOf rows))
  by_cases hnodup : (runKeys builder.keyOf rows).Nodup
  · rw [recordedGroupsM_of_nodup hruns hnodup, consecutiveGroupsM_of_nodup hruns hnodup,
      Functor.map_map]
  · obtain ⟨before, run, after, hsplit, hbefore, hmem⟩ := exists_reopened hnodup
    rw [hsplit] at hruns
    rw [recordedGroupsM_of_reopened hruns hbefore hmem,
      consecutiveGroupsM_of_reopened hruns hbefore hmem]
    simp

end Recording

/-- While rows are grouped, a builder is asked to build the maximal runs, one after the other, and
each row is added to the group that was started last. If a row begins another run for a key, it is
asked for what the rows before that one need, then to start a group with the row, and for nothing
more: no row is added to the group that is refused. -/
theorem requests_of_maximalRuns {m : Type → Type} [Monad m] [LawfulMonad m] {ρ κ γ : Type}
    [DecidableEq κ] (builder : GroupBuilder m ρ κ γ) (rows : List ρ) :
    Prod.fst <$> builder.recordedGroupsM rows = builder.consecutiveGroupsM rows ∧
    ∃ runs, (∀ other, MaximalRuns builder.keyOf rows other ↔ other = runs) ∧
      ((runs.map (builder.keyOf ·.first)).Nodup →
        builder.recordedGroupsM rows =
          (fun groups => (.ok groups, requestsFrom 0 runs)) <$> runs.mapM builder.build ∧
        InTurn 0 (requestsFrom 0 runs)) ∧
      (¬ (runs.map (builder.keyOf ·.first)).Nodup →
        ∃ before row after earlier, rows = before ++ row :: after ∧
          MaximalRuns builder.keyOf before earlier ∧ RefusedAt builder.keyOf earlier row ∧
          builder.recordedGroupsM rows =
            (fun _ => (.error ⟨builder.keyOf row⟩, requestsFrom 0 earlier ++ [.start row])) <$>
              (earlier.mapM builder.build >>= fun _ => builder.start row) ∧
          InTurn 0 (requestsFrom 0 earlier ++ [.start row]) ∧
          ∀ number added, .append number added ∈ requestsFrom 0 earlier ++ [.start row] →
            number < started (requestsFrom 0 earlier)) := by
  have hruns := maximalRuns_iff.mpr (Eq.refl (keyRuns builder.keyOf rows))
  refine ⟨map_fst_recordedGroupsM builder rows, keyRuns builder.keyOf rows,
    fun _ => maximalRuns_iff, ?_, ?_⟩
  · intro hnodup
    exact ⟨recordedGroupsM_of_nodup hruns hnodup, inTurn_requestsFrom 0 _⟩
  · intro hrepeated
    -- The row that is refused is the first of a run; the other rows of that run are not reached.
    obtain ⟨before, run, after, hsplit, hnodup, hmem⟩ := exists_reopened hrepeated
    rw [hsplit] at hruns
    refine ⟨before.flatMap KeyRun.rows, run.first, run.rest ++ after.flatMap KeyRun.rows, before,
      ?_, hruns.left, ⟨hnodup, hruns.begins, hmem⟩,
      recordedGroupsM_of_reopened hruns hnodup hmem,
      (inTurn_requestsFrom 0 before).append (inTurn_singleton_start _ run.first), ?_⟩
    · rw [← hruns.joined]
      simp [KeyRun.rows]
    · intro number added hadded
      have hearlier : .append number added ∈ requestsFrom 0 before := by simpa using hadded
      exact (inTurn_requestsFrom 0 before).lt_started hearlier

/-- Counts the requests, and keeps their numbers for each index. -/
def ticketBuilder : GroupBuilder (StateM Nat) IndexRow String (List Nat) where
  keyOf := IndexRow.index
  start _ := do
    let ticket ← getModify (· + 1)
    return [ticket]
  append tickets _ := do
    let ticket ← getModify (· + 1)
    return tickets ++ [ticket]

theorem requests_of_maximalRuns_address :
    (∃ runs,
      (∀ other, MaximalRuns IndexRow.index (addressIndexRows.take 3) other ↔ other = runs) ∧
      (runs.map (·.first.index)).Nodup ∧ InTurn 0 (requestsFrom 0 runs) ∧
      (ticketBuilder.recordedGroupsM (addressIndexRows.take 3)).run 0 =
        ((.ok [[0, 1, 2], [3, 4]], requestsFrom 0 runs), 5)) ∧
    ∃ runs, (∀ other, MaximalRuns IndexRow.index addressIndexRows other ↔ other = runs) ∧
      ¬ (runs.map (·.first.index)).Nodup ∧
      ∃ before row after earlier, addressIndexRows = before ++ row :: after ∧
        MaximalRuns IndexRow.index before earlier ∧ RefusedAt IndexRow.index earlier row ∧
        ticketBuilder.recordedGroupsM addressIndexRows =
          (fun _ => (.error ⟨row.index⟩, requestsFrom 0 earlier ++ [.start row])) <$>
            (earlier.mapM ticketBuilder.build >>= fun _ => ticketBuilder.start row) ∧
        InTurn 0 (requestsFrom 0 earlier ++ [.start row]) := by
  constructor
  · obtain ⟨-, runs, hruns, hbuilt, -⟩ :=
      requests_of_maximalRuns ticketBuilder (addressIndexRows.take 3)
    have hfound := (hruns _).mp (maximalRuns_iff.mpr rfl)
    subst hfound
    obtain ⟨hrecorded, hturn⟩ := hbuilt (by decide)
    exact ⟨_, hruns, by decide, hturn, congrArg (StateT.run · 0) hrecorded⟩
  · obtain ⟨-, runs, hruns, -, hrepeated⟩ := requests_of_maximalRuns ticketBuilder addressIndexRows
    have hkeys : ¬ (runs.map (·.first.index)).Nodup := by
      rw [← (hruns _).mp (maximalRuns_iff.mpr rfl)]
      decide
    obtain ⟨before, row, after, earlier, hsplit, hearlier, hrefused, hrecorded, hturn, -⟩ :=
      hrepeated hkeys
    exact ⟨runs, hruns, hkeys, before, row, after, earlier, hsplit, hearlier, hrefused, hrecorded,
      hturn⟩

/-- The last row is refused after its group was started. -/
example : (ticketBuilder.recordedGroupsM addressIndexRows).run 0 =
    ((.error ⟨"by_zip"⟩, [
      .start ⟨"by_zip", "zip", false, false⟩,
      .append 0 ⟨"by_zip", "zip", false, false⟩, .append 0 ⟨"by_zip", "street", false, false⟩,
      .start ⟨"address_pkey", "id", true, true⟩, .append 1 ⟨"address_pkey", "id", true, true⟩,
      .start ⟨"by_zip", "city", false, false⟩]), 6) := rfl

end GroupBuilder

end RelProto
