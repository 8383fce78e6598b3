import RelProto.Proofs.Field.Refusal

/-! What resolving foreign keys complains about. Each relation that is skipped leaves one warning,
and only a relation without key columns is refused as keyless. -/
namespace RelProto.Table

variable {table : Table} {earlier : List Reference} {relations : List Relation}

def manyToManyWarning (table : Table) (relation : Relation) : LogLine where
  level := .warn
  message := "skipping many-to-many relation " ++ relation.name ++ " on " ++ table.qualifiedName

def excludedKeyWarning (table : Table) (relation : Relation) : LogLine where
  level := .warn
  message := "skipping relation " ++ relation.name ++ " on " ++ table.qualifiedName ++
    ": all key columns are excluded"

/-- The line is the warning that is left when the relation is skipped. -/
def Warns (table : Table) (relation : Relation) (line : LogLine) : Prop :=
  (relation.multiplicity = .manyToMany ∧ line = table.manyToManyWarning relation) ∨
    (relation.multiplicity ≠ .manyToMany ∧ table.presentKeys relation = [] ∧
      line = table.excludedKeyWarning relation)

lemma manyToManyWarning_ne_excludedKeyWarning (first second : Relation) :
    table.manyToManyWarning first ≠ table.excludedKeyWarning second := by
  intro h
  have hmessage := congrArg (fun line => line.message.toList) h
  simp [manyToManyWarning, excludedKeyWarning] at hmessage

/-- The warning for the relation: none if the relation becomes a field. -/
def warning? (table : Table) (relation : Relation) : Option LogLine :=
  if relation.multiplicity = .manyToMany then some (table.manyToManyWarning relation)
  else if table.presentKeys relation = [] then some (table.excludedKeyWarning relation)
  else none

lemma warning?_eq_some_iff {relation : Relation} {line : LogLine} :
    table.warning? relation = some line ↔ table.Warns relation line := by
  rw [warning?, Warns]
  by_cases hmany : relation.multiplicity = .manyToMany
  · simpa [hmany] using eq_comm
  · by_cases hpresent : table.presentKeys relation = []
    · simpa [hmany, hpresent] using eq_comm
    · simp [hmany, hpresent]

lemma warning?_eq_none_iff {relation : Relation} :
    table.warning? relation = none ↔ table.Embeds relation := by
  rw [warning?, Embeds]
  by_cases hmany : relation.multiplicity = .manyToMany
  · simp [hmany]
  · by_cases hpresent : table.presentKeys relation = []
    · simp [hmany, hpresent]
    · simp [hmany, hpresent]

/-- One relation is collected or skipped, with the warning for it, or is refused without any. -/
lemma collectReferences_singleton (table : Table) (earlier : List Reference) (relation : Relation) :
    (∃ kept, table.collectReferences earlier [relation] =
        ⟨.ok kept, (table.warning? relation).toList⟩) ∨
      ∃ cause, table.collectReferences earlier [relation] = ⟨.error cause, []⟩ := by
  rw [collectReferences, warning?]
  by_cases hmany : relation.multiplicity = .manyToMany
  · rw [if_pos hmany, if_pos hmany]
    exact .inl ⟨earlier, rfl⟩
  · rw [if_neg hmany, if_neg hmany]
    by_cases hkeys : relation.keys.isEmpty
    · rw [if_pos hkeys]
      exact .inr ⟨_, rfl⟩
    · rw [if_neg hkeys]
      by_cases hpresent : table.presentKeys relation = []
      · rw [if_pos hpresent]
        simp only [hpresent, List.isEmpty_nil, if_true]
        exact .inl ⟨earlier, rfl⟩
      · rw [if_neg hpresent]
        simp only [List.isEmpty_iff, hpresent, if_false]
        cases firstShared earlier (table.presentKeys relation) with
        | none => exact .inl ⟨_, rfl⟩
        | some shared => exact .inr ⟨_, rfl⟩

/-- Collecting writes the warnings for the relations in their order. When a relation is refused, the
warnings for those before it are all that is written. -/
theorem collectReferences_log (table : Table) (earlier : List Reference)
    (relations : List Relation) :
    (∃ kept, table.collectReferences earlier relations =
        ⟨.ok kept, relations.filterMap table.warning?⟩) ∨
      ∃ before relation after kept cause, relations = before ++ relation :: after ∧
        (table.collectReferences earlier before).result = .ok kept ∧
        (table.collectReferences kept [relation]).result = .error cause ∧
        table.collectReferences earlier relations =
          ⟨.error cause, before.filterMap table.warning?⟩ := by
  induction relations generalizing earlier with
  | nil => exact .inl ⟨earlier, rfl⟩
  | cons relation rest ih =>
    -- The first relation is collected alone, and the rest with what it has left.
    have hsplit : ∀ rest, table.collectReferences earlier (relation :: rest) =
        table.collectReferences earlier [relation] >>= fun kept =>
          table.collectReferences kept rest := collectReferences_append table earlier [relation]
    have hwarnings : ∀ rest : List Relation, (relation :: rest).filterMap table.warning? =
        (table.warning? relation).toList ++ rest.filterMap table.warning? := by
      intro rest
      cases hwarning : table.warning? relation <;> simp [hwarning]
    obtain ⟨kept, hfirst⟩ | ⟨cause, hfirst⟩ := collectReferences_singleton table earlier relation
    · obtain ⟨all, hrest⟩ | ⟨before, refused, after, held, cause, rfl, hheld, hcause, hrest⟩ :=
        ih kept
      · left
        exact ⟨all, by rw [hsplit, hfirst, Logged.ok_bind, hrest, hwarnings]⟩
      · right
        refine ⟨relation :: before, refused, after, held, cause, rfl, ?_, hcause, ?_⟩
        · rw [hsplit, hfirst]
          exact hheld
        · rw [hsplit, hfirst, Logged.ok_bind, hrest, hwarnings]
    · right
      refine ⟨[], relation, rest, earlier, cause, rfl, rfl, ?_, ?_⟩
      · rw [hfirst]
      · rw [hsplit, hfirst]
        rfl

lemma log_resolvedFields (table : Table) :
    table.resolvedFields.log = (table.collectReferences [] table.relations).log := by
  rw [resolvedFields, references]
  rcases table.collectReferences [] table.relations with ⟨_ | references, log⟩
  · rfl
  · exact List.append_nil log

/-- Every line that resolving writes is the warning of a relation that it skips. -/
lemma exists_warns_of_mem_resolvedFields {line : LogLine} (h : line ∈ table.resolvedFields.log) :
    ∃ relation ∈ table.relations, table.Warns relation line := by
  have hwarning : line ∈ table.relations.filterMap table.warning? := by
    rw [log_resolvedFields] at h
    obtain ⟨kept, hcollect⟩ | ⟨before, relation, after, kept, cause, hrelations, -, -, hcollect⟩ :=
      collectReferences_log table [] table.relations
    · rwa [hcollect] at h
    · rw [hcollect] at h
      rw [hrelations, List.filterMap_append]
      exact List.mem_append_left _ h
  obtain ⟨relation, hrelation, hline⟩ := List.mem_filterMap.mp hwarning
  exact ⟨relation, hrelation, warning?_eq_some_iff.mp hline⟩

/-- Resolving that goes through has warned of every relation that it skipped. -/
theorem log_resolvedFields_of_ok {fields : List Field}
    (h : table.resolvedFields.result = .ok fields) :
    table.resolvedFields.log = table.relations.filterMap table.warning? := by
  rw [log_resolvedFields]
  obtain ⟨kept, hcollect⟩ | ⟨before, relation, after, kept, cause, -, -, -, hcollect⟩ :=
    collectReferences_log table [] table.relations
  · rw [hcollect]
  · rw [result_resolvedFields, references, hcollect] at h
    cases h

/-- Resolving that fails has come to the first relation that offends, and has warned of the skipped
ones before it. -/
theorem log_resolvedFields_of_error {cause : RelationFault}
    (h : table.resolvedFields.result = .error cause) :
    ∃ before relation after, table.relations = before ++ relation :: after ∧
      table.Offends before relation ∧
      (∀ front first back, before = front ++ first :: back → ¬ table.Offends front first) ∧
      table.resolvedFields.log = before.filterMap table.warning? := by
  rw [log_resolvedFields]
  obtain ⟨kept, hcollect⟩ | ⟨before, relation, after, kept, cause, hrelations, hkept, hrefused,
      hcollect⟩ := collectReferences_log table [] table.relations
  · rw [result_resolvedFields, references, hcollect] at h
    cases h
  · refine ⟨before, relation, after, hrelations, ?_, ?_, by rw [hcollect]⟩
    · by_contra hoffends
      obtain ⟨kept', hlast⟩ := exists_kept_of_not_offends hkept hoffends
      rw [hrefused] at hlast
      cases hlast
    · intro front first back hbefore
      exact not_offends_of_kept hkept hbefore

variable (table) in
/-- Relations that all have key columns are not refused as keyless. -/
lemma collectReferences_ne_keyless (hkeyed : Keyed relations) (earlier : List Reference)
    (relation on : String) :
    (table.collectReferences earlier relations).result ≠ .error (.keyless relation on) := by
  induction relations generalizing earlier with
  | nil => simp [collectReferences]
  | cons first rest ih =>
    rw [keyed_cons] at hkeyed
    by_cases hembeds : table.Embeds first
    · rw [collectReferences_of_embeds hembeds]
      cases firstShared earlier (table.reference first).keys with
      | none => exact ih hkeyed.2 (earlier ++ [table.reference first])
      | some shared => simp
    · rw [collectReferences_of_not_embeds hkeyed.1 hembeds]
      exact ih hkeyed.2 earlier

theorem resolvedFields_ne_keyless (hkeyed : Keyed table.relations) (relation on : String) :
    table.resolvedFields.result ≠ .error (.keyless relation on) := by
  intro h
  rw [result_resolvedFields, references] at h
  cases hcollect : (table.collectReferences [] table.relations).result with
  | ok references => simp [hcollect, Except.map] at h
  | error cause =>
    simp only [hcollect, Except.map, Except.error.injEq] at h
    exact collectReferences_ne_keyless table hkeyed [] relation on (h ▸ hcollect)

end RelProto.Table
