import Mathlib.Data.List.Lattice
import RelProto.Field

/-! Which relations become fields, and when the foreign keys of a table can be resolved: no relation
lacks its key columns, and no two relations use one column of the table. -/
namespace RelProto

/-- No other key part has a lower ordinal, and none before this one has the same. -/
def KeyPart.Leads (key : KeyPart) (keys : List KeyPart) : Prop :=
  ∃ before after, keys = before ++ key :: after ∧
    (∀ other ∈ before, key.ordinal < other.ordinal) ∧ ∀ other ∈ after, key.ordinal ≤ other.ordinal

theorem KeyPart.Leads.mem {key : KeyPart} {keys : List KeyPart} (h : key.Leads keys) :
    key ∈ keys := by
  obtain ⟨before, after, rfl, _, _⟩ := h
  simp

theorem KeyPart.Leads.ordinal_le {key other : KeyPart} {keys : List KeyPart} (h : key.Leads keys)
    (hother : other ∈ keys) : key.ordinal ≤ other.ordinal := by
  obtain ⟨before, after, rfl, hbefore, hafter⟩ := h
  rcases List.mem_append.mp hother with hb | ha
  · exact UInt32.le_of_lt (hbefore other hb)
  · rcases List.mem_cons.mp ha with rfl | ha
    · exact UInt32.le_refl _
    · exact hafter other ha

lemma leads_of_minOn? {keys : List KeyPart} {key : KeyPart}
    (h : keys.minOn? (·.ordinal) = some key) : key.Leads keys := by
  induction keys generalizing key with
  | nil => simp at h
  | cons first rest ih =>
    rw [List.minOn?_cons] at h
    cases hrest : rest.minOn? (·.ordinal) with
    | none =>
      have hnil : rest = [] := by
        by_contra hne
        simpa [hrest] using List.isSome_minOn?_iff (f := KeyPart.ordinal) |>.mpr hne
      rw [hrest] at h
      cases h
      exact ⟨[], rest, rfl, by simp, by simp [hnil]⟩
    | some best =>
      have hbest := ih hrest
      rw [hrest] at h
      simp only [Option.elim_some, minOn_eq_if, Option.some.injEq] at h
      split at h
      · next hle =>
        subst h
        refine ⟨[], rest, rfl, by simp, ?_⟩
        intro other hother
        exact UInt32.le_trans hle (hbest.ordinal_le hother)
      · next hlt =>
        subst h
        obtain ⟨before, after, rfl, hbefore, hafter⟩ := hbest
        refine ⟨first :: before, after, rfl, ?_, hafter⟩
        intro other hother
        rcases List.mem_cons.mp hother with rfl | hother
        · exact UInt32.not_le.mp hlt
        · exact hbefore other hother

lemma minOn?_of_leads {keys : List KeyPart} {key : KeyPart} (h : key.Leads keys) :
    keys.minOn? (·.ordinal) = some key := by
  obtain ⟨before, after, rfl, hbefore, hafter⟩ := h
  induction before with
  | nil =>
    rw [List.nil_append, List.minOn?_cons]
    cases hrest : after.minOn? (·.ordinal) with
    | none => rfl
    | some best =>
      have hle := hafter best (List.minOn?_mem hrest)
      simp [minOn_eq_left hle]
  | cons first before ih =>
    have hlt := hbefore first (by simp)
    rw [List.cons_append, List.minOn?_cons, ih fun other hother => hbefore other (by simp [hother])]
    simp [minOn_eq_right (UInt32.not_le.mpr hlt)]

namespace Reference

def localColumns (reference : Reference) : List String := reference.keys.map (·.localColumn)

@[simp] theorem hasLocalColumn_iff (reference : Reference) (name : String) :
    reference.hasLocalColumn name = true ↔ name ∈ reference.localColumns := by
  simp [hasLocalColumn, localColumns]

theorem representative_eq_some_iff (reference : Reference) (key : KeyPart) :
    reference.representative = some key ↔ key.Leads reference.keys :=
  ⟨leads_of_minOn?, minOn?_of_leads⟩

/-- The references have no local column in common. -/
def Apart (first second : Reference) : Prop := first.localColumns.Disjoint second.localColumns

instance : Std.Symm Apart := ⟨fun _ _ h => List.Disjoint.symm h⟩

instance (first second : Reference) : Decidable (first.Apart second) :=
  inferInstanceAs (Decidable (∀ name ∈ first.localColumns, name ∉ second.localColumns))

end Reference

namespace Table

variable {table : Table} {references : List Reference}

lemma mem_presentKeys {relation : Relation} {key : KeyPart} :
    key ∈ table.presentKeys relation ↔
      key ∈ relation.keys ∧ key.localColumn ∈ table.columns.map (·.name) := by
  simp [presentKeys, column?, List.find?_isSome]

/-- The relation becomes a field: it is not many-to-many, and some key column is in the table. -/
def Embeds (table : Table) (relation : Relation) : Prop :=
  relation.multiplicity ≠ .manyToMany ∧ table.presentKeys relation ≠ []

instance (relation : Relation) : Decidable (table.Embeds relation) :=
  inferInstanceAs (Decidable (_ ∧ _))

/-- The relation with the key parts that the table has. -/
def reference (table : Table) (relation : Relation) : Reference :=
  ⟨relation, table.presentKeys relation⟩

/-- Those of the relations that become fields. -/
def embeddingsAmong (table : Table) (relations : List Relation) : List Reference :=
  (relations.filter fun relation => table.Embeds relation).map table.reference

/-- The relations of the table that become fields, with their key parts. -/
def embeddings (table : Table) : List Reference := table.embeddingsAmong table.relations

/-- Every relation that is not many-to-many has key columns. -/
def Keyed (relations : List Relation) : Prop :=
  ∀ relation ∈ relations, relation.multiplicity ≠ .manyToMany → relation.keys ≠ []

instance (relations : List Relation) : Decidable (Keyed relations) :=
  inferInstanceAs (Decidable (∀ relation ∈ relations, _ → _))

lemma firstShared_eq_none_iff {earlier : List Reference} {added : Reference} :
    firstShared earlier added.keys = none ↔ ∀ other ∈ earlier, other.Apart added := by
  simp only [firstShared, List.findSome?_eq_none_iff, Option.map_eq_none_iff,
    List.find?_eq_none, Reference.hasLocalColumn_iff]
  constructor
  · intro h other hother name hname hadded
    obtain ⟨key, hkey, rfl⟩ := List.mem_map.mp hadded
    exact h key hkey other hother hname
  · intro h key hkey other hother hname
    exact h other hother hname (List.mem_map_of_mem hkey)

@[simp] theorem keyed_nil : Keyed [] := by simp [Keyed]

@[simp] theorem keyed_cons (relation : Relation) (rest : List Relation) :
    Keyed (relation :: rest) ↔
      (relation.multiplicity ≠ .manyToMany → relation.keys ≠ []) ∧ Keyed rest := by
  simp [Keyed]

@[simp] theorem embeddingsAmong_nil : table.embeddingsAmong [] = [] := rfl

lemma embeddingsAmong_cons_of_embeds {relation : Relation} (h : table.Embeds relation)
    (rest : List Relation) : table.embeddingsAmong (relation :: rest) =
      table.reference relation :: table.embeddingsAmong rest := by
  simp [embeddingsAmong, h]

lemma embeddingsAmong_cons_of_not_embeds {relation : Relation} (h : ¬ table.Embeds relation)
    (rest : List Relation) : table.embeddingsAmong (relation :: rest) =
      table.embeddingsAmong rest := by
  simp [embeddingsAmong, h]

section Collect

variable {earlier : List Reference} {relation : Relation} {rest : List Relation}

lemma collectReferences_of_keyless (hmany : relation.multiplicity ≠ .manyToMany)
    (hkeys : relation.keys = []) : (table.collectReferences earlier (relation :: rest)).result =
      .error (.keyless relation.name table.qualifiedName) := by
  simp [collectReferences, hmany, hkeys, Logged.result_throw]

lemma collectReferences_of_not_embeds
    (hkeys : relation.multiplicity ≠ .manyToMany → relation.keys ≠ [])
    (h : ¬ table.Embeds relation) : (table.collectReferences earlier (relation :: rest)).result =
      (table.collectReferences earlier rest).result := by
  rw [collectReferences]
  by_cases hmany : relation.multiplicity = .manyToMany
  · rw [if_pos hmany, Logged.result_warn_bind]
  · have hpresent : table.presentKeys relation = [] := by
      by_contra hne
      exact h ⟨hmany, hne⟩
    simp [hmany, hkeys hmany, hpresent]

lemma collectReferences_of_embeds (h : table.Embeds relation) :
    (table.collectReferences earlier (relation :: rest)).result =
      match firstShared earlier (table.reference relation).keys with
      | some (other, key) => .error
          (.shared other.relation.name relation.name table.qualifiedName key.localColumn)
      | none => (table.collectReferences (earlier ++ [table.reference relation]) rest).result := by
  obtain ⟨hmany, hpresent⟩ := h
  have hkeys : relation.keys ≠ [] := by
    intro hnil
    exact hpresent (by simp [presentKeys, hnil])
  rw [collectReferences, if_neg hmany, if_neg (by simpa using hkeys)]
  simp only [List.isEmpty_iff, hpresent, if_false, reference]
  cases firstShared earlier (table.presentKeys relation) with
  | none => rfl
  | some shared => rfl

end Collect

/-- Collecting goes through exactly if every relation has its keys and every reference that is added
is apart from those before it; then nothing else is added. -/
theorem collectReferences_eq_ok_iff (table : Table) (earlier : List Reference)
    (relations : List Relation) :
    (table.collectReferences earlier relations).result = .ok references ↔
      Keyed relations ∧
      (∀ other ∈ earlier, ∀ added ∈ table.embeddingsAmong relations, other.Apart added) ∧
      (table.embeddingsAmong relations).Pairwise Reference.Apart ∧
      references = earlier ++ table.embeddingsAmong relations := by
  induction relations generalizing earlier with
  | nil => simp [collectReferences, eq_comm]
  | cons relation rest ih =>
    rw [keyed_cons]
    by_cases hkeys : relation.multiplicity ≠ .manyToMany → relation.keys ≠ []
    · by_cases hembeds : table.Embeds relation
      · rw [collectReferences_of_embeds hembeds, embeddingsAmong_cons_of_embeds hembeds]
        cases hshared : firstShared earlier (table.reference relation).keys with
        | some shared =>
          have hclash : ¬ ∀ other ∈ earlier, other.Apart (table.reference relation) := by
            intro h
            rw [firstShared_eq_none_iff.mpr h] at hshared
            contradiction
          simp only [reduceCtorEq, false_iff]
          rintro ⟨_, hearlier, _⟩
          exact hclash fun other hother => hearlier other hother _ (by simp)
        | none =>
          have hapart := firstShared_eq_none_iff.mp hshared
          simp only [ih, List.forall_mem_append, List.forall_mem_singleton, List.forall_mem_cons,
            forall_and, List.pairwise_cons, List.append_assoc, List.singleton_append]
          constructor
          · rintro ⟨hkeyed, ⟨hearlier, hadded⟩, hrest, heq⟩
            exact ⟨⟨hkeys, hkeyed⟩, ⟨hapart, hearlier⟩, ⟨hadded, hrest⟩, heq⟩
          · rintro ⟨⟨_, hkeyed⟩, ⟨_, hearlier⟩, ⟨hadded, hrest⟩, heq⟩
            exact ⟨hkeyed, ⟨hearlier, hadded⟩, hrest, heq⟩
      · rw [collectReferences_of_not_embeds hkeys hembeds, ih,
          embeddingsAmong_cons_of_not_embeds hembeds, and_iff_right hkeys]
    · have hkeyless := hkeys
      push Not at hkeyless
      rw [collectReferences_of_keyless hkeyless.1 hkeyless.2]
      simp [hkeys]

/-- Every relation has its key columns, and no two that become fields share a column. -/
def Resolvable (table : Table) : Prop :=
  Keyed table.relations ∧ table.embeddings.Pairwise Reference.Apart

instance (table : Table) : Decidable table.Resolvable := inferInstanceAs (Decidable (_ ∧ _))

theorem references_eq_ok_iff (table : Table) :
    table.references.result = .ok references ↔
      table.Resolvable ∧ references = table.embeddings := by
  rw [Table.references, collectReferences_eq_ok_iff]
  simp [Resolvable, embeddings, and_assoc]

lemma result_resolvedFields (table : Table) :
    table.resolvedFields.result = table.references.result.map table.fieldsFor := by
  rw [resolvedFields]
  obtain ⟨cause | references, log⟩ := table.references
  · rfl
  · rfl

/-- The fields can be resolved exactly if the table is resolvable, and they are those for its
embedded relations. -/
theorem resolvedFields_eq_ok_iff (table : Table) (fields : List Field) :
    table.resolvedFields.result = .ok fields ↔
      table.Resolvable ∧ fields = table.fieldsFor table.embeddings := by
  rw [resolvedFields, Logged.result_bind_eq_ok_iff]
  simp only [references_eq_ok_iff, Logged.pure_eq, Except.ok.injEq]
  constructor
  · rintro ⟨references, ⟨hresolvable, rfl⟩, rfl⟩
    exact ⟨hresolvable, rfl⟩
  · rintro ⟨hresolvable, rfl⟩
    exact ⟨_, ⟨hresolvable, rfl⟩, rfl⟩

lemma resolvedFields_of_resolvable (h : table.Resolvable) :
    table.resolvedFields.result = .ok (table.fieldsFor table.embeddings) :=
  (resolvedFields_eq_ok_iff table _).mpr ⟨h, rfl⟩

lemma exists_error_of_not_resolvable (h : ¬ table.Resolvable) :
    ∃ cause, table.resolvedFields.result = .error cause := by
  cases hresult : table.resolvedFields.result with
  | ok fields => exact absurd ((resolvedFields_eq_ok_iff table fields).mp hresult).1 h
  | error cause => exact ⟨cause, rfl⟩

end Table

end RelProto
