import Mathlib.Data.List.Induction
import RelProto.Proofs.Field.Layout

/-! Which tables are refused for their foreign keys. Relations are looked at one after the other;
the first one that lacks key columns, or shares a column with a relation before it, is reported. -/
namespace RelProto.Table

variable {table : Table} {earlier : List Reference} {before after : List Relation}
  {relation : Relation} {kept : List Reference} {cause : RelationFault}

/-- Those of the relations that use the column, many-to-many ones left out. -/
def usersOf (relations : List Relation) (column : String) : List Relation :=
  relations.filter fun relation =>
    relation.multiplicity ≠ .manyToMany ∧ column ∈ relation.localColumns

/-- The column of the key part is in the table, and one of the earlier relations uses it. -/
def Shares (table : Table) (before : List Relation) (key : KeyPart) : Prop :=
  key.localColumn ∈ table.columns.map (·.name) ∧ usersOf before key.localColumn ≠ []

instance (before : List Relation) (key : KeyPart) : Decidable (table.Shares before key) :=
  inferInstanceAs (Decidable (_ ∧ _))

/-- The relation cannot stand behind the earlier ones: it has no key columns, or shares one. -/
def Offends (table : Table) (before : List Relation) (relation : Relation) : Prop :=
  relation.multiplicity ≠ .manyToMany ∧
    (relation.keys = [] ∨ ∃ key ∈ relation.keys, table.Shares before key)

/-- What is reported of a relation that offends: that it has no key columns, or its first key part
that is shared, with the only earlier relation that uses the same column. -/
inductive Blames (table : Table) (before : List Relation) (relation : Relation) : Fault → Prop
  | keyless (hkeys : relation.keys = []) :
      Blames table before relation (.invalidRelation
        ("relation " ++ relation.name ++ " on " ++ table.qualifiedName ++ " has no key columns"))
  | shared {key : KeyPart} {other : Relation}
      (hfirst : relation.keys.find? (fun key => table.Shares before key) = some key)
      (honly : usersOf before key.localColumn = [other]) :
      Blames table before relation (.invalidRelation
        ("relations " ++ other.name ++ " and " ++ relation.name ++ " on " ++ table.qualifiedName
          ++ " share column " ++ key.localColumn))

/-- What has been collected of the first relations is all that the others are compared with. -/
theorem collectReferences_append (table : Table) (earlier : List Reference)
    (before rest : List Relation) :
    table.collectReferences earlier (before ++ rest) =
      table.collectReferences earlier before >>= fun kept => table.collectReferences kept rest := by
  induction before generalizing earlier with
  | nil => rw [collectReferences, pure_bind, List.nil_append]
  | cons relation before ih =>
    rw [List.cons_append, collectReferences, collectReferences]
    by_cases hmany : relation.multiplicity = .manyToMany
    · rw [if_pos hmany, if_pos hmany, bind_assoc, ih]
    · rw [if_neg hmany, if_neg hmany]
      by_cases hkeys : relation.keys.isEmpty
      · rw [if_pos hkeys, if_pos hkeys]
        rfl
      · rw [if_neg hkeys, if_neg hkeys]
        by_cases hpresent : (table.presentKeys relation).isEmpty
        · simp only [if_pos hpresent, bind_assoc, ih]
        · simp only [if_neg hpresent]
          cases firstShared earlier (table.presentKeys relation) with
          | none => exact ih _
          | some shared => rfl

/-- A key part is reported with the first reference that has its column. -/
lemma firstShared_eq_some_iff {keys : List KeyPart} {key : KeyPart} {other : Reference} :
    firstShared earlier keys = some (other, key) ↔
      keys.find? (fun key => earlier.any (·.hasLocalColumn key.localColumn)) = some key ∧
        earlier.find? (·.hasLocalColumn key.localColumn) = some other := by
  rw [firstShared]
  induction keys with
  | nil => simp
  | cons first rest ih =>
    rw [List.findSome?_cons, List.find?_cons]
    cases hfound : earlier.find? (·.hasLocalColumn first.localColumn) with
    | none =>
      have hnone : earlier.any (·.hasLocalColumn first.localColumn) = false := by
        simpa using hfound
      simpa only [Option.map_none, hnone] using ih
    | some found =>
      have hhas := List.find?_some hfound
      have hsome : earlier.any (·.hasLocalColumn first.localColumn) = true :=
        List.any_eq_true.mpr ⟨found, List.mem_of_find?_eq_some hfound, hhas⟩
      simp only [Option.map_some, hsome, Option.some.injEq, Prod.mk.injEq]
      constructor
      · rintro ⟨rfl, rfl⟩
        exact ⟨rfl, hfound⟩
      · rintro ⟨rfl, hother⟩
        exact ⟨Option.some.inj (hfound.symm.trans hother), rfl⟩

/-- The references with a column of the table are those of the relations that use it. -/
lemma map_reference_usersOf {column : String} (hcolumn : column ∈ table.columns.map (·.name))
    (relations : List Relation) :
    (usersOf relations column).map table.reference =
      (table.embeddingsAmong relations).filter (·.hasLocalColumn column) := by
  obtain ⟨column, hmem, rfl⟩ := List.mem_map.mp hcolumn
  rw [embeddingsAmong, List.filter_map, List.filter_filter, usersOf]
  congr 1
  apply List.filter_congr
  intro relation _
  rw [Bool.eq_iff_iff]
  rw [decide_eq_true_iff, Function.comp_apply, Bool.and_eq_true, Reference.hasLocalColumn_iff,
    mem_localColumns_reference relation hmem, decide_eq_true_iff]
  constructor
  · rintro ⟨hmany, huses⟩
    obtain ⟨key, hkey, hname⟩ := List.mem_map.mp huses
    have hpresent : key ∈ table.presentKeys relation :=
      mem_presentKeys.mpr ⟨hkey, hname ▸ hcolumn⟩
    exact ⟨huses, hmany, List.ne_nil_of_mem hpresent⟩
  · rintro ⟨huses, hmany, _⟩
    exact ⟨hmany, huses⟩

lemma shares_iff {key : KeyPart} :
    table.Shares before key ↔ key.localColumn ∈ table.columns.map (·.name) ∧
      (table.embeddingsAmong before).any (·.hasLocalColumn key.localColumn) := by
  rw [Shares]
  refine and_congr_right fun hcolumn => ?_
  rw [Ne, ← List.map_eq_nil_iff (f := table.reference), map_reference_usersOf hcolumn,
    List.filter_eq_nil_iff]
  simp

/-- Of references that have no column in common, one at most has the column. -/
lemma filter_hasLocalColumn {references : List Reference} {reference : Reference} {column : String}
    (hapart : references.Pairwise Reference.Apart)
    (hfound : references.find? (·.hasLocalColumn column) = some reference) :
    references.filter (·.hasLocalColumn column) = [reference] := by
  obtain ⟨hhas, front, back, rfl, hfront⟩ := List.find?_eq_some_iff_append.mp hfound
  have hback : ∀ other ∈ back, ¬ other.hasLocalColumn column := by
    intro other hother hhas'
    have hdisjoint := (List.pairwise_cons.mp (List.pairwise_append.mp hapart).2.1).1 other hother
    exact hdisjoint ((reference.hasLocalColumn_iff column).mp hhas)
      ((other.hasLocalColumn_iff column).mp hhas')
  have hnone : front.filter (·.hasLocalColumn column) = [] :=
    List.filter_eq_nil_iff.mpr fun other hother =>
      Bool.eq_false_iff.mp ((Bool.not_eq_true' _).mp (hfront other hother))
  rw [List.filter_append, hnone, List.nil_append, List.filter_cons, if_pos hhas,
    List.filter_eq_nil_iff.mpr hback]

section Step

variable (hkept : (table.collectReferences [] before).result = .ok kept)
include hkept

lemma kept_eq : kept = table.embeddingsAmong before ∧ kept.Pairwise Reference.Apart := by
  obtain ⟨_, _, hapart, rfl⟩ := (collectReferences_eq_ok_iff table [] before).mp hkept
  exact ⟨rfl, hapart⟩

/-- A relation that offends ends the collection, and is reported. -/
theorem exists_blames_of_offends (hoffends : table.Offends before relation)
    (after : List Relation) : ∃ cause, table.Blames before relation cause.fault ∧
      (table.collectReferences kept (relation :: after)).result = .error cause := by
  obtain ⟨hmany, hkeys | ⟨key, hkey, hshares⟩⟩ := hoffends
  · exact ⟨.keyless relation.name table.qualifiedName, .keyless hkeys,
      collectReferences_of_keyless hmany hkeys⟩
  · obtain ⟨rfl, hapart⟩ := kept_eq hkept
    have hembeds : table.Embeds relation :=
      ⟨hmany, List.ne_nil_of_mem (mem_presentKeys.mpr ⟨hkey, hshares.1⟩)⟩
    rw [collectReferences_of_embeds hembeds]
    have hfirst : (table.presentKeys relation).find? (fun key =>
        (table.embeddingsAmong before).any (·.hasLocalColumn key.localColumn)) =
          relation.keys.find? (fun key => table.Shares before key) := by
      rw [presentKeys, List.find?_filter]
      congr 1
      funext key
      rw [Bool.eq_iff_iff, decide_eq_true_iff, decide_eq_true_iff, shares_iff]
      simp [column?, List.find?_isSome]
    have hsome : (relation.keys.find? fun key => table.Shares before key).isSome :=
      List.find?_isSome.mpr ⟨key, hkey, decide_eq_true hshares⟩
    obtain ⟨first, hfound⟩ := Option.isSome_iff_exists.mp hsome
    have hshared := List.find?_some hfound
    obtain ⟨hcolumn, hany⟩ := shares_iff.mp (of_decide_eq_true hshared)
    obtain ⟨other, hother⟩ := Option.isSome_iff_exists.mp
      (List.find?_isSome.mpr (List.any_eq_true.mp hany))
    have honly := filter_hasLocalColumn hapart hother
    rw [← map_reference_usersOf hcolumn] at honly
    obtain ⟨user, husers, rfl⟩ := List.map_eq_singleton_iff.mp honly
    refine ⟨.shared user.name relation.name table.qualifiedName first.localColumn,
      .shared hfound husers, ?_⟩
    have hclash : firstShared (table.embeddingsAmong before) (table.reference relation).keys =
        some (table.reference user, first) :=
      firstShared_eq_some_iff.mpr ⟨hfirst.trans hfound, hother⟩
    rw [hclash]
    rfl

/-- Any other relation is collected or skipped. -/
theorem exists_kept_of_not_offends (hoffends : ¬ table.Offends before relation) :
    ∃ kept', (table.collectReferences kept [relation]).result = .ok kept' := by
  obtain ⟨rfl, hapart⟩ := kept_eq hkept
  have hkeys : relation.multiplicity ≠ .manyToMany → relation.keys ≠ [] := by
    intro hmany hnil
    exact hoffends ⟨hmany, .inl hnil⟩
  by_cases hembeds : table.Embeds relation
  · rw [collectReferences_of_embeds hembeds]
    cases hshared : firstShared (table.embeddingsAmong before) (table.reference relation).keys with
    | none => exact ⟨_, rfl⟩
    | some shared =>
      obtain ⟨other, key⟩ := shared
      obtain ⟨hfirst, hother⟩ := firstShared_eq_some_iff.mp hshared
      obtain ⟨hkey, hcolumn⟩ := mem_presentKeys.mp (List.mem_of_find?_eq_some hfirst)
      have hany := List.find?_some hfirst
      have hshares := shares_iff.mpr ⟨hcolumn, hany⟩
      exact absurd ⟨hembeds.1, .inr ⟨key, hkey, hshares⟩⟩ hoffends
  · rw [collectReferences_of_not_embeds hkeys hembeds]
    exact ⟨_, rfl⟩

end Step

/-- Relations none of which offends behind those before it are all collected or skipped. -/
theorem exists_kept_of_forall_not_offends {relations : List Relation}
    (h : ∀ before relation after, relations = before ++ relation :: after →
      ¬ table.Offends before relation) :
    ∃ kept, (table.collectReferences [] relations).result = .ok kept := by
  induction relations using List.reverseRecOn with
  | nil => exact ⟨[], rfl⟩
  | append_singleton relations last ih =>
    obtain ⟨kept, hkept⟩ := ih fun before relation after hsplit =>
      h before relation (after ++ [last]) (by simp [hsplit])
    obtain ⟨kept', hlast⟩ := exists_kept_of_not_offends hkept (h relations last [] rfl)
    rw [collectReferences_append]
    exact ⟨kept', Logged.result_bind_eq_ok_iff.mpr ⟨kept, hkept, hlast⟩⟩

/-- None of the relations that were collected or skipped offends behind those before it. -/
theorem not_offends_of_kept {relations : List Relation}
    (hkept : (table.collectReferences [] relations).result = .ok kept)
    (hrelations : relations = before ++ relation :: after) : ¬ table.Offends before relation := by
  intro hoffends
  rw [hrelations, collectReferences_append, Logged.result_bind_eq_ok_iff] at hkept
  obtain ⟨kept, hbefore, hrest⟩ := hkept
  obtain ⟨cause, _, hcause⟩ := exists_blames_of_offends hbefore hoffends after
  rw [hcause] at hrest
  cases hrest

/-- In a table whose fields can be resolved no relation offends. -/
theorem not_offends_of_resolvable (h : table.Resolvable)
    (hrelations : table.relations = before ++ relation :: after) :
    ¬ table.Offends before relation :=
  not_offends_of_kept ((references_eq_ok_iff table).mpr ⟨h, rfl⟩) hrelations

/-- The fields of a table are refused exactly if a relation offends behind those before it. The
first such relation is reported. -/
theorem resolvedFields_refused_iff (table : Table) :
    ((∃ fault, (table.resolvedFields.mapError RelationFault.fault).result = .error fault) ↔
      ∃ before relation after, table.relations = before ++ relation :: after ∧
        table.Offends before relation) ∧
    ∀ before relation after, table.relations = before ++ relation :: after →
      table.Offends before relation →
      (∀ front first back, before = front ++ first :: back → ¬ table.Offends front first) →
      ∃ fault, (table.resolvedFields.mapError RelationFault.fault).result = .error fault ∧
        table.Blames before relation fault := by
  rw [Logged.result_mapError]
  constructor
  · constructor
    · rintro ⟨fault, hfault⟩
      by_contra hnone
      push Not at hnone
      obtain ⟨kept, hkept⟩ := exists_kept_of_forall_not_offends hnone
      rw [result_resolvedFields, references, hkept] at hfault
      cases hfault
    · rintro ⟨before, relation, after, hrelations, hoffends⟩
      have hrefused : ¬ table.Resolvable := fun hresolvable =>
        not_offends_of_resolvable hresolvable hrelations hoffends
      obtain ⟨cause, hcause⟩ := exists_error_of_not_resolvable hrefused
      exact ⟨cause.fault, by rw [hcause]; rfl⟩
  · intro before relation after hrelations hoffends hfirst
    obtain ⟨kept, hkept⟩ := exists_kept_of_forall_not_offends hfirst
    obtain ⟨cause, hblames, hcause⟩ := exists_blames_of_offends hkept hoffends after
    refine ⟨cause.fault, ?_, hblames⟩
    rcases hbefore : table.collectReferences [] before with ⟨result, log⟩
    rw [hbefore] at hkept
    obtain rfl : result = .ok kept := hkept
    rw [result_resolvedFields, references, hrelations, collectReferences_append, hbefore,
      Logged.ok_bind, hcause]
    rfl

/-- Two relations use the zip code; the one for tags does not count, nor does a column that is not
in the table. -/
def disputed : Table :=
  ofNames "shop" "parcel" ["id", "zip"] [
    ⟨"fk_tag", "shop", "tag", .manyToMany, [⟨1, "zip", "id"⟩]⟩,
    ⟨"fk_sender", "shop", "address", .zeroOneOrMore, [⟨1, "zip", "zip"⟩, ⟨2, "city", "city"⟩]⟩,
    ⟨"fk_receiver", "shop", "address", .zeroOneOrMore, [⟨1, "city", "city"⟩, ⟨2, "zip", "zip"⟩]⟩]

example : (disputed.resolvedFields.mapError RelationFault.fault).result = .error (.invalidRelation
    "relations fk_sender and fk_receiver on shop.parcel share column zip") := by decide +kernel

end RelProto.Table
