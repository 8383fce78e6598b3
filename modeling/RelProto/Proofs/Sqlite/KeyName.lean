import RelProto.Proofs.Sqlite.Indexes

/-! The name for an index over the primary key that SQLite keeps none for: the first of the numbered
names that no row has. It is found with few attempts. -/
namespace RelProto.Sqlite

/-- The names that are tried for the index over the primary key of a table. -/
def keyNames (table : String) : Nat → String := Text.numberedName (table ++ "_pkey")

/-- The name of that index, when the other indexes of the table have these rows. -/
def keyName (table : String) (rows : List IndexRow) : String :=
  Text.freshName (table ++ "_pkey") (rows.map (·.index))

/-- The name is the `n`th that is tried, counted from zero: rows have all before it, and no row has
it. The search ends with the attempt for it. -/
structure FoundAt (table : String) (rows : List IndexRow) (n : Nat) : Prop where
  name_eq : keyName table rows = keyNames table n
  free : ∀ row ∈ rows, row.index ≠ keyNames table n
  taken : ∀ i < n, ∃ row ∈ rows, row.index = keyNames table i
  search_ends : ∀ attempts,
    Text.searchWithin (table ++ "_pkey") (rows.map (·.index)) attempts 0 =
      if n < attempts then some (keyName table rows) else none

theorem foundAt_freshIndex (table : String) (rows : List IndexRow) :
    FoundAt table rows (Text.freshIndex (table ++ "_pkey") (rows.map (·.index)) 0) where
  name_eq := rfl
  free row hrow hname :=
    Text.freshName_notMem (table ++ "_pkey") (rows.map (·.index))
      (List.mem_map.mpr ⟨row, hrow, hname⟩)
  taken i hi := List.mem_map.mp (Text.numberedName_mem_of_lt_freshIndex (Nat.zero_le i) hi)
  search_ends attempts := by
    rw [Text.searchWithin_eq, Nat.zero_add, keyName, Text.freshName]

/-- The search for the name ends with the first one that no row has, after at most one attempt more
than the rows have names. It is the name under which the primary key is listed. -/
theorem keyName_found_first (rows : List IndexRow) (table : String) :
    ∃ n, FoundAt table rows n ∧ n + 1 ≤ (rows.map (·.index)).dedup.length + 1 ∧
      ∀ (connection : Connection) (schema : String) (parts : List IndexPart),
        connection.select (.indexes schema table) indexPartOf = .ok parts →
        parts.filterMap IndexPart.row? = rows → rows.any (·.primary) = false →
        (connection.indexRows schema table).result =
          (connection.columns schema table).map fun columns =>
            rows ++ Connection.keyRows (keyName table rows) columns := by
  refine ⟨_, foundAt_freshIndex table rows, ?_, ?_⟩
  · have hle := Text.freshIndex_le_length_dedup (table ++ "_pkey") (rows.map (·.index))
    omega
  · intro connection schema parts hparts hrows hprimary
    rw [Connection.result_indexRows hparts, hrows, hprimary]
    rfl

open Connection in
theorem keyName_found_first_part :
    userIndexes.select (.indexes "main" "part") indexPartOf = .ok userParts ∧
    (userParts.filterMap IndexPart.row?).any (·.primary) = false ∧
    keyName "part" (userParts.filterMap IndexPart.row?) = "part_pkey2" ∧
    (userIndexes.indexRows "main" "part").result = .ok [
      ⟨"part_name_idx", "name", true, false⟩, ⟨"part_pkey", "name", false, false⟩,
      ⟨"part_pkey2", "id", true, true⟩] := by
  obtain ⟨n, hfound, hle, hlisted⟩ :=
    keyName_found_first (userParts.filterMap IndexPart.row?) "part"
  have hname : keyName "part" (userParts.filterMap IndexPart.row?) = "part_pkey2" := by
    have hdistinct : ((userParts.filterMap IndexPart.row?).map (·.index)).dedup.length = 2 := by
      decide
    have hends := hfound.search_ends 3
    rw [if_pos (by omega)] at hends
    exact Option.some.inj (hends.symm.trans (by decide +kernel))
  refine ⟨rfl, by decide, hname, ?_⟩
  rw [hlisted userIndexes "main" userParts rfl rfl (by decide), hname, userIndexes,
    columns_partDatabase]
  rfl

example : Text.searchWithin "part_pkey" ["part_pkey3", "part_pkey", "part_pkey5", "part_pkey2"] 4 0 =
    some "part_pkey4" := by decide +kernel

end RelProto.Sqlite
