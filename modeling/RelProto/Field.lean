import RelProto.Fault
import RelProto.Log
import RelProto.Table
import RelProto.Text.Basic

/-! The fields of a message. A plain layout has a field for every column; in a resolved layout one
field stands for all key columns of a foreign key. -/
namespace RelProto

/-- A foreign key that becomes a field, with the key parts whose columns the table has. -/
structure Reference where
  relation : Relation
  keys : List KeyPart
  deriving DecidableEq

namespace Reference

def hasLocalColumn (reference : Reference) (name : String) : Bool :=
  reference.keys.any (·.localColumn == name)

/-- The first of the present key parts with the lowest ordinal. -/
def representative (reference : Reference) : Option KeyPart := reference.keys.minOn? (·.ordinal)

/-- The local key columns as a comment lists them. -/
def localKeys (reference : Reference) : String :=
  ", ".intercalate (reference.keys.map (·.localColumn))

end Reference

/-- A column of its own, or a column that stands for a foreign key under a name of its own. -/
inductive Field where
  | plain (column : Column)
  | reference (column : Column) (reference : Reference) (name : String)
  deriving DecidableEq

namespace Field

def column : Field → Column
  | plain column | reference column _ _ => column

def name : Field → String
  | plain column => column.name
  | reference _ _ name => name

def isReference : Field → Bool
  | plain _ => false
  | reference .. => true

end Field

/-- Why the foreign keys of a table cannot become fields. -/
inductive RelationFault where
  | keyless (relation table : String)
  | shared (first second table column : String)
  deriving DecidableEq

namespace RelationFault

def message : RelationFault → String
  | keyless relation table => "relation " ++ relation ++ " on " ++ table ++ " has no key columns"
  | shared first second table column =>
    "relations " ++ first ++ " and " ++ second ++ " on " ++ table ++ " share column " ++ column

def fault (cause : RelationFault) : Fault := .invalidRelation cause.message

end RelationFault

namespace Table

/-- The key parts of the relation whose local column is in the table. -/
def presentKeys (table : Table) (relation : Relation) : List KeyPart :=
  relation.keys.filter fun key => (table.column? key.localColumn).isSome

/-- The first key part that an earlier reference also uses, with that reference. -/
def firstShared (earlier : List Reference) (keys : List KeyPart) : Option (Reference × KeyPart) :=
  keys.findSome? fun key =>
    (earlier.find? (·.hasLocalColumn key.localColumn)).map fun other => (other, key)

/-- Adds the references of the remaining relations to the earlier ones. A many-to-many relation and
one without any column in the table are skipped with a warning. -/
def collectReferences (table : Table) (earlier : List Reference) :
    List Relation → Logged RelationFault (List Reference)
  | [] => pure earlier
  | relation :: rest =>
    if relation.multiplicity = .manyToMany then do
      .warn ("skipping many-to-many relation " ++ relation.name ++ " on " ++ table.qualifiedName)
      table.collectReferences earlier rest
    else if relation.keys.isEmpty then
      throw (.keyless relation.name table.qualifiedName)
    else
      let keys := table.presentKeys relation
      if keys.isEmpty then do
        .warn ("skipping relation " ++ relation.name ++ " on " ++ table.qualifiedName
          ++ ": all key columns are excluded")
        table.collectReferences earlier rest
      else
        match firstShared earlier keys with
        | some (other, key) =>
          throw (.shared other.relation.name relation.name table.qualifiedName key.localColumn)
        | none => table.collectReferences (earlier ++ [⟨relation, keys⟩]) rest

def references (table : Table) : Logged RelationFault (List Reference) :=
  table.collectReferences [] table.relations

/-- The place of a column among the fields: none for a key column that another one stands for. -/
def placement (references : List Reference) (column : Column) :
    Option (Column × Option Reference) :=
  match references.find? (·.hasLocalColumn column.name) with
  | none => some (column, none)
  | some reference =>
    match reference.representative with
    | none => none
    | some key => if key.localColumn = column.name then some (column, some reference) else none

/-- Gives every reference the next name for its foreign table that is not taken. `counts` holds how
many names were tried for a foreign table so far. -/
def nameFields (taken : List String) (counts : List (String × Nat)) :
    List (Column × Option Reference) → List Field
  | [] => []
  | (column, none) :: rest => .plain column :: nameFields taken counts rest
  | (column, some reference) :: rest =>
    let base := reference.relation.foreignTable
    let n := Text.freshIndex base taken ((counts.lookup base).getD 0)
    .reference column reference (Text.numberedName base n) ::
      nameFields taken ((base, n + 1) :: counts) rest

/-- The names of the columns that keep a field of their own. -/
def plainNames (references : List Reference) (columns : List Column) : List String :=
  (columns.map (·.name)).filter fun name => !references.any (·.hasLocalColumn name)

def fieldsFor (table : Table) (references : List Reference) : List Field :=
  nameFields (plainNames references table.columns) []
    (table.columns.filterMap (placement references))

/-- Every column as a field. -/
def plainFields (table : Table) : List Field := table.columns.map .plain

/-- The fields in which each foreign key is one field, at the place of its representative column. -/
def resolvedFields (table : Table) : Logged RelationFault (List Field) := do
  return table.fieldsFor (← table.references)

end Table

/-- The fields with their numbers. -/
def numberFields (fields : List Field) : List (Nat × Field) :=
  fields.zipIdx.map fun (field, i) => (i + 1, field)

def findField? (fields : List Field) (name : String) : Option Field :=
  fields.find? (·.name == name)

end RelProto
