import RelProto.Postgresql.Answer
import RelProto.Server.Client

/-! The catalog of a PostgreSQL server. -/
namespace RelProto.Postgresql

def catalogName : String := "postgresql"

def tablesText : String := "SELECT table_name::text
FROM information_schema.tables
WHERE table_type = 'BASE TABLE'
    AND table_schema::text = $1::text
    AND NOT (table_name::text = ANY($2::text[]))
ORDER BY table_name"

def columnsText : String := "SELECT
    c.column_name::text,
    c.ordinal_position::int4,
    c.data_type::text,
    c.udt_name::regtype::text,
    c.column_default::text,
    c.is_nullable = 'YES',
    pa.attname IS NOT NULL,
    pg_get_serial_sequence(
        quote_ident(c.table_schema::text) || '.' || quote_ident(c.table_name::text),
        c.column_name::text
    ) IS NOT NULL
FROM pg_namespace ns
    JOIN pg_class t ON
        t.relnamespace = ns.oid
        AND t.relkind = 'r'
        AND t.relname = $2::text
    JOIN information_schema.columns c ON
        c.table_schema::text = ns.nspname::text
        AND c.table_name::text = t.relname::text
    LEFT OUTER JOIN pg_index pi ON
        pi.indrelid = t.oid
        AND pi.indisprimary
    LEFT OUTER JOIN pg_attribute pa ON
        pa.attrelid = pi.indrelid
        AND pa.attnum = ANY(pi.indkey)
        AND pa.attname::text = c.column_name::text
WHERE ns.nspname = $1::text
ORDER BY c.ordinal_position"

def indexesText : String := "SELECT
    i.relname::text,
    a.attname::text,
    ix.indisunique,
    ix.indisprimary
FROM pg_class t
    JOIN pg_namespace ns ON ns.oid = t.relnamespace
    JOIN pg_index ix ON ix.indrelid = t.oid
    JOIN pg_class i ON i.oid = ix.indexrelid
    JOIN LATERAL unnest(ix.indkey::int2[]) WITH ORDINALITY AS k(attnum, part) ON true
    JOIN pg_attribute a ON a.attrelid = t.oid AND a.attnum = k.attnum
WHERE t.relkind = 'r'
    AND ns.nspname = $1::text
    AND t.relname = $2::text
ORDER BY i.relname, k.part"

def foreignKeysText : String := "SELECT DISTINCT
    kcu.constraint_name::text AS constraint_name,
    f_kcu.table_schema::text AS foreign_schema,
    f_kcu.table_name::text AS foreign_table,
    f_kcu.column_name::text AS foreign_column,
    kcu.column_name::text AS local_column,
    kcu.ordinal_position::int4 AS ordinal_position
FROM information_schema.key_column_usage kcu
    JOIN information_schema.referential_constraints rc ON
        rc.constraint_schema = kcu.constraint_schema
        AND rc.constraint_name = kcu.constraint_name
    JOIN information_schema.key_column_usage f_kcu ON
        f_kcu.constraint_schema = rc.unique_constraint_schema
        AND f_kcu.constraint_name = rc.unique_constraint_name
        AND f_kcu.ordinal_position = kcu.position_in_unique_constraint
WHERE kcu.table_schema::text = $1::text
    AND kcu.table_name::text = $2::text
    AND kcu.position_in_unique_constraint IS NOT NULL
ORDER BY foreign_schema, foreign_table, constraint_name, ordinal_position"

def statementText : CatalogQuery → String
  | .tables _ => tablesText
  | .columns _ _ => columnsText
  | .indexRows _ _ => indexesText
  | .foreignKeyRows _ _ => foreignKeysText

def columnOf (schema table : String) (cells : Cells) : Except DecodeFault Column := do
  return { schema, table, name := ← cells.text 0, ordinal := ← cells.ordinal 1,
           dataType := ← cells.text 2, nativeType := ← cells.text 3,
           default := ← cells.optionalText 4, nullable := ← cells.flag 5,
           primaryKey := ← cells.flag 6, sequence := ← cells.flag 7 }

def indexRowOf (cells : Cells) : Except DecodeFault IndexRow := do
  return ⟨← cells.text 0, ← cells.text 1, ← cells.flag 2, ← cells.flag 3⟩

def foreignKeyRowOf (cells : Cells) : Except DecodeFault ForeignKeyRow := do
  return ⟨← cells.text 0, ← cells.text 1, ← cells.text 2, ← cells.text 3, ← cells.text 4,
    ← cells.ordinal 5⟩

variable {σ : Type}

/-- The decoded rows that answer a query. -/
def select {α : Type} (client : Client Failure Rows σ) (query : CatalogQuery)
    (excluded : List String) (decode : Cells → Except DecodeFault α) :
    Action (Session σ) (List α) := do
  let rows ← client.answer ⟨statementText query, query, excluded⟩
  Action.ofExcept (rows.decode decode)

/-- The server leaves the excluded tables out. -/
def catalog (client : Client Failure Rows σ) : Catalog (Session σ) where
  name := catalogName
  tables schema excluded := select client (.tables schema) excluded (·.text 0)
  columns schema table := select client (.columns schema table) [] (columnOf schema table)
  indexRows schema table := select client (.indexRows schema table) [] indexRowOf
  foreignKeyRows schema table := select client (.foreignKeyRows schema table) [] foreignKeyRowOf

end RelProto.Postgresql
