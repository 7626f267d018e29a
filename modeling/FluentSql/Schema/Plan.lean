import FluentSql.Schema.Alteration

/-!
# Schema plans

A plan creates, changes or drops one table. Its text depends on the dialect alone.
-/

namespace FluentSql

inductive SchemaPlan where
  | create (table : String) (calls : List TableCall)
  | alter (table : String) (calls : List AlterationCall)
  | drop (table : String)

/-- Drops a table if it is there. -/
def dropTable (d : Dialect) (table : String) : Except Error String := do
  let table ← schemaTable table
  return SchemaPiece.renderAll d [.verbatim "DROP TABLE IF EXISTS ", .identifier table]

namespace SchemaPlan

def sql (d : Dialect) : SchemaPlan → Except Error String
  | .create table calls => do
    let t ← TableDefinition.start table
    let t ← t.applyAll calls
    t.sql d
  | .alter table calls => do
    let a ← Alteration.start table
    let a ← a.applyAll d calls
    return a.sql d
  | .drop table => dropTable d table

end SchemaPlan

end FluentSql
