import FluentSql.Proofs.Schema.Spelled

/-!
# The names in schema text

Whatever its names are made of, a plan writes each of them as one token, in the order of the
calls, and what stands around them follows from the calls alone. Only the types and the
defaults are copied as they come, so these have to be free of the mark that quotes names.
-/

namespace FluentSql

open SchemaPiece

/-! ## Calls without their names -/

def ForeignKey.unnamed (k : ForeignKey) : ForeignKey :=
  { k with table := "", column := "" }

def TableCall.unnamed : TableCall → TableCall
  | .column kind _ options => .column kind "" options
  | .foreign _ target => .foreign "" target.unnamed
  | .primary columns => .primary (columns.map fun _ => "")
  | .index _ => .index ""
  | call => call

def AlterationCall.unnamed : AlterationCall → AlterationCall
  | .addColumn _ type options => .addColumn "" type options
  | .modifyColumn _ type options => .modifyColumn "" type options
  | .dropColumn _ => .dropColumn ""
  | .addIndex _ columns => .addIndex "" (columns.map fun _ => "")
  | .dropIndex _ => .dropIndex ""
  | .addForeignKey _ _ target => .addForeignKey "" "" target.unnamed
  | .raise error => .raise error

/-- The plan with every name taken out, that of its table included. -/
def SchemaPlan.unnamed : SchemaPlan → SchemaPlan
  | .create _ calls => .create "" (calls.map TableCall.unnamed)
  | .alter _ calls => .alter "" (calls.map AlterationCall.unnamed)
  | .drop _ => .drop ""

/-! ## Names of a plan -/

/-- The names that a call gives between the parentheses. -/
def TableCall.names : TableCall → List String
  | .id => ["id"]
  | .timestamps => ["created_at", "updated_at"]
  | .softDeletes => ["deleted_at"]
  | .column _ name _ => [name]
  | .foreign referring target => [referring, target.table, target.column]
  | .primary columns => columns
  | .index _ => []
  | .raise _ => []

/-- The names of the index that a call asks for. -/
def TableCall.indexNames (table : String) : TableCall → List String
  | .index indexed => [indexed ++ "_index", table, indexed]
  | _ => []

/-- The names of a call that goes through. On PostgreSQL a column that is modified is named
once for each of its properties that is set. -/
def AlterationCall.names (d : Dialect) (table : String) : AlterationCall → List String
  | .addColumn name _ _ => [table, name]
  | .modifyColumn name _ options => match d with
    | .postgreSql => [table, name, table, name] ++
        (if options.initial.isSome then [table, name] else []) ++
        (if options.unique then [table, table ++ "_" ++ name ++ "_unique", name] else [])
    | _ => [table, name]
  | .dropColumn name => [table, name]
  | .addIndex name columns => name :: table :: columns
  | .dropIndex name => match d with
    | .mySql => [name, table]
    | _ => [name]
  | .addForeignKey name column target => [table, name, column, target.table, target.column]
  | .raise _ => []

namespace SchemaPlan

/-- The names of a plan in the order in which they are written. -/
def names (d : Dialect) : SchemaPlan → List String
  | .create table calls => Text.trim table :: calls.flatMap TableCall.names ++
      calls.flatMap (TableCall.indexNames (Text.trim table))
  | .alter table calls => calls.flatMap (AlterationCall.names d (Text.trim table))
  | .drop table => [Text.trim table]

end SchemaPlan

namespace SchemaPiece

/-- The names among the pieces. -/
def namesIn (pieces : List SchemaPiece) : List String :=
  pieces.filterMap name?

theorem namesIn_append (ps qs : List SchemaPiece) :
    namesIn (ps ++ qs) = namesIn ps ++ namesIn qs :=
  List.filterMap_append

@[simp]
theorem namesIn_verbatim (s : String) (ps : List SchemaPiece) :
    namesIn (.verbatim s :: ps) = namesIn ps := rfl

@[simp]
theorem namesIn_identifier (name : String) (ps : List SchemaPiece) :
    namesIn (.identifier name :: ps) = name :: namesIn ps := rfl

@[simp]
theorem namesIn_nil : namesIn [] = [] := rfl

theorem namesIn_separate (separator : String) (parts : List (List SchemaPiece)) :
    namesIn (separate separator parts) = parts.flatMap namesIn := by
  induction parts with
  | nil => rfl
  | cons part rest ih =>
    cases rest with
    | nil => exact (List.append_nil _).symm
    | cons next rest =>
      rw [separate_cons_cons, namesIn_append, namesIn_verbatim, ih]
      rfl

theorem namesIn_nameList (names : List String) : namesIn (nameList names) = names := by
  rw [nameList, namesIn_separate, List.flatMap_map]
  exact List.flatMap_singleton' names

theorem unnamed_separate (separator : String) (parts : List (List SchemaPiece)) :
    (separate separator parts).map unnamed =
      separate separator (parts.map (List.map unnamed)) := by
  induction parts with
  | nil => rfl
  | cons part rest ih =>
    cases rest with
    | nil => rfl
    | cons next rest =>
      rw [separate_cons_cons, List.map_append, List.map_cons, ih]
      rfl

/-- A comma list is known by its length but for the names in it. -/
theorem nameList_unnamed (names : List String) :
    (nameList (names.map fun _ => "")).map unnamed = (nameList names).map unnamed := by
  rw [nameList, nameList, unnamed_separate, unnamed_separate, List.map_map, List.map_map,
    List.map_map]
  rfl

end SchemaPiece

/-! ## Names in the order of the calls -/

theorem TableCall.namesIn_items (d : Dialect) (call : TableCall) :
    call.items.flatMap (fun item => namesIn (item.pieces d)) = call.names := by
  cases call with
  | primary columns =>
    cases columns with
    | nil => rfl
    | cons column columns =>
      rw [items, List.isEmpty_cons, if_neg Bool.false_ne_true, List.flatMap_singleton,
        TableItem.pieces, List.cons_append, namesIn_verbatim, namesIn_append, namesIn_nameList]
      exact List.append_nil _
  | _ => rfl

theorem TableCall.namesIn_indexed (table : String) (call : TableCall) :
    call.indexed.flatMap (fun column => namesIn (TableDefinition.indexPieces table column)) =
      call.indexNames table := by
  cases call <;> rfl

theorem AlterationCall.namesIn_statements {d : Dialect} {table : String} {call : AlterationCall}
    (hgoes : call.Goes d) :
    (call.statements d table).flatMap namesIn = call.names d table := by
  cases call with
  | modifyColumn name type o =>
    cases d with
    | mySql => rfl
    | sqlite => exact absurd rfl hgoes
    | postgreSql =>
      obtain ⟨nullable, initial, unique⟩ := o
      cases initial <;> cases unique <;> rfl
  | addIndex name columns =>
    cases columns with
    | nil => exact absurd rfl hgoes
    | cons column columns =>
      show namesIn (_ ++ nameList (column :: columns) ++ _) ++ [] = _
      rw [namesIn_append, namesIn_append, namesIn_nameList, List.append_nil]
      exact List.append_nil _
  | dropIndex name => cases d <;> rfl
  | addForeignKey name column target =>
    cases d with
    | mySql => rfl
    | sqlite => exact absurd rfl hgoes
    | postgreSql => rfl
  | raise error => exact hgoes.elim
  | addColumn name type o => rfl
  | dropColumn name => rfl

theorem SchemaPlan.namesIn_pieces {d : Dialect} {plan : SchemaPlan} (hgoes : plan.Goes d) :
    namesIn (plan.pieces d) = plan.names d := by
  cases plan with
  | create table calls =>
    have hitems : (calls.flatMap TableCall.items).flatMap
        (fun item => namesIn (item.pieces d)) = calls.flatMap TableCall.names := by
      rw [List.flatMap_assoc]
      exact List.flatMap_congr fun call _ => call.namesIn_items d
    have hindexed : namesIn ((calls.flatMap TableCall.indexed).flatMap
        (TableDefinition.indexPieces (Text.trim table))) =
          calls.flatMap (TableCall.indexNames (Text.trim table)) := by
      rw [namesIn, List.filterMap_flatMap, List.flatMap_assoc]
      exact List.flatMap_congr fun call _ => call.namesIn_indexed (Text.trim table)
    rw [pieces, TableDefinition.pieces, List.cons_append, List.cons_append, List.cons_append,
      namesIn_verbatim, namesIn_identifier, namesIn_verbatim, namesIn_append, namesIn_separate,
      namesIn_verbatim, List.flatMap_map, hitems, hindexed]
    rfl
  | alter table calls =>
    rw [pieces, namesIn_separate, List.flatMap_assoc]
    exact List.flatMap_congr fun call hcall => call.namesIn_statements (hgoes call hcall)
  | drop table => rfl

/-! ## Calls that differ in names alone -/

theorem TableCall.goes_unnamed (call : TableCall) : call.unnamed.Goes ↔ call.Goes := by
  cases call <;> exact Iff.rfl

theorem TableCall.items_unnamed (d : Dialect) (call : TableCall) :
    call.unnamed.items.map (fun item => (item.pieces d).map SchemaPiece.unnamed) =
      call.items.map (fun item => (item.pieces d).map SchemaPiece.unnamed) := by
  cases call with
  | primary columns =>
    cases columns with
    | nil => rfl
    | cons column columns =>
      have hpieces : ∀ names, (TableItem.pieces d (.primary names)).map SchemaPiece.unnamed =
          .verbatim "PRIMARY KEY (" ::
            ((nameList names).map SchemaPiece.unnamed ++ [.verbatim ")"]) := by
        intro names
        rw [TableItem.pieces, List.cons_append, List.map_cons, List.map_append]
        rfl
      show [(TableItem.pieces d (.primary ((column :: columns).map fun _ => ""))).map _] =
        [(TableItem.pieces d (.primary (column :: columns))).map _]
      rw [hpieces, hpieces, nameList_unnamed]
  | _ => rfl

theorem TableCall.anyColumn_unnamed (call : TableCall) :
    call.unnamed.items.any TableItem.isColumn = call.items.any TableItem.isColumn := by
  cases call with
  | primary columns => cases columns <;> rfl
  | _ => rfl

theorem TableCall.indexed_unnamed (table : String) (call : TableCall) :
    (call.unnamed.indexed.flatMap (TableDefinition.indexPieces "")).map SchemaPiece.unnamed =
      (call.indexed.flatMap (TableDefinition.indexPieces table)).map SchemaPiece.unnamed := by
  cases call <;> rfl

theorem AlterationCall.goes_unnamed (d : Dialect) (call : AlterationCall) :
    call.unnamed.Goes d ↔ call.Goes d := by
  cases call with
  | addIndex name columns => exact not_congr List.map_eq_nil_iff
  | _ => exact Iff.rfl

theorem AlterationCall.statements_unnamed (d : Dialect) (table : String) (call : AlterationCall) :
    (call.unnamed.statements d "").map (List.map SchemaPiece.unnamed) =
      (call.statements d table).map (List.map SchemaPiece.unnamed) := by
  cases call with
  | modifyColumn name type o =>
    obtain ⟨nullable, initial, unique⟩ := o
    cases d <;> cases initial <;> cases unique <;> rfl
  | addIndex name columns =>
    cases columns with
    | nil => rfl
    | cons column columns =>
      have hnames := nameList_unnamed (column :: columns)
      show [(_ ++ nameList ((column :: columns).map fun _ => "") ++ _).map _] =
        [(_ ++ nameList (column :: columns) ++ _).map _]
      rw [List.map_append, List.map_append, List.map_append, List.map_append, hnames]
      rfl
  | dropIndex name => cases d <;> rfl
  | addForeignKey name column target => cases d <;> rfl
  | _ => rfl

namespace SchemaPlan

theorem goes_unnamed (d : Dialect) (plan : SchemaPlan) : plan.unnamed.Goes d ↔ plan.Goes d := by
  cases plan with
  | create table calls =>
    exact goes_create_map TableCall.goes_unnamed TableCall.anyColumn_unnamed d table "" calls
  | alter table calls =>
    simp only [unnamed, Goes, List.forall_mem_map, AlterationCall.goes_unnamed]
  | drop table => exact Iff.rfl

theorem pieces_unnamed (d : Dialect) (plan : SchemaPlan) :
    (plan.unnamed.pieces d).map SchemaPiece.unnamed =
      (plan.pieces d).map SchemaPiece.unnamed := by
  cases plan with
  | create table calls =>
    have hitems : ((calls.map TableCall.unnamed).flatMap TableCall.items).map
          (fun item => (item.pieces d).map SchemaPiece.unnamed) =
        (calls.flatMap TableCall.items).map
          (fun item => (item.pieces d).map SchemaPiece.unnamed) := by
      rw [List.flatMap_map, List.map_flatMap, List.map_flatMap]
      exact List.flatMap_congr fun call _ => call.items_unnamed d
    have hlist : (separate ", " (((calls.map TableCall.unnamed).flatMap TableCall.items).map
          (TableItem.pieces d))).map SchemaPiece.unnamed =
        (separate ", " ((calls.flatMap TableCall.items).map
          (TableItem.pieces d))).map SchemaPiece.unnamed := by
      rw [unnamed_separate, unnamed_separate, List.map_map, List.map_map]
      exact congrArg (separate ", ") hitems
    have hindexed : (((calls.map TableCall.unnamed).flatMap TableCall.indexed).flatMap
          (TableDefinition.indexPieces "")).map SchemaPiece.unnamed =
        ((calls.flatMap TableCall.indexed).flatMap
          (TableDefinition.indexPieces (Text.trim table))).map SchemaPiece.unnamed := by
      rw [List.flatMap_map, List.flatMap_assoc, List.flatMap_assoc, List.map_flatMap,
        List.map_flatMap]
      exact List.flatMap_congr fun call _ => call.indexed_unnamed (Text.trim table)
    have hnone : Text.trim "" = "" := by decide
    simp only [unnamed, pieces, TableDefinition.pieces, List.cons_append, List.map_cons,
      List.map_append, hnone, hlist, hindexed]
    rfl
  | alter table calls =>
    have hnone : Text.trim "" = "" := by decide
    rw [unnamed, pieces, pieces, unnamed_separate, unnamed_separate, List.flatMap_map,
      List.map_flatMap, List.map_flatMap, hnone]
    exact congrArg (separate "; ") (List.flatMap_congr fun call _ =>
      call.statements_unnamed d (Text.trim table))
  | drop table => rfl

theorem fragments_unnamed (plan : SchemaPlan) : plan.unnamed.fragments = plan.fragments := by
  cases plan with
  | create table calls =>
    rw [unnamed, fragments, List.flatMap_map]
    exact List.flatMap_congr fun call _ => by cases call <;> rfl
  | alter table calls =>
    rw [unnamed, fragments, List.flatMap_map]
    exact List.flatMap_congr fun call _ => by cases call <;> rfl
  | drop table => rfl

/-- The mark of identifiers stands in no word of the grammar. -/
theorem kept_unmarked (d : Dialect) : Kept fun s => d.identifierQuote ∉ s.toList where
  bare hs := hs.notMem (by cases d <;> decide)
  append hs ht hmark := by
    rw [String.toList_append, List.mem_append] at hmark
    exact hmark.elim hs ht

/-- The text of a plan is read token by token: the names are those of the calls in their
order, and any other names give a text that differs in the names alone. -/
theorem schemaTokens_sql {d : Dialect} {plan : SchemaPlan} {text : String}
    (hsql : plan.sql d = .ok text)
    (hfragments : ∀ s ∈ plan.fragments, d.identifierQuote ∉ s.toList) :
    ∃ tokens, d.schemaTokens text = some tokens ∧
      tokens.filterMap SchemaToken.name? = plan.names d ∧
      ∀ renamed : SchemaPlan, renamed.unnamed = plan.unnamed → Text.trim renamed.table ≠ "" →
        ∃ renamedText renamedTokens, renamed.sql d = .ok renamedText ∧
          d.schemaTokens renamedText = some renamedTokens ∧
          renamedTokens.map SchemaToken.unnamed = tokens.map SchemaToken.unnamed := by
  have hkept := kept_unmarked d
  obtain ⟨_, hgoes, rfl⟩ := sql_ok_iff.mp hsql
  refine ⟨_, schemaTokens_renderAll (spelled_pieces hkept hfragments), ?_, ?_⟩
  · rw [filterMap_tokens]
    exact namesIn_pieces hgoes
  · intro renamed hcalls hname
    have hrenamedGoes : renamed.Goes d := by
      rw [← goes_unnamed, hcalls, goes_unnamed]
      exact hgoes
    have hrenamedFragments : renamed.fragments = plan.fragments := by
      rw [← fragments_unnamed, hcalls, fragments_unnamed]
    rw [← hrenamedFragments] at hfragments
    refine ⟨_, _, sql_ok_iff.mpr ⟨hname, hrenamedGoes, rfl⟩,
      schemaTokens_renderAll (spelled_pieces hkept hfragments), ?_⟩
    rw [unnamed_tokens, unnamed_tokens, ← pieces_unnamed d renamed, hcalls, pieces_unnamed]

/-- A table of one column, which has an index. -/
def indexedTable (table column : String) : SchemaPlan :=
  .create table [.column .text column ⟨true, some "0", false⟩, .index column]

/-- A column whose name tries to close the table and to comment out the rest. -/
theorem schemaTokens_sql_hostile :
    ∃ text, (indexedTable " t " "a\"); --").sql .postgreSql = .ok text ∧
      (∀ s ∈ (indexedTable " t " "a\"); --").fragments, '"' ∉ s.toList) ∧
      ∃ tokens, Dialect.schemaTokens .postgreSql text = some tokens ∧
        tokens.filterMap SchemaToken.name? =
          ["t", "a\"); --", "a\"); --_index", "t", "a\"); --"] ∧
        ∃ renamedText renamedTokens,
          (indexedTable "u" "").sql .postgreSql = .ok renamedText ∧
          Dialect.schemaTokens .postgreSql renamedText = some renamedTokens ∧
          renamedTokens.map SchemaToken.unnamed = tokens.map SchemaToken.unnamed := by
  have hsql : (indexedTable " t " "a\"); --").sql .postgreSql =
      .ok ("CREATE TABLE \"t\" (\"a\"\"); --\" TEXT NULL DEFAULT 0); " ++
        "CREATE INDEX \"a\"\"); --_index\" ON \"t\" (\"a\"\"); --\");") := by rfl
  have hfragments : ∀ s ∈ (indexedTable " t " "a\"); --").fragments, '"' ∉ s.toList := by decide
  obtain ⟨tokens, htokens, hnames, hrenamed⟩ := schemaTokens_sql hsql hfragments
  exact ⟨_, hsql, hfragments, tokens, htokens, hnames,
    hrenamed (indexedTable "u" "") rfl (by decide)⟩

end SchemaPlan

end FluentSql
