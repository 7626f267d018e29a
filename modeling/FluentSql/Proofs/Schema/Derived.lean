import FluentSql.Proofs.Schema.Plan
import Mathlib.Data.List.Basic

/-!
# Derived names

An index of a new table is named after its column, and on PostgreSQL the constraint of a column
that is made unique is named after table and column with underscores between them. Neither
tells all tables and columns apart: the index of a column has one name in every table, and two
constraints have one name where the same words are cut at different underscores.
-/

namespace FluentSql

open SchemaPiece

/-! ## What a call adds -/

theorem TableDefinition.pieces_indexed (d : Dialect) (table : String) (items : List TableItem)
    (indexed more : List String) :
    pieces d ⟨table, items, indexed ++ more⟩ =
      pieces d ⟨table, items, indexed⟩ ++ more.flatMap (indexPieces table) := by
  simp only [pieces, List.flatMap_append, List.cons_append, List.append_assoc]

/-- The statement of an index, as it stands behind the one of its table. -/
def Dialect.createIndex (d : Dialect) (name table column : String) : String :=
  Text.concat [" CREATE INDEX ", d.quoteIdentifier name, " ON ", d.quoteIdentifier table, " (",
    d.quoteIdentifier column, ");"]

/-- The statement that makes a column unique under a name, as it stands behind another one. -/
def Dialect.addUnique (d : Dialect) (name table column : String) : String :=
  Text.concat ["; ", "ALTER TABLE ", d.quoteIdentifier table, " ", "ADD CONSTRAINT ",
    d.quoteIdentifier name, " UNIQUE (", d.quoteIdentifier column, ")"]

namespace SchemaPlan

/-- The plan is written as the other one, with `added` put in somewhere. -/
def Adds (d : Dialect) (added : String) (other plan : SchemaPlan) : Prop :=
  ∃ front back, other.sql d = .ok (front ++ back) ∧ plan.sql d = .ok (front ++ added ++ back)

variable {d : Dialect} {raw column text : String}

theorem adds_of_pieces {other plan : SchemaPlan} {front added back : List SchemaPiece}
    (h : plan.sql d = .ok text) (htable : other.table = plan.table)
    (hgoes : plan.Goes d → other.Goes d) (hother : other.pieces d = front ++ back)
    (hplan : plan.pieces d = front ++ (added ++ back)) :
    Adds d (renderAll d added) other plan := by
  obtain ⟨hname, hcalls, -⟩ := sql_ok_iff.mp h
  refine ⟨renderAll d front, renderAll d back,
    sql_ok_iff.mpr ⟨htable ▸ hname, hgoes hcalls, ?_⟩, sql_ok_iff.mpr ⟨hname, hcalls, ?_⟩⟩
  · rw [hother, renderAll_append]
  · rw [hplan, renderAll_append, renderAll_append, String.append_assoc]

/-- An index call is no condition on the other calls, and it adds no column. -/
theorem goes_without_index {before after : List TableCall}
    (h : (create raw (before ++ .index column :: after)).Goes d) :
    (create raw (before ++ after)).Goes d := by
  obtain ⟨hgoes, call, hcall, hcolumn⟩ := h
  rw [List.forall_mem_append, List.forall_mem_cons] at hgoes
  rw [List.mem_append, List.mem_cons] at hcall
  refine ⟨List.forall_mem_append.mpr ⟨hgoes.1, hgoes.2.2⟩, ?_⟩
  obtain hbefore | rfl | hafter := hcall
  · exact ⟨call, List.mem_append_left _ hbefore, hcolumn⟩
  · exact absurd hcolumn Bool.false_ne_true
  · exact ⟨call, List.mem_append_right _ hafter, hcolumn⟩

theorem adds_index {before after : List TableCall}
    (h : (create raw (before ++ .index column :: after)).sql d = .ok text) :
    Adds d (d.createIndex (TableDefinition.indexName column) (Text.trim raw) column)
      (create raw (before ++ after)) (create raw (before ++ .index column :: after)) := by
  have hwithout : (create raw (before ++ after)).pieces d =
      TableDefinition.pieces d ⟨Text.trim raw, (before ++ after).flatMap TableCall.items,
        before.flatMap TableCall.indexed⟩ ++
      (after.flatMap TableCall.indexed).flatMap (TableDefinition.indexPieces (Text.trim raw)) := by
    rw [pieces, ← TableDefinition.pieces_indexed, ← List.flatMap_append]
  have hwith : (create raw (before ++ .index column :: after)).pieces d =
      TableDefinition.pieces d ⟨Text.trim raw, (before ++ after).flatMap TableCall.items,
        before.flatMap TableCall.indexed⟩ ++
      (TableDefinition.indexPieces (Text.trim raw) column ++
        (after.flatMap TableCall.indexed).flatMap
          (TableDefinition.indexPieces (Text.trim raw))) := by
    have hitems : (before ++ .index column :: after).flatMap TableCall.items =
        (before ++ after).flatMap TableCall.items := by
      simp only [List.flatMap_append, List.flatMap_cons, TableCall.items, List.nil_append]
    have hindexed : (before ++ .index column :: after).flatMap TableCall.indexed =
        before.flatMap TableCall.indexed ++ column :: after.flatMap TableCall.indexed :=
      List.flatMap_append
    rw [pieces, hitems, hindexed, TableDefinition.pieces_indexed, List.flatMap_cons]
  have htext : renderAll d (TableDefinition.indexPieces (Text.trim raw) column) =
      d.createIndex (TableDefinition.indexName column) (Text.trim raw) column := rfl
  rw [← htext]
  exact adds_of_pieces h rfl goes_without_index hwithout hwith

/-- A call whose statements are those of another one and one more. -/
theorem adds_statement {call other : AlterationCall} {statement : List SchemaPiece}
    {before after : List AlterationCall}
    (hstatements : call.statements d (Text.trim raw) =
      other.statements d (Text.trim raw) ++ [statement])
    (hne : other.statements d (Text.trim raw) ≠ []) (hother : other.Goes d)
    (h : (alter raw (before ++ call :: after)).sql d = .ok text) :
    Adds d (renderAll d (.verbatim "; " :: statement)) (alter raw (before ++ other :: after))
      (alter raw (before ++ call :: after)) := by
  have hearlier : before.flatMap (AlterationCall.statements d (Text.trim raw)) ++
      other.statements d (Text.trim raw) ≠ [] := List.append_ne_nil_of_right_ne_nil _ hne
  have hcalls : (alter raw (before ++ call :: after)).Goes d →
      (alter raw (before ++ other :: after)).Goes d := by
    intro hgoes
    rw [Goes, List.forall_mem_append, List.forall_mem_cons] at hgoes ⊢
    exact ⟨hgoes.1, hother, hgoes.2.2⟩
  have hwithout : (alter raw (before ++ other :: after)).pieces d =
      separate "; " (before.flatMap (AlterationCall.statements d (Text.trim raw)) ++
        other.statements d (Text.trim raw)) ++
      led "; " (after.flatMap (AlterationCall.statements d (Text.trim raw))) := by
    rw [← separate_append "; " hearlier, pieces, List.flatMap_append, List.flatMap_cons,
      List.append_assoc]
  have hwith : (alter raw (before ++ call :: after)).pieces d =
      separate "; " (before.flatMap (AlterationCall.statements d (Text.trim raw)) ++
        other.statements d (Text.trim raw)) ++
      ((.verbatim "; " :: statement) ++
        led "; " (after.flatMap (AlterationCall.statements d (Text.trim raw)))) := by
    rw [led, ← List.flatMap_cons, ← led, ← separate_append "; " hearlier, pieces,
      List.flatMap_append, List.flatMap_cons, hstatements]
    simp only [List.append_assoc, List.cons_append, List.nil_append]
  exact adds_of_pieces h rfl hcalls hwithout hwith

theorem adds_unique {type : String} {o : ColumnOptions} {before after : List AlterationCall}
    (hunique : o.unique = true)
    (h : (alter raw (before ++ .modifyColumn column type o :: after)).sql .postgreSql = .ok text) :
    Adds .postgreSql
      (Dialect.postgreSql.addUnique (Alteration.uniqueName (Text.trim raw) column)
        (Text.trim raw) column)
      (alter raw (before ++ .modifyColumn column type { o with unique := false } :: after))
      (alter raw (before ++ .modifyColumn column type o :: after)) := by
  obtain ⟨nullable, initial, unique⟩ := o
  obtain rfl : unique = true := hunique
  let constraint := Alteration.alter (Text.trim raw) [.verbatim "ADD CONSTRAINT ",
    .identifier (Alteration.uniqueName (Text.trim raw) column), .verbatim " UNIQUE (",
    .identifier column, .verbatim ")"]
  have hstatements : (AlterationCall.modifyColumn column type ⟨nullable, initial, true⟩).statements
      .postgreSql (Text.trim raw) = (AlterationCall.modifyColumn column type
        ⟨nullable, initial, false⟩).statements .postgreSql (Text.trim raw) ++ [constraint] := by
    cases initial <;> rfl
  have htext : renderAll .postgreSql (.verbatim "; " :: constraint) =
      Dialect.postgreSql.addUnique (Alteration.uniqueName (Text.trim raw) column)
        (Text.trim raw) column := rfl
  rw [← htext]
  exact adds_statement hstatements (List.cons_ne_nil _ _) nofun h

end SchemaPlan

/-! ## When two names are the same -/

/-- A text with a mark can be cut at another place where it has the mark. -/
theorem append_cons_eq_iff {α : Type} {mark : α} {a b a' b' : List α} :
    a ++ mark :: b = a' ++ mark :: b' ↔ (a = a' ∧ b = b') ∨
      (∃ w, a' = a ++ mark :: w ∧ b = w ++ mark :: b') ∨
      ∃ w, a = a' ++ mark :: w ∧ b' = w ++ mark :: b := by
  constructor
  · intro h
    obtain ⟨w, ha, hb⟩ | ⟨w, ha, hb⟩ := List.append_eq_append_iff.mp h
    · cases w with
      | nil => exact .inl ⟨by simpa using ha.symm, (List.cons.inj hb).2⟩
      | cons c w =>
        obtain ⟨rfl, hrest⟩ := List.cons.inj hb
        exact .inr (.inl ⟨w, ha, hrest⟩)
    · cases w with
      | nil => exact .inl ⟨by simpa using ha, (List.cons.inj hb).2.symm⟩
      | cons c w =>
        obtain ⟨rfl, hrest⟩ := List.cons.inj hb
        exact .inr (.inr ⟨w, ha, hrest⟩)
  · rintro (⟨rfl, rfl⟩ | ⟨w, rfl, rfl⟩ | ⟨w, rfl, rfl⟩)
    · rfl
    · rw [List.append_assoc]
      rfl
    · rw [List.append_assoc]
      rfl

theorem TableDefinition.indexName_inj {column column' : String} :
    indexName column = indexName column' ↔ column = column' := by
  unfold indexName
  rw [← String.toList_inj, String.toList_append, String.toList_append, List.append_left_inj,
    String.toList_inj]

namespace Alteration

/-- The table of the second pair is longer by words that the column of the first one begins
with. -/
def Recut (table column table' column' : String) : Prop :=
  ∃ words, table' = table ++ "_" ++ words ∧ column = words ++ "_" ++ column'

theorem recut_iff {table column table' column' : String} :
    Recut table column table' column' ↔ ∃ words, table'.toList = table.toList ++ '_' :: words ∧
      column.toList = words ++ '_' :: column'.toList := by
  constructor
  · rintro ⟨words, rfl, rfl⟩
    exact ⟨words.toList, by simp, by simp⟩
  · rintro ⟨words, htable, hcolumn⟩
    refine ⟨String.ofList words, ?_, ?_⟩
    · rw [← String.toList_inj, htable]
      simp
    · rw [← String.toList_inj, hcolumn]
      simp

theorem Recut.ne {table column table' column' : String} (h : Recut table column table' column') :
    table ≠ table' ∧ column ≠ column' := by
  obtain ⟨words, htable, hcolumn⟩ := recut_iff.mp h
  constructor
  · rintro rfl
    exact absurd (congrArg List.length htable) (by simp)
  · rintro rfl
    exact absurd (congrArg List.length hcolumn) (by simp; omega)

theorem uniqueName_eq_iff {table column table' column' : String} :
    uniqueName table column = uniqueName table' column' ↔
      (table = table' ∧ column = column') ∨ Recut table column table' column' ∨
        Recut table' column' table column := by
  have hlists : ∀ table column : String, (uniqueName table column).toList =
      (table.toList ++ '_' :: column.toList) ++ "_unique".toList := by
    intro table column
    simp [uniqueName]
  rw [← String.toList_inj, hlists, hlists, List.append_left_inj, append_cons_eq_iff,
    String.toList_inj, String.toList_inj, recut_iff, recut_iff]

end Alteration

namespace SchemaPlan

/-- SQLite has no constraint to name, since it modifies no column. -/
theorem not_ok_modify_sqlite {raw column type text : String} {o : ColumnOptions}
    {calls : List AlterationCall} (hcall : .modifyColumn column type o ∈ calls) :
    (alter raw calls).sql .sqlite ≠ .ok text := by
  intro h
  obtain ⟨-, hgoes, -⟩ := sql_ok_iff.mp h
  exact hgoes _ hcall rfl

/-- An index call adds one statement, which names the index after the column, so two indexes have
one name exactly if they have one column, in whatever tables. A column that is made unique on
PostgreSQL adds one statement too, and two of these name one constraint exactly if table and
column are the same or are the same words cut at different underscores. -/
theorem derived_names_eq_iff :
    (∀ (d : Dialect) (raw column text : String) (before after : List TableCall),
        (create raw (before ++ .index column :: after)).sql d = .ok text →
        Adds d (d.createIndex (TableDefinition.indexName column) (Text.trim raw) column)
          (create raw (before ++ after)) (create raw (before ++ .index column :: after))) ∧
      (∀ column column' : String, TableDefinition.indexName column =
        TableDefinition.indexName column' ↔ column = column') ∧
      (∀ (raw column type text : String) (o : ColumnOptions) (before after : List AlterationCall),
        o.unique = true →
        (alter raw (before ++ .modifyColumn column type o :: after)).sql .postgreSql = .ok text →
        Adds .postgreSql
          (Dialect.postgreSql.addUnique (Alteration.uniqueName (Text.trim raw) column)
            (Text.trim raw) column)
          (alter raw (before ++ .modifyColumn column type { o with unique := false } :: after))
          (alter raw (before ++ .modifyColumn column type o :: after))) ∧
      (∀ (raw column type text : String) (o : ColumnOptions) (calls : List AlterationCall),
        .modifyColumn column type o ∈ calls → (alter raw calls).sql .sqlite ≠ .ok text) ∧
      (∀ table column table' column' : String, Alteration.uniqueName table column =
          Alteration.uniqueName table' column' ↔
        (table = table' ∧ column = column') ∨ Alteration.Recut table column table' column' ∨
          Alteration.Recut table' column' table column) ∧
      ∀ table column table' column' : String, Alteration.Recut table column table' column' →
        table ≠ table' ∧ column ≠ column' :=
  ⟨fun _ _ _ _ _ _ => adds_index, fun _ _ => TableDefinition.indexName_inj,
    fun _ _ _ _ _ _ _ => adds_unique, fun _ _ _ _ _ _ => not_ok_modify_sqlite,
    fun _ _ _ _ => Alteration.uniqueName_eq_iff, fun _ _ _ _ => Alteration.Recut.ne⟩

theorem derived_names_eq_iff_users :
    let plain : ColumnOptions := ⟨false, none, false⟩
    let calls : List TableCall := [.id] ++ .index "id" :: [.timestamps]
    let changes : List AlterationCall :=
      [.dropColumn "nick"] ++ .modifyColumn "role_id" "BIGINT" ⟨false, none, true⟩ :: []
    (∃ text, (create " user " calls).sql .sqlite = .ok text) ∧
      Adds .sqlite (Dialect.sqlite.createIndex (TableDefinition.indexName "id")
        (Text.trim " user ") "id") (create " user " [.id, .timestamps])
        (create " user " calls) ∧
      TableDefinition.indexName "id" ≠ TableDefinition.indexName "role_id" ∧
      (∃ text, (alter "user" changes).sql .postgreSql = .ok text) ∧
      Adds .postgreSql (Dialect.postgreSql.addUnique (Alteration.uniqueName (Text.trim "user")
        "role_id") (Text.trim "user") "role_id")
        (alter "user" [.dropColumn "nick", .modifyColumn "role_id" "BIGINT" plain])
        (alter "user" changes) ∧
      (alter "user" changes).sql .sqlite ≠ .ok "" ∧
      Alteration.uniqueName "user" "role_id" = Alteration.uniqueName "user_role" "id" ∧
      "user" ≠ "user_role" ∧ "role_id" ≠ "id" := by
  intro plain calls changes
  obtain ⟨hindex, hindexName, hunique, hsqlite, hname, hne⟩ := derived_names_eq_iff
  have hrecut : Alteration.Recut "user" "role_id" "user_role" "id" := ⟨"role", by decide, by decide⟩
  have hmember : .modifyColumn "role_id" "BIGINT" ⟨false, none, true⟩ ∈ changes :=
    List.mem_cons_of_mem _ List.mem_cons_self
  exact ⟨⟨_, rfl⟩, hindex _ " user " "id" _ [.id] [.timestamps] rfl,
    fun heq => absurd ((hindexName _ _).mp heq) (by decide), ⟨_, rfl⟩,
    hunique "user" "role_id" "BIGINT" _ ⟨false, none, true⟩ [.dropColumn "nick"] [] rfl rfl,
    hsqlite _ _ _ _ _ _ hmember, (hname _ _ _ _).mpr (.inr (.inl hrecut)),
    hne _ _ _ _ hrecut⟩

/-- One index name for two tables on one server, and one constraint name for two pairs of a
table and a column. -/
theorem derived_names_collide :
    let plain : ColumnOptions := ⟨false, none, false⟩
    let unique : ColumnOptions := ⟨false, none, true⟩
    (∀ d ∈ [Dialect.postgreSql, .sqlite], ∀ table ∈ ["posts", "comments"],
        Adds d (d.createIndex "user_id_index" table "user_id")
          (create table [.column .integer "user_id" plain])
          (create table [.column .integer "user_id" plain, .index "user_id"])) ∧
      Adds .postgreSql (Dialect.postgreSql.addUnique "user_role_id_unique" "user" "role_id")
        (alter "user" [.modifyColumn "role_id" "BIGINT" plain])
        (alter "user" [.modifyColumn "role_id" "BIGINT" unique]) ∧
      Adds .postgreSql (Dialect.postgreSql.addUnique "user_role_id_unique" "user_role" "id")
        (alter "user_role" [.modifyColumn "id" "BIGINT" plain])
        (alter "user_role" [.modifyColumn "id" "BIGINT" unique]) := by
  intro plain unique
  have hindex : ∀ (d : Dialect) (table text : String), Text.trim table = table →
      (create table ([.column .integer "user_id" plain] ++ .index "user_id" :: [])).sql d =
        .ok text →
      Adds d (d.createIndex "user_id_index" table "user_id")
        (create table ([.column .integer "user_id" plain] ++ []))
        (create table ([.column .integer "user_id" plain] ++ .index "user_id" :: [])) := by
    intro d table text htrim hsql
    have hadds := adds_index hsql
    rwa [htrim] at hadds
  have hunique : ∀ table column name text : String, Text.trim table = table →
      Alteration.uniqueName table column = name →
      (alter table ([] ++ .modifyColumn column "BIGINT" unique :: [])).sql .postgreSql = .ok text →
      Adds .postgreSql (Dialect.postgreSql.addUnique name table column)
        (alter table ([] ++ .modifyColumn column "BIGINT" plain :: []))
        (alter table ([] ++ .modifyColumn column "BIGINT" unique :: [])) := by
    intro table column name text htrim hname hsql
    have hadds := adds_unique rfl hsql
    rwa [htrim, hname] at hadds
  refine ⟨?_, hunique "user" "role_id" _ _ (by decide) (by decide) rfl,
    hunique "user_role" "id" _ _ (by decide) (by decide) rfl⟩
  simp only [List.forall_mem_cons, List.not_mem_nil, false_imp_iff, implies_true, and_true]
  exact ⟨⟨hindex _ "posts" _ (by decide) rfl, hindex _ "comments" _ (by decide) rfl⟩,
    hindex _ "posts" _ (by decide) rfl, hindex _ "comments" _ (by decide) rfl⟩

end SchemaPlan

end FluentSql
