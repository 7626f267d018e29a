import FluentSql.Proofs.Schema.Plan
import FluentSql.Proofs.Schema.Token

/-!
# How a plan is spelled

A plan copies the words of the grammar of schema text and, as they come, the types and the
defaults of its calls. What holds of all these, and of two texts together if of each, holds
of every text that is copied, and no two names of a plan touch.
-/

namespace FluentSql

open SchemaPiece

namespace SchemaPiece

variable {P : String → Prop} {ps qs : List SchemaPiece}

/-- Text that is not empty keeps apart what stands before and behind it. -/
theorem Spelled.append (hps : Spelled P ps) {s : String} (hs : P s) (hne : s ≠ "")
    (hqs : Spelled P qs) : Spelled P (ps ++ .verbatim s :: qs) := by
  induction hps with
  | nil => exact .copied hs hqs
  | name name => exact .named name hs hne hqs
  | copied ht _ ih => exact .copied ht ih
  | named name ht htne _ ih => exact .named name ht htne ih

theorem spelled_separate {separator : String} (hseparator : P separator) (hne : separator ≠ "")
    {parts : List (List SchemaPiece)} (h : ∀ part ∈ parts, Spelled P part) :
    Spelled P (separate separator parts) := by
  induction parts with
  | nil => exact .nil
  | cons part rest ih =>
    have hpart := h part List.mem_cons_self
    have hrest := ih fun other hother => h other (List.mem_cons_of_mem part hother)
    cases rest with
    | nil => exact hpart
    | cons next rest => exact hpart.append hseparator hne hrest

theorem spelled_nameList (hcomma : P ", ") (names : List String) :
    Spelled P (nameList names) := by
  refine spelled_separate hcomma (by decide) fun part hpart => ?_
  obtain ⟨name, _, rfl⟩ := List.mem_map.mp hpart
  exact .name name

end SchemaPiece

def TableCall.fragments : TableCall → List String
  | .column _ _ options => options.initial.toList
  | _ => []

def AlterationCall.fragments : AlterationCall → List String
  | .addColumn _ type options => type :: options.initial.toList
  | .modifyColumn _ type options => type :: options.initial.toList
  | _ => []

/-- The types and defaults that are copied as the calls give them. -/
def SchemaPlan.fragments : SchemaPlan → List String
  | .create _ calls => calls.flatMap TableCall.fragments
  | .alter _ calls => calls.flatMap AlterationCall.fragments
  | .drop _ => []

/-- Free of quotation marks of every kind and of placeholders. -/
def Bare (s : String) : Prop :=
  s.toList.all (fun c => !(['\'', '"', '\x60', '?'].contains c)) = true

instance (s : String) : Decidable (Bare s) :=
  inferInstanceAs (Decidable (_ = true))

theorem Bare.notMem {s : String} (h : Bare s) {c : Char}
    (hc : ['\'', '"', '\x60', '?'].contains c = true) : c ∉ s.toList := by
  intro hmem
  have hnone := List.all_eq_true.mp h c hmem
  rw [hc] at hnone
  exact Bool.false_ne_true hnone

/-- Holds of what the grammar of schema text writes by itself, and of two texts together. -/
structure Kept (P : String → Prop) : Prop where
  bare : ∀ {s : String}, Bare s → P s
  append : ∀ {s t : String}, P s → P t → P (s ++ t)

section Kept

variable {P : String → Prop} (hP : Kept P)
include hP

theorem Kept.grammar {s : String} (hs : Bare s) {ps : List SchemaPiece} (h : Spelled P ps) :
    Spelled P (.verbatim s :: ps) :=
  .copied (hP.bare hs) h

/-- A name between words of the grammar. -/
theorem Kept.around {s t : String} (hs : Bare s) (name : String) (ht : Bare t) (hne : t ≠ "")
    {ps : List SchemaPiece} (h : Spelled P ps) :
    Spelled P (.verbatim s :: .identifier name :: .verbatim t :: ps) :=
  hP.grammar hs (.named name (hP.bare ht) hne h)

theorem ColumnOptions.kept_sql {o : ColumnOptions} (h : ∀ s ∈ o.initial.toList, P s) :
    P o.sql := by
  have hnull : P (if o.nullable then " NULL" else " NOT NULL") := by
    split <;> exact hP.bare (by decide)
  have hunique : P (if o.unique then " UNIQUE" else "") := by
    split <;> exact hP.bare (by decide)
  refine hP.append (hP.append hnull ?_) hunique
  cases hinitial : o.initial? with
  | none => exact hP.bare (by decide)
  | some expression =>
    have hgiven : o.initial = some expression := (Option.filter_eq_some_iff.mp hinitial).1
    exact hP.append (hP.bare (by decide)) (h expression (Option.mem_toList.mpr hgiven))

theorem ColumnDefinition.kept_typed (d : Dialect) (type : ColumnType) {o : ColumnOptions}
    (h : ∀ s ∈ o.initial.toList, P s) : P (ColumnDefinition.sql d (.typed type o)) := by
  refine hP.append (hP.bare ?_) (o.kept_sql hP h)
  cases d <;> cases type <;> decide

theorem ForeignKey.spelled_pieces (k : ForeignKey) : Spelled P k.pieces := by
  have haction : ∀ (lead : String) (action : Option ReferentialAction), Bare lead →
      P (actionText lead action) := by
    intro lead action hlead
    cases action with
    | none => exact hP.bare (s := "") (by decide)
    | some action =>
      refine hP.append (hP.bare hlead) (hP.bare ?_)
      cases action <;> decide
  have hend : P (")" ++ actionText " ON DELETE " k.onDelete ++
      actionText " ON UPDATE " k.onUpdate) :=
    hP.append (hP.append (hP.bare (by decide)) (haction _ _ (by decide)))
      (haction _ _ (by decide))
  exact hP.around (by decide) k.table (by decide) (by decide)
    (.named k.column hend (by simp) .nil)

theorem TableItem.spelled_column {d : Dialect} (name : String) {definition : ColumnDefinition}
    (h : P (definition.sql d)) : Spelled P (pieces d (.column name definition)) :=
  .named name (hP.append (hP.bare (by decide)) h) (by simp) .nil

theorem TableCall.spelled_items {d : Dialect} {call : TableCall}
    (h : ∀ s ∈ call.fragments, P s) : ∀ item ∈ call.items, Spelled P (item.pieces d) := by
  cases call with
  | id =>
    refine List.forall_mem_singleton.mpr (TableItem.spelled_column hP _ (hP.bare ?_))
    cases d <;> decide
  | timestamps =>
    refine List.forall_mem_cons.mpr ⟨TableItem.spelled_column hP _ (hP.bare ?_),
      List.forall_mem_singleton.mpr (TableItem.spelled_column hP _ (hP.bare ?_))⟩
    · cases d <;> decide
    · cases d <;> decide
  | softDeletes =>
    refine List.forall_mem_singleton.mpr (TableItem.spelled_column hP _ (hP.bare ?_))
    cases d <;> decide
  | column type name options =>
    exact List.forall_mem_singleton.mpr (TableItem.spelled_column hP name
      (ColumnDefinition.kept_typed hP d type h))
  | foreign referring target =>
    exact List.forall_mem_singleton.mpr (hP.around (by decide) referring (by decide) (by decide)
      (target.spelled_pieces hP))
  | primary columns =>
    intro item hitem
    cases columns with
    | nil => cases hitem
    | cons column columns =>
      obtain rfl := List.mem_singleton.mp hitem
      have hnames := spelled_nameList (hP.bare (by decide)) (column :: columns)
      exact hP.grammar (by decide) (hnames.append (hP.bare (by decide)) (by decide) .nil)
  | index indexed => exact List.forall_mem_nil _
  | raise error => exact List.forall_mem_nil _

theorem TableDefinition.spelled_pieces {d : Dialect} {t : TableDefinition}
    (h : ∀ item ∈ t.items, Spelled P (item.pieces d)) : Spelled P (t.pieces d) := by
  have hindexes : ∀ columns : List String,
      Spelled P (columns.flatMap (indexPieces t.table)) := by
    intro columns
    induction columns with
    | nil => exact .nil
    | cons column columns ih =>
      exact hP.around (by decide) (indexName column) (by decide) (by decide)
        (.named t.table (hP.bare (by decide)) (by decide)
          (.named column (hP.bare (by decide)) (by decide) ih))
  have hitems : Spelled P (separate ", " (t.items.map (TableItem.pieces d))) := by
    refine spelled_separate (hP.bare (by decide)) (by decide) fun part hpart => ?_
    obtain ⟨item, hitem, rfl⟩ := List.mem_map.mp hpart
    exact h item hitem
  exact hP.around (by decide) t.table (by decide) (by decide)
    (hitems.append (hP.bare (by decide)) (by decide) (hindexes t.indexed))

namespace Alteration

theorem spelled_alter (table : String) {action : List SchemaPiece} (h : Spelled P action) :
    Spelled P (alter table action) :=
  hP.around (by decide) table (by decide) (by decide) h

theorem spelled_alter_onColumn (table name : String) {lead rest : String} (hlead : Bare lead)
    (hrest : P rest) (hne : rest ≠ "") :
    Spelled P (alter table (onColumn lead name rest)) :=
  spelled_alter hP table (hP.grammar hlead (.named name hrest hne .nil))

theorem spelled_propertyChanges (table name : String) {type : String} {o : ColumnOptions}
    (htype : P type) (hinitial : ∀ s ∈ o.initial.toList, P s) :
    ∀ statement ∈ propertyChanges table name type o, Spelled P statement := by
  have hchange : ∀ rest, P rest → rest ≠ "" →
      Spelled P (alter table (onColumn "ALTER COLUMN " name rest)) :=
    fun rest => spelled_alter_onColumn hP table name (by decide)
  intro statement hstatement
  rcases List.mem_append.mp hstatement with hstatement | hunique
  · rcases List.mem_append.mp hstatement with hstatement | hdefault
    · rcases List.mem_pair.mp hstatement with rfl | rfl
      · exact hchange _ (hP.append (hP.bare (by decide)) htype) (by simp)
      · refine hchange _ (hP.bare ?_) ?_
        · split <;> decide
        · split <;> decide
    · cases hgiven : o.initial with
      | none =>
        rw [hgiven] at hdefault
        cases hdefault
      | some expression =>
        rw [hgiven] at hdefault
        obtain rfl := List.mem_singleton.mp hdefault
        have hexpression := hinitial expression (Option.mem_toList.mpr hgiven)
        exact hchange _ (hP.append (hP.bare (by decide)) hexpression) (by simp)
  · split at hunique
    · obtain rfl := List.mem_singleton.mp hunique
      exact spelled_alter hP table (hP.around (by decide) _ (by decide) (by decide)
        (.named name (hP.bare (by decide)) (by decide) .nil))
    · cases hunique

end Alteration

theorem AlterationCall.spelled_statements {d : Dialect} {table : String} {call : AlterationCall}
    (h : ∀ s ∈ call.fragments, P s) :
    ∀ statement ∈ call.statements d table, Spelled P statement := by
  have hdefinition : ∀ lead (name type : String) (o : ColumnOptions), Bare lead →
      (∀ s ∈ type :: o.initial.toList, P s) → Spelled P
        (Alteration.alter table (Alteration.onColumn lead name (" " ++ type ++ o.sql))) := by
    intro lead name type o hlead hgiven
    obtain ⟨htype, hinitial⟩ := List.forall_mem_cons.mp hgiven
    refine Alteration.spelled_alter_onColumn hP table name hlead ?_ (by simp)
    exact hP.append (hP.append (hP.bare (by decide)) htype) (o.kept_sql hP hinitial)
  cases call with
  | addColumn name type o =>
    exact List.forall_mem_singleton.mpr (hdefinition _ name type o (by decide) h)
  | modifyColumn name type o =>
    cases d with
    | mySql => exact List.forall_mem_singleton.mpr (hdefinition _ name type o (by decide) h)
    | sqlite => exact List.forall_mem_nil _
    | postgreSql =>
      obtain ⟨htype, hinitial⟩ := List.forall_mem_cons.mp h
      exact Alteration.spelled_propertyChanges hP table name htype hinitial
  | dropColumn name =>
    exact List.forall_mem_singleton.mpr
      (Alteration.spelled_alter hP table (hP.grammar (by decide) (.name name)))
  | addIndex name columns =>
    intro statement hstatement
    cases columns with
    | nil => cases hstatement
    | cons column columns =>
      obtain rfl := List.mem_singleton.mp hstatement
      have hnames := spelled_nameList (hP.bare (by decide)) (column :: columns)
      rw [List.append_assoc]
      exact hP.around (by decide) name (by decide) (by decide)
        (.named table (hP.bare (by decide)) (by decide)
          (hnames.append (hP.bare (by decide)) (by decide) .nil))
  | dropIndex name =>
    refine List.forall_mem_singleton.mpr ?_
    cases d with
    | mySql => exact hP.around (by decide) name (by decide) (by decide) (.name table)
    | postgreSql => exact hP.grammar (by decide) (.name name)
    | sqlite => exact hP.grammar (by decide) (.name name)
  | addForeignKey name column target =>
    have hkey : Spelled P (Alteration.alter table (.verbatim "ADD CONSTRAINT " ::
        .identifier name :: .verbatim " FOREIGN KEY (" :: .identifier column ::
        .verbatim ") " :: target.pieces)) :=
      Alteration.spelled_alter hP table (hP.around (by decide) name (by decide) (by decide)
        (.named column (hP.bare (by decide)) (by decide) (target.spelled_pieces hP)))
    cases d with
    | sqlite => exact List.forall_mem_nil _
    | mySql => exact List.forall_mem_singleton.mpr hkey
    | postgreSql => exact List.forall_mem_singleton.mpr hkey
  | raise error => exact List.forall_mem_nil _

/-- All that a plan copies is grammar or stands in a call, and names are kept apart by it. -/
theorem SchemaPlan.spelled_pieces {d : Dialect} {plan : SchemaPlan}
    (h : ∀ s ∈ plan.fragments, P s) : Spelled P (plan.pieces d) := by
  cases plan with
  | create table calls =>
    refine TableDefinition.spelled_pieces hP fun item hitem => ?_
    obtain ⟨call, hcall, hitem⟩ := List.mem_flatMap.mp hitem
    exact call.spelled_items hP (fun s hs => h s (List.mem_flatMap_of_mem hcall hs)) item hitem
  | alter table calls =>
    refine spelled_separate (hP.bare (by decide)) (by decide) fun statement hstatement => ?_
    obtain ⟨call, hcall, hstatement⟩ := List.mem_flatMap.mp hstatement
    exact call.spelled_statements hP (fun s hs => h s (List.mem_flatMap_of_mem hcall hs))
      statement hstatement
  | drop table => exact hP.grammar (by decide) (.name _)

end Kept

end FluentSql
