import FluentSql.Proofs.Query.Linked
import FluentSql.Proofs.Text.Name

/-!
# States of names

States whose names consist of word characters and points. The strings that joins compare
with and the values are arbitrary. The clauses of such a state are readable, and its
statements consist of closed fragments.
-/

namespace FluentSql

open FluentSql.Text

structure Join.Worded (j : Join) : Prop where
  table : Dotted j.target.table
  aliasName : ∀ name ∈ j.target.aliasName, Dotted name
  on : ∀ c ∈ j.on, Dotted c.column
  indexHints : ∀ name ∈ j.indexHints, Dotted name

/-- Every name of the state consists of word characters and points. -/
structure QueryState.Worded (q : QueryState) : Prop where
  table : Dotted q.table
  fields : ∀ c ∈ q.fields, Dotted c
  conditions : ∀ clause ∈ q.conditions.clauses, Dotted clause.predicate.column
  joins : ∀ j ∈ q.joins, j.Worded
  groupBy : ∀ c ∈ q.groupBy, Dotted c
  having : ∀ clause ∈ q.having.clauses, Dotted clause.predicate.column
  orderBy : ∀ o ∈ q.orderBy, Dotted o.column
  indexHints : ∀ name ∈ q.indexHints, Dotted name

theorem Text.Dotted.free {s : String} (h : Dotted s) : Free s :=
  h.plain.2

theorem Text.Dotted.closed {s : String} (h : Dotted s) : Closed s :=
  h.free.closed

theorem Join.Within.plain_of_worded {V : Vocabulary} {j : Join} (h : j.Within V)
    (hj : j.Worded) : j.Within .plain where
  target := ⟨hj.table.free, fun name hname => (hj.aliasName name hname).free⟩
  on c hc := ⟨(hj.on c hc).closed, (h.on c hc).operand⟩
  indexHints name hname := (hj.indexHints name hname).closed

/-- A state of names, however it was built, keeps to the plain vocabulary. -/
theorem QueryState.Within.plain_of_worded {V : Vocabulary} {q : QueryState} (h : q.Within V)
    (hq : q.Worded) : q.Within .plain where
  table := hq.table.free
  fields c hc := (hq.fields c hc).closed
  conditions clause hm := (h.conditions clause hm).plain (hq.conditions clause hm).plain
  joins j hj := (h.joins j hj).plain_of_worded (hq.joins j hj)
  groupBy c hc := (hq.groupBy c hc).closed
  having clause hm := (h.having clause hm).plain (hq.having clause hm).plain
  orderBy o ho := (hq.orderBy o ho).closed
  indexHints name hname := (hq.indexHints name hname).closed

end FluentSql
