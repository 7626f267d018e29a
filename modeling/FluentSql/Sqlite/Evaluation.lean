import FluentSql.Sqlite.Resolution

/-!
# Evaluating terms

The cell of a term at a row. Rows of the queries around come with it, the innermost first,
and in a query of aggregates all rows that were found.
-/

namespace FluentSql.Sqlite

/-- The row that terms without a table are taken at. -/
def nowhere : Entry :=
  ⟨0, []⟩

/-- Whether a condition is met. -/
def isMet (c : Cell) : Bool :=
  c.toTruth? == some true

/-- Whether a cell is one of several; unknown if it is none of them but one is NULL. -/
def memberTruth (affinity : Affinity) (collation : Collation) (c : Cell) (cells : List Cell) :
    Option Bool :=
  cells.foldl (fun found d =>
    orTruth found ((Cell.compare? affinity collation c d).map (· == .eq))) (some false)

/-- The order of rows by their keys, each with a collation and ascending or not. -/
def orderKeys : List (Collation × Bool) → List Cell → List Cell → Ordering
  | (collation, descends) :: modes, a :: as, b :: bs =>
    let o := Cell.order collation a b
    (if descends then o.swap else o).then (orderKeys modes as bs)
  | _, _, _ => .eq

/-- The rows behind the first `offset`, no more than `limit` of them unless that is
negative. -/
def page {α : Type} (limit offset : Int64) (rows : List α) : List α :=
  let rows := rows.drop offset.toInt.toNat
  if limit < 0 then rows else rows.take limit.toInt.toNat

/-- The rows that a query looks at, before the rows around it. -/
def candidates (scene : Scene) (rows : List Entry) : Option Origin → List (List Entry)
  | none => [rows]
  | some o =>
    match scene.tables.find? fun (t : Table) => t.name == o.table with
    | some t => t.entries.map (· :: rows)
    | none => []

namespace Expression

mutual

/-- The cell of a term at rows, unless a call in it fails. What is not looked up has none. -/
def eval (scene : Scene) (rows : List Entry) (group : List (List Entry)) :
    Expression → Option Cell
  | cell c => some c
  | number n => some n.cell
  | truth b => some (.ofTruth b)
  | name .. | star | invoke .. => none
  | column depth c => (rows[depth]?).map (·.cell c)
  | atKey e => do
    return .ofTruth ((← e.eval scene rows group).key? == (rows.head?.map (·.key)))
  | unary .negate (number n) => some n.negated
  | unary op e => (e.eval scene rows group).map op.apply
  | binary op l r => do
    let affinity := Affinity.common l.affinity? r.affinity?
    let collation := (l.collation?.or r.collation?).getD .binary
    let a ← l.eval scene rows group
    match op, r.asTruth? with
    | .is, some b => return .ofTruth (a.toTruth? == some b)
    | .isNot, some b => return .ofTruth (a.toTruth? != some b)
    | op, _ => return op.apply affinity collation a (← r.eval scene rows group)
  | choose c y n => do
    if isMet (← c.eval scene rows group) then y.eval scene rows group
    else n.eval scene rows group
  | cast a e => (e.eval scene rows group).map (Cell.cast a)
  | collate _ e => e.eval scene rows group
  | call .coalesce arguments => evalFirst scene rows group arguments
  | call f arguments => do f.apply scene (← evalAll scene rows group arguments)
  | aggregate f arguments => do
    f.apply (← group.mapM fun rows => evalAll scene rows [] arguments)
  | scalar q => do
    return ((← evalQuery scene rows q).head?.bind List.head?).getD .null
  | exist q => do return .ofTruth !(← evalQuery scene rows q).isEmpty
  | member e q => do
    let affinity := Affinity.common e.affinity? (scalar q).affinity?
    let c ← e.eval scene rows group
    let cells := (← evalQuery scene rows q).filterMap List.head?
    return .ofTruth? (memberTruth affinity (e.collation?.getD .binary) c cells)

def evalAll (scene : Scene) (rows : List Entry) (group : List (List Entry)) :
    List Expression → Option (List Cell)
  | [] => some []
  | e :: rest => do
    return (← e.eval scene rows group) :: (← evalAll scene rows group rest)

/-- The first cell that is not NULL; the terms behind it are not evaluated. -/
def evalFirst (scene : Scene) (rows : List Entry) (group : List (List Entry)) :
    List Expression → Option Cell
  | [] => some .null
  | e :: rest => do
    let c ← e.eval scene rows group
    if c.isNull then evalFirst scene rows group rest else return c

/-- The rows that a query yields. A query of aggregates yields one, with the columns of the
last row that was found. -/
def evalQuery (scene : Scene) (rows : List Entry) : Query → Option (List (List Cell))
  | .select terms _ origin condition keys descending limit offset => do
    let found ← (candidates scene rows origin).filterM fun rows =>
      (condition.eval scene rows []).map isMet
    let limit ← (← limit.eval scene [] []).key?
    let offset ← (← offset.eval scene [] []).key?
    if areAggregate terms then
      let last := found.getLast?.getD (nowhere :: rows)
      return page limit offset [← evalAll scene last found terms]
    else
      let yielded ← found.mapM fun rows => do
        return (← evalAll scene rows [] keys, ← evalAll scene rows [] terms)
      let modes := (keys.map fun e => e.collation?.getD .binary).zip descending
      let sorted := yielded.mergeSort fun a b => orderKeys modes a.1 b.1 != .gt
      return page limit offset (sorted.map (·.2))

end

end Expression

end FluentSql.Sqlite
