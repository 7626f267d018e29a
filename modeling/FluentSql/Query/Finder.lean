import FluentSql.Query.Basic

/-!
# Model look-ups

The usual queries of a model by its id or by one column.
-/

namespace FluentSql.Model

def all (m : Model) (d : Dialect) : Session (List Instance) := do
  let q ← Session.ofExcept (Query.ofModel d m)
  q.get Instance

/-- The query of the rows whose column has the value. -/
def matching (m : Model) (d : Dialect) (column : String) (value : Value) :
    Except Error Query := do
  let q ← Query.ofModel d m
  q.apply (.filter .where_ .and (.equals column value))

/-- The first row whose column has the value. -/
def firstWhere (m : Model) (d : Dialect) (column : String) (value : Value) :
    Session (Option Instance) := do
  let q ← Session.ofExcept (m.matching d column value)
  q.first Instance

/-- The row with the id; there is none for NULL, and nothing is asked. -/
def find (m : Model) (d : Dialect) (id : Value) : Session (Option Instance) :=
  if id.isNull then pure none else m.firstWhere d "id" id

def findOrFail (m : Model) (d : Dialect) (id : Value) : Session Instance := do
  match ← m.find d id with
  | some x => return x
  | none => Session.fail (.doesNotExist (m.table ++ " not found with id: " ++ id.toText))

def create (m : Model) (d : Dialect) (data : Record) : Session Value := do
  let q ← Session.ofExcept (Query.ofModel d m)
  q.insert data true

/-- Updates the row with the id; nothing is asked for NULL. -/
def updateById (m : Model) (d : Dialect) (id : Value) (data : Record) : Session Bool :=
  if id.isNull then pure false
  else do
    let q ← Session.ofExcept (m.matching d "id" id)
    q.update data

end FluentSql.Model
