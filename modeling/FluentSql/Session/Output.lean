import FluentSql.Row.Basic
import FluentSql.Text.Case

/-!
# Statement kinds and outputs

A statement is classified by its first word. What comes back from a backend is brought
into one form per kind.
-/

namespace FluentSql

inductive StatementKind where
  | select | insert | update | delete | ddl | other
  deriving DecidableEq

namespace StatementKind

def label : StatementKind → String
  | select => "select"
  | insert => "insert"
  | update => "update"
  | delete => "delete"
  | ddl => "ddl"
  | other => "other"

def isLetter (c : Char) : Bool :=
  ('a' ≤ c && c ≤ 'z') || ('A' ≤ c && c ≤ 'Z')

/-- The first word in small letters, behind blanks and opening parentheses. -/
def verb (sql : String) : String :=
  let cs := sql.toList.dropWhile fun c => Text.isBlank c || c == '('
  Text.asciiLower (String.ofList (cs.takeWhile isLetter))

def classify (sql : String) : StatementKind :=
  match verb sql with
  | "select" => select
  | "with" => select
  | "insert" => insert
  | "update" => update
  | "delete" => delete
  | "create" => ddl
  | "alter" => ddl
  | "drop" => ddl
  | _ => other

end StatementKind

inductive Output where
  | rows (found : List Row)
  | insertId (id : Value)
  | affected (any : Bool)
  | done
  | other (n : Nat)

namespace Output

/-- The output of a statement of the kind, from its row count and generated id. -/
def ofCounts (kind : StatementKind) (affected : Nat) (lastId : Option Value) : Output :=
  match kind with
  | .insert => .insertId (lastId.getD .null)
  | .update | .delete => .affected (0 < affected)
  | .ddl => .done
  | .select => .rows []
  | .other => .other affected

def toRows : Output → List Row
  | .rows found => found
  | _ => []

/-- Whether the statement had an effect or a result. -/
def toBool : Output → Bool
  | .affected any => any
  | .done => true
  | .other n => 0 < n
  | .rows found => !found.isEmpty
  | .insertId id => !id.isNull

/-- The generated id, if there is one. -/
def insertId? : Output → Option Value
  | .insertId id => if id.isNull then none else some id
  | _ => none

/-- The column `count` of the first row; nothing counts as zero. -/
def count (o : Output) : Except Error Int64 :=
  match o.toRows with
  | row :: _ => row.get Int64 "count"
  | [] => .ok 0

/-- The shape of an output that is not a row set, for a diagnostic. -/
def inspect : Output → String
  | .rows _ => "Rows(..)"
  | .insertId id => "InsertId(" ++ id.inspect ++ ")"
  | .affected any => if any then "Affected(true)" else "Affected(false)"
  | .done => "Done"
  | .other n => "Other(" ++ natText n ++ ")"

def expectRows : Output → Except Error (List Row)
  | .rows found => .ok found
  | o => .error (.driver ("Expected a row set, got " ++ o.inspect))

end Output

end FluentSql
