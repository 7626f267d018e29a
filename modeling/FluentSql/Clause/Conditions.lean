import FluentSql.Clause.Predicate

/-!
# Conditions

The clauses of a WHERE or HAVING part in two buckets: those joined by AND, in the
order added, and behind them the alternatives joined by OR. The connective of a clause
is fixed when it is added, from the number of clauses that precede it.
-/

namespace FluentSql

structure Clause where
  predicate : Predicate
  connective : Option Connective

structure Conditions where
  primary : List Clause
  alternatives : List Clause

namespace Conditions

def empty : Conditions := ⟨[], []⟩

instance : Inhabited Conditions := ⟨empty⟩

def isEmpty (c : Conditions) : Bool :=
  c.primary.isEmpty && c.alternatives.isEmpty

/-- All clauses in the order they are written. -/
def clauses (c : Conditions) : List Clause :=
  c.primary ++ c.alternatives

/-- Adds a clause that has to hold. `preceding` counts clauses of an enclosing query. -/
def addAnd (c : Conditions) (p : Predicate) (preceding : Nat) : Conditions :=
  let connective := if preceding + c.primary.length = 0 then none else some Connective.and
  { c with primary := c.primary ++ [⟨p, connective⟩] }

/-- Adds an alternative; there has to be a clause before it. -/
def addOr (c : Conditions) (p : Predicate) (preceding : Nat) (part : String) :
    Except Error Conditions :=
  if preceding + c.primary.length = 0 then .error (.state (.orWithoutClause part))
  else .ok { c with alternatives := c.alternatives ++ [⟨p, some .or⟩] }

/-- Adds a clause by its connective. -/
def add (c : Conditions) (connective : Connective) (p : Predicate) (preceding : Nat)
    (part : String) : Except Error Conditions :=
  match connective with
  | .and => .ok (c.addAnd p preceding)
  | .or => c.addOr p preceding part

/-- Whether the predicate is among those that have to hold. -/
def contains (c : Conditions) (p : Predicate) : Bool :=
  c.primary.any fun clause => clause.predicate.same p

/-- Appends each bucket of `other` to its own. -/
def absorb (c other : Conditions) : Conditions :=
  ⟨c.primary ++ other.primary, c.alternatives ++ other.alternatives⟩

/-- The bound values in the order of the text. -/
def values (c : Conditions) : List Value :=
  c.clauses.flatMap fun clause => clause.predicate.values

def connectiveText (connective : Option Connective) : String :=
  match connective with
  | some k => k.sql
  | none => "AND"

/-- Every clause behind its connective. -/
def furtherFragments (clauses : List Clause) : List Fragment :=
  clauses.flatMap fun clause =>
    .text (" " ++ connectiveText clause.connective ++ " ") :: clause.predicate.fragments

/-- The part with its keyword; nothing when there is no clause. -/
def fragments (c : Conditions) (keyword : String) : List Fragment :=
  match c.clauses with
  | [] => []
  | first :: rest =>
    .text (" " ++ keyword ++ " ") :: first.predicate.fragments ++ furtherFragments rest

def sql (c : Conditions) (keyword : String) : String :=
  Fragment.renderAll (c.fragments keyword)

end Conditions

end FluentSql
