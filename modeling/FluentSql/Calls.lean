import FluentSql.Error

/-!
# Calls in turn

A description is built by calls that may fail. A strict reader stops at the first call
that fails; a tolerant one leaves it out and goes on.
-/

namespace FluentSql.Calls

variable {α β : Type}

/-- The state after all calls, or the first error. -/
def applyAll (apply : α → β → Except Error α) (a : α) : List β → Except Error α
  | [] => .ok a
  | call :: calls => do
    let a ← apply a call
    applyAll apply a calls

/-- How a call went and the state after it, which is the one before if it failed. -/
def attempt (apply : α → β → Except Error α) (a : α) (call : β) : Except Error Unit × α :=
  match apply a call with
  | .ok next => (.ok (), next)
  | .error e => (.error e, a)

/-- The attempts at all calls, failing ones left out. -/
def applyEach (apply : α → β → Except Error α) (a : α) : List β → List (Except Error Unit × α)
  | [] => []
  | call :: calls =>
    let tried := attempt apply a call
    tried :: applyEach apply tried.2 calls

/-- The state after the last of some attempts. -/
def lastState (a : α) (attempts : List (Except Error Unit × α)) : α :=
  (attempts.getLast?.map (·.2)).getD a

end FluentSql.Calls
