import FluentSql.Query.Basic
import FluentSql.Proofs.Query.Terminal

/-!
# Carried values

Calls and payloads carry values in an order. `fill` replaces them by number, whatever
they were, and `change` maps each of them; what is not a value stays. Data filled by
numbers can be changed into data filled in any other way, and every datum is filled
with its own values.
-/

namespace FluentSql

class Carries (α : Type) where
  values : α → List Value
  fill : (Nat → Value) → Nat → α → α
  change : (Value → Value) → α → α
  change_fill : ∀ g ρ n a, change g (fill ρ n a) = fill (g ∘ ρ) n a
  fill_values : ∀ ρ n a, (∀ i v, (values a)[i]? = some v → ρ (n + i) = v) → fill ρ n a = a

namespace Carries

instance : Carries Value where
  values v := [v]
  fill ρ n _ := ρ n
  change g v := g v
  change_fill _ _ _ _ := rfl
  fill_values _ _ v h := h 0 v rfl

section List

variable {α : Type} [Carries α]

def fillList (ρ : Nat → Value) (n : Nat) : List α → List α
  | [] => []
  | a :: as => fill ρ n a :: fillList ρ (n + (values a).length) as

theorem map_fillList (g : Value → Value) (ρ : Nat → Value) (n : Nat) (as : List α) :
    (fillList ρ n as).map (change g) = fillList (g ∘ ρ) n as := by
  induction as generalizing n with
  | nil => rfl
  | cons a as ih => rw [fillList, fillList, List.map_cons, change_fill, ih]

theorem fillList_values (ρ : Nat → Value) (n : Nat) (as : List α)
    (h : ∀ i v, (as.flatMap values)[i]? = some v → ρ (n + i) = v) : fillList ρ n as = as := by
  induction as generalizing n with
  | nil => rfl
  | cons a as ih =>
    have hhead : fill ρ n a = a := by
      apply fill_values
      intro i v hv
      have hlt := (List.getElem?_eq_some_iff.mp hv).1
      apply h i v
      rw [List.flatMap_cons, List.getElem?_append_left hlt]
      exact hv
    have htail : fillList ρ (n + (values a).length) as = as := by
      apply ih
      intro i v hv
      rw [Nat.add_assoc]
      apply h
      rw [List.flatMap_cons, List.getElem?_append_right (Nat.le_add_right _ _),
        Nat.add_sub_cancel_left]
      exact hv
    rw [fillList, hhead, htail]

instance : Carries (List α) where
  values as := as.flatMap values
  fill := fillList
  change g as := as.map (change g)
  change_fill := map_fillList
  fill_values := fillList_values

end List

instance : Carries Test where
  values
    | .compare _ v => [v]
    | .between _ low high => [low, high]
    | .inList _ vs => values vs
    | .isNull _ => []
  fill ρ n
    | .compare op _ => .compare op (ρ n)
    | .between negated _ _ => .between negated (ρ n) (ρ (n + 1))
    | .inList negated vs => .inList negated (fill ρ n vs)
    | .isNull negated => .isNull negated
  change g
    | .compare op v => .compare op (g v)
    | .between negated low high => .between negated (g low) (g high)
    | .inList negated vs => .inList negated (change g vs)
    | .isNull negated => .isNull negated
  change_fill g ρ n test := by
    cases test with
    | compare op v => rfl
    | between negated low high => rfl
    | inList negated vs =>
      dsimp only
      rw [change_fill]
    | isNull negated => rfl
  fill_values ρ n test h := by
    cases test with
    | compare op v =>
      have hv : ρ n = v := h 0 v rfl
      dsimp only
      rw [hv]
    | between negated low high =>
      have hlow : ρ n = low := h 0 low rfl
      have hhigh : ρ (n + 1) = high := h 1 high rfl
      dsimp only
      rw [hlow, hhigh]
    | inList negated vs =>
      dsimp only
      rw [fill_values ρ n vs h]
    | isNull negated => rfl

instance : Carries Filter where
  values f := values f.test
  fill ρ n f := { f with test := fill ρ n f.test }
  change g f := { f with test := change g f.test }
  change_fill g ρ n f := by
    dsimp only
    rw [change_fill]
  fill_values ρ n f h := by
    rw [fill_values ρ n f.test h]

instance : Carries JoinCall where
  values
    | .filter _ f => values f
    | _ => []
  fill ρ n
    | .filter k f => .filter k (fill ρ n f)
    | call => call
  change g
    | .filter k f => .filter k (change g f)
    | call => call
  change_fill g ρ n call := by
    cases call with
    | filter k f =>
      dsimp only
      rw [change_fill]
    | _ => rfl
  fill_values ρ n call h := by
    cases call with
    | filter k f =>
      dsimp only
      rw [fill_values ρ n f h]
    | _ => rfl

instance : Carries QueryCall where
  values
    | .filter _ _ f => values f
    | .joinWith _ _ calls _ => values calls
    | _ => []
  fill ρ n
    | .filter part k f => .filter part k (fill ρ n f)
    | .joinWith kind target calls tolerant => .joinWith kind target (fill ρ n calls) tolerant
    | call => call
  change g
    | .filter part k f => .filter part k (change g f)
    | .joinWith kind target calls tolerant => .joinWith kind target (change g calls) tolerant
    | call => call
  change_fill g ρ n call := by
    cases call with
    | filter part k f =>
      dsimp only
      rw [change_fill]
    | joinWith kind target calls tolerant =>
      dsimp only
      rw [change_fill]
    | _ => rfl
  fill_values ρ n call h := by
    cases call with
    | filter part k f =>
      dsimp only
      rw [fill_values ρ n f h]
    | joinWith kind target calls tolerant =>
      dsimp only
      rw [fill_values ρ n calls h]
    | _ => rfl

/-- An entry of a payload; one without a value carries none. -/
instance : Carries (String × Option Value) where
  values entry := entry.2.toList
  fill ρ n entry := (entry.1, entry.2.map fun _ => ρ n)
  change g entry := (entry.1, entry.2.map g)
  change_fill g ρ n entry := by
    obtain ⟨c, v⟩ := entry
    cases v <;> rfl
  fill_values ρ n entry h := by
    obtain ⟨c, v⟩ := entry
    cases v with
    | none => rfl
    | some v =>
      have hv : ρ n = v := h 0 v rfl
      dsimp only
      rw [Option.map_some, hv]

instance : Carries Record where
  values r := values r.entries
  fill ρ n r := ⟨fill ρ n r.entries⟩
  change g r := ⟨change g r.entries⟩
  change_fill g ρ n r := by
    dsimp only
    rw [change_fill]
  fill_values ρ n r h := by
    rw [fill_values ρ n r.entries h]

instance : Carries Terminal where
  values
    | .insertMany records _ => values records
    | .update data => values data
    | _ => []
  fill ρ n
    | .insertMany records validate => .insertMany (fill ρ n records) validate
    | .update data => .update (fill ρ n data)
    | t => t
  change g
    | .insertMany records validate => .insertMany (change g records) validate
    | .update data => .update (change g data)
    | t => t
  change_fill g ρ n t := by
    cases t with
    | insertMany records validate =>
      dsimp only
      rw [change_fill]
    | update data =>
      dsimp only
      rw [change_fill]
    | _ => rfl
  fill_values ρ n t h := by
    cases t with
    | insertMany records validate =>
      dsimp only
      rw [fill_values ρ n records h]
    | update data =>
      dsimp only
      rw [fill_values ρ n data h]
    | _ => rfl

end Carries

end FluentSql
