import Mathlib.Data.List.Nodup
import FluentSql.Row.Record

/-!
# Records as ordered maps

A record is what a list of writes makes of it: its columns stand once each in the order of their
first mention, and the last write of a column decides its entry. A write touches no other entry.
-/

namespace FluentSql

/-- The elements of a list without repetition, in the order of their first occurrences. -/
structure FirstSeen (all found : List String) : Prop where
  nodup : found.Nodup
  mem_iff : ∀ a, a ∈ found ↔ a ∈ all
  order : ∀ a ∈ found, ∀ b ∈ found,
    (found.idxOf a < found.idxOf b ↔ all.idxOf a < all.idxOf b)

namespace FirstSeen

variable {all found : List String}

theorem nil : FirstSeen [] [] :=
  ⟨List.nodup_nil, fun _ => Iff.rfl, fun _ h => nomatch h⟩

/-- An element that was seen before changes nothing. -/
theorem seen (h : FirstSeen all found) {x : String} (hx : x ∈ found) :
    FirstSeen (all ++ [x]) found := by
  refine ⟨h.nodup, ?_, ?_⟩
  · intro a
    rw [List.mem_append, List.mem_singleton, h.mem_iff]
    constructor
    · exact .inl
    · rintro (ha | rfl)
      · exact ha
      · exact (h.mem_iff a).mp hx
  · intro a ha b hb
    rw [List.idxOf_append_of_mem ((h.mem_iff a).mp ha),
      List.idxOf_append_of_mem ((h.mem_iff b).mp hb)]
    exact h.order a ha b hb

/-- A new element comes last. -/
theorem unseen (h : FirstSeen all found) {x : String} (hx : x ∉ found) :
    FirstSeen (all ++ [x]) (found ++ [x]) := by
  have hxall : x ∉ all := fun hmem => hx ((h.mem_iff x).mpr hmem)
  have hold : ∀ {a}, a ∈ found → (found ++ [x]).idxOf a = found.idxOf a ∧
      (all ++ [x]).idxOf a = all.idxOf a := fun ha =>
    ⟨List.idxOf_append_of_mem ha, List.idxOf_append_of_mem ((h.mem_iff _).mp ha)⟩
  have hnew : (found ++ [x]).idxOf x = found.length ∧ (all ++ [x]).idxOf x = all.length := by
    rw [List.idxOf_append_of_notMem hx, List.idxOf_append_of_notMem hxall, List.idxOf_cons_self]
    exact ⟨Nat.add_zero _, Nat.add_zero _⟩
  have hbound : ∀ {a}, a ∈ found → found.idxOf a < found.length ∧ all.idxOf a < all.length :=
    fun ha => ⟨List.idxOf_lt_length_of_mem ha, List.idxOf_lt_length_of_mem ((h.mem_iff _).mp ha)⟩
  refine ⟨?_, ?_, ?_⟩
  · exact List.nodup_append.mpr ⟨h.nodup, List.pairwise_singleton _ x, fun a ha b hb hab => by
      rw [List.mem_singleton.mp hb] at hab
      exact hx (hab ▸ ha)⟩
  · intro a
    rw [List.mem_append, List.mem_append, h.mem_iff]
  · intro a ha b hb
    rw [List.mem_append, List.mem_singleton] at ha hb
    rcases ha with ha | rfl <;> rcases hb with hb | rfl
    · rw [(hold ha).1, (hold ha).2, (hold hb).1, (hold hb).2]
      exact h.order a ha b hb
    · rw [(hold ha).1, (hold ha).2, hnew.1, hnew.2]
      exact iff_of_true (hbound ha).1 (hbound ha).2
    · rw [(hold hb).1, (hold hb).2, hnew.1, hnew.2]
      exact iff_of_false (Nat.not_lt.mpr (Nat.le_of_lt (hbound hb).1))
        (Nat.not_lt.mpr (Nat.le_of_lt (hbound hb).2))
    · exact iff_of_false (Nat.lt_irrefl _) (Nat.lt_irrefl _)

end FirstSeen

namespace Record

/-- A column given a value, or mentioned without one. -/
inductive Write where
  | set (column : String) (value : Value)
  | declare (column : String)

namespace Write

def column : Write → String
  | set column _ => column
  | declare column => column

def value : Write → Option Value
  | set _ value => some value
  | declare _ => none

end Write

def write (r : Record) : Write → Record
  | .set column value => r.set column value
  | .declare column => r.declare column

/-- What a record begins with. -/
inductive Origin where
  | empty
  | collected (pairs : List (String × Value))
  | ofRow (row : Row)

namespace Origin

def record : Origin → Record
  | empty => Record.empty
  | collected pairs => ofList pairs
  | ofRow row => Record.ofRow row

/-- The pairs that are set in turn. -/
def pairs : Origin → List (String × Value)
  | empty => []
  | collected pairs => pairs
  | ofRow row => row.cells

def writes (o : Origin) : List Write :=
  o.pairs.map fun pair => .set pair.1 pair.2

end Origin

/-- The record is the ordered map of the writes. -/
structure InOrder (writes : List Write) (r : Record) : Prop where
  columns : FirstSeen (writes.map Write.column) r.columns
  last : ∀ before w after, writes = before ++ w :: after →
    (∀ later ∈ after, later.column ≠ w.column) → r.get? w.column = some w.value
  missing_iff : ∀ column, r.get? column = none ↔ ∀ w ∈ writes, w.column ≠ column
  /-- A further write leaves every entry of another column where it is, and adds none. -/
  others : ∀ (w : Write) (i : Nat) (entry : String × Option Value), entry.1 ≠ w.column →
    ((r.write w).entries[i]? = some entry ↔ r.entries[i]? = some entry)

variable {column : String} {value : Option Value} {entries : List (String × Option Value)}

theorem columns_putEntry : (putEntry column value entries).map (·.1) =
    if column ∈ entries.map (·.1) then entries.map (·.1) else entries.map (·.1) ++ [column] := by
  induction entries with
  | nil => rfl
  | cons entry rest ih =>
    obtain ⟨c, v⟩ := entry
    rw [putEntry]
    by_cases hc : c = column
    · simp [hc]
    · rw [if_neg hc, List.map_cons, ih, List.map_cons]
      have hmem : column ∈ c :: rest.map (·.1) ↔ column ∈ rest.map (·.1) := by
        simp [Ne.symm hc]
      simp only [hmem]
      split <;> rfl

theorem find?_putEntry (other : String) :
    ((putEntry column value entries).find? fun entry => entry.1 == other).map (·.2) =
      if column = other then some value
      else (entries.find? fun entry => entry.1 == other).map (·.2) := by
  induction entries with
  | nil => by_cases h : column = other <;> simp [putEntry, h]
  | cons entry rest ih =>
    obtain ⟨c, v⟩ := entry
    rw [putEntry]
    by_cases hc : c = column
    · subst hc
      by_cases h : c = other <;> simp [h]
    · rw [if_neg hc, List.find?_cons, List.find?_cons]
      by_cases h : c = other
      · subst h
        simp [Ne.symm hc]
      · simpa [beq_eq_false_iff_ne.mpr h] using ih

theorem getElem?_putEntry {entry : String × Option Value} (h : entry.1 ≠ column) (i : Nat) :
    (putEntry column value entries)[i]? = some entry ↔ entries[i]? = some entry := by
  have hnew : some (column, value) ≠ some entry := fun heq => h (Option.some.inj heq ▸ rfl)
  induction entries generalizing i with
  | nil =>
    cases i with
    | zero => exact iff_of_false hnew nofun
    | succ i => exact Iff.rfl
  | cons first rest ih =>
    obtain ⟨c, v⟩ := first
    rw [putEntry]
    split
    · next hc =>
      cases i with
      | zero =>
        have hne : ∀ v', some (c, v') ≠ some entry := fun v' heq => h (Option.some.inj heq ▸ hc)
        exact iff_of_false (hne value) (hne v)
      | succ i => exact Iff.rfl
    · cases i with
      | zero => exact Iff.rfl
      | succ i => exact ih i

theorem entries_write (r : Record) (w : Write) :
    (r.write w).entries = putEntry w.column w.value r.entries := by
  cases w <;> rfl

theorem columns_write (r : Record) (w : Write) : (r.write w).columns =
    if w.column ∈ r.columns then r.columns else r.columns ++ [w.column] := by
  rw [columns, entries_write]
  exact columns_putEntry

theorem get?_write (r : Record) (w : Write) (column : String) : (r.write w).get? column =
    if w.column = column then some w.value else r.get? column := by
  rw [get?, entries_write]
  exact find?_putEntry column

theorem getElem?_write (r : Record) {w : Write} {entry : String × Option Value}
    (h : entry.1 ≠ w.column) (i : Nat) :
    (r.write w).entries[i]? = some entry ↔ r.entries[i]? = some entry := by
  rw [entries_write]
  exact getElem?_putEntry h i

namespace InOrder

variable {writes : List Write} {r : Record}

theorem empty : InOrder [] Record.empty where
  columns := .nil
  last before w after h _ := by simp at h
  missing_iff column := iff_of_true rfl (List.forall_mem_nil _)
  others _ i _ h := getElem?_write _ h i

/-- One more write. -/
theorem step (h : InOrder writes r) (w : Write) : InOrder (writes ++ [w]) (r.write w) where
  columns := by
    rw [List.map_append, columns_write]
    split
    · next hmem => exact h.columns.seen hmem
    · next hmem => exact h.columns.unseen hmem
  last before x after hwrites hafter := by
    rw [get?_write]
    rcases List.eq_nil_or_concat' after with rfl | ⟨after, y, rfl⟩
    · obtain rfl : w = x := by simpa using (List.append_inj' hwrites rfl).2
      rw [if_pos rfl]
    · rw [← List.cons_append, ← List.append_assoc] at hwrites
      obtain ⟨hold, hw⟩ := List.append_inj' hwrites rfl
      obtain rfl : w = y := by simpa using hw
      rw [List.forall_mem_append, List.forall_mem_singleton] at hafter
      rw [if_neg hafter.2, h.last before x after hold hafter.1]
  missing_iff column := by
    rw [get?_write, List.forall_mem_append, ← h.missing_iff, List.forall_mem_singleton]
    split
    · next hw => simp [hw]
    · next hw => simp [hw]
  others _ i _ hentry := getElem?_write _ hentry i

theorem run (h : InOrder writes r) (more : List Write) :
    InOrder (writes ++ more) (more.foldl write r) := by
  induction more generalizing writes r with
  | nil =>
    rw [List.append_nil]
    exact h
  | cons w more ih =>
    have hstep := ih (h.step w)
    rw [List.append_assoc] at hstep
    exact hstep

end InOrder

theorem ofList_eq (pairs : List (String × Value)) : ofList pairs =
    (pairs.map fun pair => Write.set pair.1 pair.2).foldl write Record.empty := by
  rw [List.foldl_map]
  rfl

theorem Origin.record_eq (o : Origin) : o.record = o.writes.foldl write Record.empty := by
  cases o with
  | empty => rfl
  | collected pairs => exact ofList_eq pairs
  | ofRow row => exact ofList_eq row.cells

/-- After any writes to any beginning a record is the ordered map of them all. -/
theorem inOrder_written (o : Origin) (writes : List Write) :
    InOrder (o.writes ++ writes) (writes.foldl write o.record) := by
  have horigin := InOrder.empty.run o.writes
  rw [List.nil_append, ← o.record_eq] at horigin
  exact horigin.run writes

/-- A column that is mentioned again stays in its place and loses its value. -/
example : ([Write.set "a" (.int 1), .declare "b", .set "c" .null, .declare "a"].foldl write
    Record.empty).entries = [("a", none), ("b", none), ("c", some .null)] := by
  rfl

end Record

end FluentSql
