import FluentSql.Document.Source
import FluentSql.Proofs.Number.Digits

/-!
# The source of a document

What is read from the text of a document before its leaves are judged. A document without
floating point numbers comes back from its source, if it does not nest too deep.
-/

namespace FluentSql

namespace Numeral

/-- How an integer is written. -/
def ofInt (i : Int) : Numeral :=
  ⟨i < 0, Nat.toDigits 10 i.natAbs, [], none⟩

theorem integer?_ofInt (i : WideInt) : (ofInt i.val).integer? = some i.val := by
  obtain ⟨i, hlow, hhigh⟩ := i
  have hdigits := Integer.natOfDigits_toDigits i.natAbs
  have hwhole : ¬(([] : List Char) ≠ [] ∨ (none : Option (Bool × List Char)).isSome = true) := by
    simp
  unfold integer? ofInt
  dsimp only
  rw [if_neg hwhole, hdigits]
  by_cases hneg : i < 0
  · have hrange : 0 < i.natAbs ∧ i.natAbs ≤ 0x8000000000000000 := by omega
    have hback : -(i.natAbs : Int) = i := by omega
    rw [decide_eq_true hneg, if_pos rfl, if_pos hrange, hback]
  · have hrange : i.natAbs ≤ wordMax := by
      unfold wordMax
      omega
    have hback : (i.natAbs : Int) = i := by omega
    rw [decide_eq_false hneg, if_neg Bool.false_ne_true, if_pos hrange, hback]

theorem document?_ofInt (i : WideInt) : (ofInt i.val).document? = some (.integer i) := by
  unfold document?
  rw [integer?_ofInt]
  exact dif_pos i.property

end Numeral

namespace Document

mutual

/-- Whether there is no floating point number in the document. -/
def isExact : Document → Bool
  | .array items => itemsExact items
  | .object fields => fieldsExact fields
  | .float _ => false
  | .null => true
  | .bool _ => true
  | .integer _ => true
  | .string _ => true

def itemsExact : List Document → Bool
  | [] => true
  | x :: xs => isExact x && itemsExact xs

def fieldsExact : List (String × Document) → Bool
  | [] => true
  | (_, x) :: xs => isExact x && fieldsExact xs

end

mutual

/-- How deep arrays and objects nest. -/
def nesting : Document → Nat
  | .array items => itemsNesting items + 1
  | .object fields => fieldsNesting fields + 1
  | .null => 0
  | .bool _ => 0
  | .integer _ => 0
  | .float _ => 0
  | .string _ => 0

def itemsNesting : List Document → Nat
  | [] => 0
  | x :: xs => max (nesting x) (itemsNesting xs)

def fieldsNesting : List (String × Document) → Nat
  | [] => 0
  | (_, x) :: xs => max (nesting x) (fieldsNesting xs)

end

mutual

/-- The source of a document without floating point numbers; one with them has none here. -/
def source : Document → Source
  | .null => .null
  | .bool b => .bool b
  | .integer i => .number (Numeral.ofInt i.val)
  | .float _ => .null
  | .string s => .string (some s)
  | .array items => .array (itemSources items)
  | .object fields => .object (fieldSources fields)

def itemSources : List Document → List Source
  | [] => []
  | x :: xs => source x :: itemSources xs

def fieldSources : List (String × Document) → List (Option String × Source)
  | [] => []
  | (k, x) :: xs => (some k, source x) :: fieldSources xs

end

mutual

theorem document?_source : ∀ (d : Document) (depth : Nat), d.isExact = true →
    d.source.document? (depth + 1) = if d.nesting ≤ depth then some d else none
  | .null, depth, _ => by rw [source, Source.document?, nesting, if_pos (Nat.zero_le depth)]
  | .bool b, depth, _ => by rw [source, Source.document?, nesting, if_pos (Nat.zero_le depth)]
  | .integer i, depth, _ => by
    rw [source, Source.document?, Numeral.document?_ofInt, nesting, if_pos (Nat.zero_le depth)]
  | .float _, _, h => nomatch h
  | .string s, depth, _ => by
    rw [source, Source.document?, nesting, if_pos (Nat.zero_le depth)]
    rfl
  | .array items, depth, h => by
    rw [source, Source.document?, nesting]
    cases depth with
    | zero => simp
    | succ depth =>
      rw [if_neg (by omega), Nat.add_sub_cancel, documents?_itemSources items depth h]
      by_cases hdepth : itemsNesting items ≤ depth
      · rw [if_pos hdepth, if_pos (by omega)]
        rfl
      · rw [if_neg hdepth, if_neg (by omega)]
        rfl
  | .object fields, depth, h => by
    rw [source, Source.document?, nesting]
    cases depth with
    | zero => simp
    | succ depth =>
      rw [if_neg (by omega), Nat.add_sub_cancel, fieldDocuments?_fieldSources fields depth h]
      by_cases hdepth : fieldsNesting fields ≤ depth
      · rw [if_pos hdepth, if_pos (by omega)]
        rfl
      · rw [if_neg hdepth, if_neg (by omega)]
        rfl

theorem documents?_itemSources : ∀ (items : List Document) (depth : Nat),
    itemsExact items = true →
      Source.documents? (depth + 1) (itemSources items) =
        if itemsNesting items ≤ depth then some items else none
  | [], depth, _ => by
    rw [itemSources, Source.documents?, itemsNesting, if_pos (Nat.zero_le depth)]
  | x :: xs, depth, h => by
    rw [itemsExact, Bool.and_eq_true] at h
    rw [itemSources, Source.documents?, document?_source x depth h.1,
      documents?_itemSources xs depth h.2, itemsNesting]
    by_cases hx : nesting x ≤ depth
    · by_cases hxs : itemsNesting xs ≤ depth
      · rw [if_pos hx, if_pos hxs, if_pos (Nat.max_le.mpr ⟨hx, hxs⟩)]
      · rw [if_pos hx, if_neg hxs, if_neg fun h => hxs (Nat.max_le.mp h).2]
    · rw [if_neg hx, if_neg fun h => hx (Nat.max_le.mp h).1]

theorem fieldDocuments?_fieldSources : ∀ (fields : List (String × Document)) (depth : Nat),
    fieldsExact fields = true →
      Source.fieldDocuments? (depth + 1) (fieldSources fields) =
        if fieldsNesting fields ≤ depth then some fields else none
  | [], depth, _ => by
    rw [fieldSources, Source.fieldDocuments?, fieldsNesting, if_pos (Nat.zero_le depth)]
  | (k, x) :: xs, depth, h => by
    rw [fieldsExact, Bool.and_eq_true] at h
    unfold fieldSources Source.fieldDocuments?
    rw [document?_source x depth h.1, fieldDocuments?_fieldSources xs depth h.2, fieldsNesting]
    by_cases hx : nesting x ≤ depth
    · by_cases hxs : fieldsNesting xs ≤ depth
      · rw [if_pos hx, if_pos hxs, if_pos (Nat.max_le.mpr ⟨hx, hxs⟩)]
      · rw [if_pos hx, if_neg hxs, if_neg fun h => hxs (Nat.max_le.mp h).2]
    · rw [if_neg hx, if_neg fun h => hx (Nat.max_le.mp h).1]

end

end Document

end FluentSql
