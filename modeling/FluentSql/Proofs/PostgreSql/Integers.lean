import FluentSql.PostgreSql.Client
import FluentSql.Proofs.Number.Decimal

/-!
# Integers on a PostgreSQL server

An integer goes to a server as a number or as its digits, and comes back from any column that
took it as the same integer. A slot that is too narrow for it refuses it; none cuts it.
-/

namespace FluentSql

/-- The values that stand for an integer: itself, or its digits between blanks. -/
inductive Value.Denotes (i : Int64) : Value → Prop where
  | int : Denotes i (.int i)
  | digits {before after : List Char} (hbefore : ∀ c ∈ before, Text.isBlank c = true)
      (hafter : ∀ c ∈ after, Text.isBlank c = true) :
      Denotes i (.string (String.ofList (before ++ (intText i).toList ++ after)))

namespace PostgreSql

namespace SlotType

/-- The slots that integers are written to. -/
def forIntegers : List SlotType :=
  [int2, int4, int8, numeric, text, varchar]

/-- Whether an integer is in the range of a slot. -/
def Holds (t : SlotType) (i : Int64) : Prop :=
  match t with
  | int2 => -0x8000 ≤ i.toInt ∧ i.toInt < 0x8000
  | int4 => -0x80000000 ≤ i.toInt ∧ i.toInt < 0x80000000
  | _ => True

end SlotType

open Value (intText)

variable {t : SlotType} {i : Int64} {v : Value}

theorem trim_padded {before after : List Char} (hbefore : ∀ c ∈ before, Text.isBlank c = true)
    (hafter : ∀ c ∈ after, Text.isBlank c = true) :
    Text.trim (String.ofList (before ++ (intText i).toList ++ after)) = intText i := by
  have hdigits : ∀ c ∈ (intText i).toList, Text.isBlank c = false := by
    intro c hc
    rw [intText, String.toList_ofList] at hc
    exact Integer.isBlank_of_mem_intChars hc
  rw [Text.trim, String.toList_ofList, Text.trimChars_padded hbefore hdigits hafter,
    String.ofList_toList]

theorem read_text {s : String} (h : Text.trim s = intText i) :
    (Reads.read (.string s) : Except Error Int64) = .ok i := by
  have hread : Integer.read64? (Text.trim s) = some i := h ▸ Integer.read64?_intText i
  simp only [Reads.read, hread]

/-- A narrowed integer is widened again to what it was. -/
theorem toInt64_toInt16 (h : -0x8000 ≤ i.toInt ∧ i.toInt < 0x8000) : i.toInt16.toInt64 = i := by
  rw [← Int64.toInt_inj, Int16.toInt_toInt64, Int64.toInt_toInt16]
  exact Int.bmod_eq_of_le (by omega) (by omega)

theorem toInt64_toInt32 (h : -0x80000000 ≤ i.toInt ∧ i.toInt < 0x80000000) :
    i.toInt32.toInt64 = i := by
  rw [← Int64.toInt_inj, Int32.toInt_toInt64, Int64.toInt_toInt32]
  exact Int.bmod_eq_of_le (by omega) (by omega)

/-- An integer as a decimal. -/
theorem ofInt_eq_make (j : Int) :
    FixedDecimal.ofInt j = FixedDecimal.make (j < 0) j.natAbs 0 := by
  unfold FixedDecimal.ofInt FixedDecimal.make
  by_cases hj : j < 0
  · have hne : j.natAbs ≠ 0 := by omega
    simp [hj, hne]
  · simp [hj]

/-- What a slot holds that took the datum is read as the integer. -/
def Datum.Returns (x : Datum) (i : Int64) : Prop :=
  (Reads.read x.settle.toValue : Except Error Int64) = .ok i

namespace Datum

theorem returns_text {s : String} (h : Text.trim s = intText i) : (text s).Returns i :=
  read_text h

theorem trim_intText (i : Int64) : Text.trim (intText i) = intText i := by
  have hnone : ∀ c ∈ ([] : List Char), Text.isBlank c = true := List.forall_mem_nil _
  have h := trim_padded (i := i) hnone hnone
  rwa [List.nil_append, List.append_nil, String.ofList_toList] at h

theorem returns_decimal (i : Int64) : (decimal (.ofInt i.toInt)).Returns i := by
  have htext : (FixedDecimal.ofInt i.toInt).stored.toText = intText i := by
    rw [ofInt_eq_make, FixedDecimal.toText_stored_make]
    rfl
  show (Reads.read (.string (FixedDecimal.ofInt i.toInt).stored.toText) : Except Error Int64) = _
  rw [htext]
  exact read_text (trim_intText i)

end Datum

namespace Parameter

/-- Within its range a slot takes an integer and gives it back. -/
theorem ofInt_of_holds (ht : t ∈ SlotType.forIntegers) (h : t.Holds i) :
    t.accepts (ofInt t i).carrier = true ∧ (ofInt t i).Returns i := by
  simp only [SlotType.forIntegers, List.mem_cons, List.not_mem_nil, or_false] at ht
  rcases ht with rfl | rfl | rfl | rfl | rfl | rfl
  · have hnarrow : ofInt .int2 i = .int16 i.toInt16 := if_pos h
    rw [hnarrow]
    exact ⟨rfl, congrArg Except.ok (toInt64_toInt16 h)⟩
  · have hnarrow : ofInt .int4 i = .int32 i.toInt32 := if_pos h
    rw [hnarrow]
    exact ⟨rfl, congrArg Except.ok (toInt64_toInt32 h)⟩
  · exact ⟨rfl, rfl⟩
  · exact ⟨rfl, Datum.returns_decimal i⟩
  · exact ⟨rfl, Datum.returns_text (Datum.trim_intText i)⟩
  · exact ⟨rfl, Datum.returns_text (Datum.trim_intText i)⟩

/-- Out of range an integer stays wide, so that the slot refuses it. -/
theorem ofInt_of_not_holds (h : ¬t.Holds i) : t.accepts (ofInt t i).carrier = false := by
  cases t with
  | int2 =>
    have hwide : ofInt .int2 i = .int64 i := if_neg h
    rw [hwide]
    rfl
  | int4 =>
    have hwide : ofInt .int4 i = .int64 i := if_neg h
    rw [hwide]
    rfl
  | _ => exact absurd trivial h

/-- The digits of an integer are bound as the integer, or as they are in slots for text. -/
theorem ofText_of_digits (ht : t ∈ SlotType.forIntegers) {s : String}
    (hs : Text.trim s = intText i) :
    ofText t s = ofInt t i ∨ (t = .text ∨ t = .varchar) ∧ ofText t s = .text s := by
  have hdigits : ∀ slot, ofDigits slot s = ofInt slot i := by
    intro slot
    simp only [ofDigits, hs, Integer.read64?_intText]
  have hdecimal : FixedDecimal.read? (Text.trim s) = some (.ofInt i.toInt) := by
    have hlow := i.le_toInt
    have hhigh := i.toInt_lt
    have hfits : i.toInt.natAbs ≤ FixedDecimal.maxMantissa := by
      have hmax : FixedDecimal.maxMantissa = 79228162514264337593543950335 := rfl
      omega
    rw [hs, intText, FixedDecimal.read?_intChars hfits, ofInt_eq_make]
  simp only [SlotType.forIntegers, List.mem_cons, List.not_mem_nil, or_false] at ht
  rcases ht with rfl | rfl | rfl | rfl | rfl | rfl
  · exact .inl (hdigits .int2)
  · exact .inl (hdigits .int4)
  · exact .inl (hdigits .int8)
  · refine .inl ?_
    simp only [ofText, hdecimal, ofInt]
  · exact .inr ⟨.inl rfl, rfl⟩
  · exact .inr ⟨.inr rfl, rfl⟩

/-- A slot refuses what denotes an integer exactly if the integer is out of its range, and gives
back what it takes. -/
theorem ofValue_of_denotes (ht : t ∈ SlotType.forIntegers) (hv : v.Denotes i) :
    ∃ x, ofValue t v = .datum x ∧ (t.accepts x.carrier = true ↔ t.Holds i) ∧
      (t.Holds i → x.Returns i) := by
  have hofInt : (t.accepts (ofInt t i).carrier = true ↔ t.Holds i) ∧
      (t.Holds i → (ofInt t i).Returns i) := by
    refine ⟨⟨?_, fun h => (ofInt_of_holds ht h).1⟩, fun h => (ofInt_of_holds ht h).2⟩
    intro haccepts
    by_contra h
    rw [ofInt_of_not_holds h] at haccepts
    cases haccepts
  cases hv with
  | int => exact ⟨_, rfl, hofInt⟩
  | digits hbefore hafter =>
    have htrim := trim_padded (i := i) hbefore hafter
    refine ⟨_, rfl, ?_⟩
    rcases ofText_of_digits ht htrim with hbound | ⟨htext, hbound⟩
    · rw [hbound]
      exact hofInt
    · rw [hbound]
      have haccepts : t.accepts .text = true ∧ t.Holds i := by
        rcases htext with rfl | rfl <;> exact ⟨rfl, trivial⟩
      exact ⟨iff_of_true haccepts.1 haccepts.2, fun _ => Datum.returns_text htrim⟩

end Parameter

namespace Client

theorem readCells_eq {columns : List ((String × SlotType) × Option Datum)}
    (h : ∀ column ∈ columns, column.1.2.isForeign = false) (index : Nat) :
    readCells index columns =
      .ok (columns.map fun column => (column.1.1, column.2.elim .null Datum.toValue)) := by
  induction columns generalizing index with
  | nil => rfl
  | cons column columns ih =>
    obtain ⟨hcolumn, hcolumns⟩ := List.forall_mem_cons.mp h
    rw [readCells, hcolumn, ih hcolumns]
    rfl

/-- A row of columns that can all be read, and the value of its first column of a name. -/
theorem value?_readRow {columns : List (String × SlotType)} {cells : List (Option Datum)}
    (hnative : ∀ column ∈ columns, column.2.isForeign = false) {k : Nat} {name : String}
    {x : Datum} (hcolumn : columns[k]? = some (name, t)) (hcell : cells[k]? = some (some x))
    (hfirst : ∀ j column, j < k → columns[j]? = some column → column.1 ≠ name) :
    ∃ row, readRow columns cells = .ok row ∧ row.value? name = some x.toValue := by
  have hzip : ∀ column ∈ columns.zip cells, column.1.2.isForeign = false := fun column h =>
    hnative column.1 (List.of_mem_zip h).1
  have hread := readCells_eq hzip 0
  refine ⟨⟨_⟩, by rw [readRow, hread]; rfl, ?_⟩
  rw [Row.value?, Option.map_eq_some_iff]
  have hk : (columns.zip cells)[k]? = some ((name, t), some x) := by
    rw [List.getElem?_zip_eq_some]
    exact ⟨hcolumn, hcell⟩
  obtain ⟨hlt, hget⟩ := List.getElem?_eq_some_iff.mp hk
  refine ⟨(name, x.toValue), ?_, rfl⟩
  rw [List.find?_eq_some_iff_getElem]
  refine ⟨beq_self_eq_true name, k, by simpa using hlt, ?_, ?_⟩
  · rw [List.getElem_map, hget]
    rfl
  · intro j hj
    have hjlt : j < (columns.zip cells).length := hj.trans hlt
    rw [List.length_zip] at hjlt
    have hjcolumn : columns[j]? = some columns[j] := List.getElem?_eq_getElem (by omega)
    simpa using hfirst j _ hj hjcolumn

end Client

/-- An integer on its way through a slot: it is refused exactly if it is out of range, and what a
slot took is read as the integer from any row that has it. -/
structure Survives (t : SlotType) (v : Value) (i : Int64) : Prop where
  refused_iff : (Parameter.ofValue t v).fits t = false ↔ ¬t.Holds i
  returned : (Parameter.ofValue t v).fits t = true →
    ∃ x, (Parameter.ofValue t v).arrival = some x ∧
      ∀ (columns : List (String × SlotType)) (cells : List (Option Datum)) (k : Nat)
        (name : String), columns[k]? = some (name, t) → cells[k]? = some (some x) →
        (∀ column ∈ columns, column.2.isForeign = false) →
        (∀ j column, j < k → columns[j]? = some column → column.1 ≠ name) →
          ∃ row, Client.readRow columns cells = .ok row ∧ row.get Int64 name = .ok i

/-- Integers survive, given as numbers or as digits. -/
theorem survives_of_denotes (ht : t ∈ SlotType.forIntegers) (hv : v.Denotes i) :
    Survives t v i := by
  obtain ⟨x, hx, hfits, hreturns⟩ := Parameter.ofValue_of_denotes ht hv
  have hfit : (Parameter.ofValue t v).fits t = t.accepts x.carrier := by
    rw [hx]
    rfl
  refine ⟨?_, ?_⟩
  · rw [hfit, ← hfits, Bool.not_eq_true]
  · intro h
    have hreturn : x.Returns i := hreturns (hfits.mp (hfit ▸ h))
    refine ⟨x.settle, by rw [hx]; rfl, ?_⟩
    intro columns cells k name hcolumn hcell hnative hfirst
    obtain ⟨row, hrow, hvalue⟩ := Client.value?_readRow hnative hcolumn hcell hfirst
    refine ⟨row, hrow, ?_⟩
    rw [Row.get, hvalue]
    exact hreturn

/-- The least integer, given by its digits to a slot for decimals. -/
theorem survives_of_denotes_least :
    SlotType.numeric ∈ SlotType.forIntegers ∧
      Value.Denotes Int64.minValue (.string "\t-9223372036854775808 ") ∧
      Survives .numeric (.string "\t-9223372036854775808 ") Int64.minValue := by
  have hslot : SlotType.numeric ∈ SlotType.forIntegers := by decide
  have htab : ∀ c ∈ ['\t'], Text.isBlank c = true := List.forall_mem_singleton.mpr rfl
  have hspace : ∀ c ∈ [' '], Text.isBlank c = true := List.forall_mem_singleton.mpr rfl
  have hdenotes : Value.Denotes Int64.minValue (.string "\t-9223372036854775808 ") :=
    .digits htab hspace
  exact ⟨hslot, hdenotes, survives_of_denotes hslot hdenotes⟩

end PostgreSql

end FluentSql
