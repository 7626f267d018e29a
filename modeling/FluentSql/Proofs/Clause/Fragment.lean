import FluentSql.Clause.Predicate
import FluentSql.Proofs.Text.Quotation

/-!
# Text and values of fragments

Both views of a fragment list split where the list does. When the copied text is
closed, the rendered text is back outside literals at its end and shows one open
question mark for each bound value, whatever the literals and the values are.
-/

namespace FluentSql

open FluentSql.Text

namespace Fragment

/-- Copied text that may stand between placeholders. -/
def Closed : Fragment → Prop
  | .text s => Text.Closed s
  | .literal _ => True
  | .slot _ => True

theorem renderAll_nil : renderAll [] = "" := rfl

theorem renderAll_cons (f : Fragment) (fs : List Fragment) :
    renderAll (f :: fs) = f.render ++ renderAll fs := rfl

theorem renderAll_append (fs gs : List Fragment) :
    renderAll (fs ++ gs) = renderAll fs ++ renderAll gs := by
  induction fs with
  | nil => exact (String.empty_append).symm
  | cons f fs ih =>
    rw [List.cons_append, renderAll_cons, renderAll_cons, ih, String.append_assoc]

theorem renderAll_singleton (f : Fragment) : renderAll [f] = f.render :=
  String.append_empty

theorem values_append (fs gs : List Fragment) :
    values (fs ++ gs) = values fs ++ values gs :=
  List.filterMap_append

theorem values_text (s : String) (fs : List Fragment) : values (.text s :: fs) = values fs := rfl

theorem values_slot (v : Value) (fs : List Fragment) : values (.slot v :: fs) = v :: values fs :=
  rfl

theorem values_slots (vs : List Value) : values (slots vs) = vs := by
  induction vs with
  | nil => rfl
  | cons v rest ih =>
    cases rest with
    | nil => rfl
    | cons w rest =>
      rw [slots, values_slot, values_text, ih]

/-- The text of slots does not depend on the values. -/
theorem renderAll_slots (vs : List Value) :
    renderAll (slots vs) = commaList (vs.map fun _ => "?") := by
  induction vs with
  | nil => rfl
  | cons v rest ih =>
    cases rest with
    | nil => rfl
    | cons w rest =>
      rw [slots, renderAll_cons, renderAll_cons, ih, ← String.append_assoc]
      rfl

/-- Text with the property, or a slot. -/
def Copies (P : String → Prop) : Fragment → Prop
  | .text s => P s
  | .literal _ => False
  | .slot _ => True

theorem Copies.closed {f : Fragment} (h : f.Copies Text.Closed) : f.Closed := by
  cases f with
  | text s => exact h
  | literal s => exact h.elim
  | slot v => trivial

theorem copies_slots {P : String → Prop} (hP : Composed P) (vs : List Value) :
    ∀ f ∈ slots vs, f.Copies P := by
  induction vs with
  | nil =>
    intro f hf
    cases hf
  | cons v rest ih =>
    cases rest with
    | nil =>
      intro f hf
      obtain rfl := List.mem_singleton.mp hf
      trivial
    | cons w rest =>
      intro f hf
      rw [slots, List.mem_cons, List.mem_cons] at hf
      obtain rfl | rfl | hf := hf
      · trivial
      · have hcomma : Free ", " := by decide
        exact hP.free hcomma
      · exact ih f hf

/-- A scan of closed fragments ends outside literals, after one open question mark for
each value. -/
theorem scan_renderAll {fs : List Fragment} (h : ∀ f ∈ fs, f.Closed) :
    quotedAfter false (renderAll fs).toList = false ∧
      openCount '?' false (renderAll fs).toList = (values fs).length := by
  induction fs with
  | nil => exact ⟨rfl, rfl⟩
  | cons f fs ih =>
    obtain ⟨hend, hcount⟩ := ih fun g hg => h g (List.mem_cons_of_mem f hg)
    have hf := h f List.mem_cons_self
    rw [renderAll_cons, String.toList_append, quotedAfter_append, openCount_append]
    cases f with
    | text s =>
      obtain ⟨hsend, hscount⟩ := hf
      rw [render, hsend, hscount, values_text, hcount, Nat.zero_add]
      exact ⟨hend, rfl⟩
    | literal s =>
      obtain ⟨hsend, hscount⟩ := closed_literal s
      rw [render, hsend, hscount, hcount, Nat.zero_add]
      exact ⟨hend, rfl⟩
    | slot v =>
      have hmark : quotedAfter false ("?" : String).toList = false := by decide
      have hone : openCount '?' false ("?" : String).toList = 1 := by decide
      rw [render, hmark, hone, values_slot, List.length_cons, hcount, Nat.add_comm]
      exact ⟨hend, rfl⟩

end Fragment

namespace Predicate

theorem values_fragments (p : Predicate) : Fragment.values p.fragments = p.values := by
  cases p with
  | compare c op v => rfl
  | between c negated low high => rfl
  | inList c negated vs =>
    rw [fragments, List.cons_append, Fragment.values_text, Fragment.values_append,
      Fragment.values_slots, Fragment.values_text]
    exact List.append_nil vs
  | isNull c negated => rfl

/-- A predicate copies its column and fixed texts; its values are slots. -/
theorem copies_fragments {P : String → Prop} (hP : Composed P) {p : Predicate}
    (h : P p.column) : ∀ f ∈ p.fragments, f.Copies P := by
  have hblank : P " " := hP.free (by decide)
  have hnot : ∀ negated, P (notText negated) :=
    fun negated => hP.free (by cases negated <;> decide)
  intro f hf
  cases p with
  | compare c op v =>
    simp only [fragments, List.mem_cons, List.not_mem_nil, or_false] at hf
    obtain rfl | rfl := hf
    · have hop : P op.sql := hP.free (by cases op <;> decide)
      exact hP.append (hP.append (hP.append h hblank) hop) hblank
    · trivial
  | between c negated low high =>
    have hjoint : P " AND " := hP.free (by decide)
    simp only [fragments, List.mem_cons, List.not_mem_nil, or_false] at hf
    obtain rfl | rfl | rfl | rfl := hf
    · exact hP.append (hP.append (hP.append h hblank) (hnot negated)) (hP.free (by decide))
    · trivial
    · exact hjoint
    · trivial
  | inList c negated vs =>
    have hclose : P ")" := hP.free (by decide)
    rw [fragments, List.cons_append, List.mem_cons, List.mem_append, List.mem_singleton] at hf
    obtain rfl | hf | rfl := hf
    · exact hP.append (hP.append (hP.append h hblank) (hnot negated)) (hP.free (by decide))
    · exact Fragment.copies_slots hP vs f hf
    · exact hclose
  | isNull c negated =>
    obtain rfl := List.mem_singleton.mp hf
    exact hP.append (hP.append (hP.append h (hP.free (by decide))) (hnot negated))
      (hP.free (by decide))

end Predicate

end FluentSql
