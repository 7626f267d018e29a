import Mathlib.Data.List.Basic
import FluentSql.Document.Basic

/-!
# Documents in order

A document whose objects have ascending keys is its own normal form, so that packaging it and
taking it out again changes nothing.
-/

namespace FluentSql

namespace Document

theorem keysAscend_iff {fields : List (String × Document)} :
    keysAscend fields = true ↔ fields.Pairwise fun f g => f.1 < g.1 := by
  induction fields with
  | nil => simp [keysAscend]
  | cons f rest ih =>
    obtain ⟨k, x⟩ := f
    rw [keysAscend_cons, Bool.and_eq_true, ih, List.pairwise_cons]
    refine and_congr_left fun hrest => ?_
    cases rest with
    | nil => simp
    | cons g rest =>
      simp only [List.head?_cons, Option.all_some, decide_eq_true_eq, List.forall_mem_cons]
      refine ⟨fun hk => ⟨hk, fun a ha => ?_⟩, And.left⟩
      exact String.lt_trans hk ((List.pairwise_cons.mp hrest).1 a ha)

/-- A key above all others comes last. -/
theorem putField_of_forall_lt {key : String} {value : Document} {fields : List (String × Document)}
    (h : ∀ f ∈ fields, f.1 < key) : putField key value fields = fields ++ [(key, value)] := by
  induction fields with
  | nil => rfl
  | cons f rest ih =>
    obtain ⟨k, x⟩ := f
    obtain ⟨hk, hrest⟩ := List.forall_mem_cons.mp h
    have hne : key ≠ k := fun he => String.lt_irrefl k (he ▸ hk)
    rw [putField, if_neg hne, if_neg (String.lt_asymm hk), ih hrest]
    rfl

theorem sortFields_of_keysAscend {fields : List (String × Document)}
    (h : keysAscend fields = true) : sortFields fields = fields := by
  suffices hfold : ∀ sorted, (sorted ++ fields).Pairwise (fun f g => f.1 < g.1) →
      fields.foldl (fun sorted field => putField field.1 field.2 sorted) sorted =
        sorted ++ fields from
    hfold [] (keysAscend_iff.mp h)
  clear h
  induction fields with
  | nil => simp
  | cons f rest ih =>
    intro sorted hsorted
    have hlast : putField f.1 f.2 sorted = sorted ++ [f] :=
      putField_of_forall_lt fun g hg =>
        (List.pairwise_append.mp hsorted).2.2 g hg f List.mem_cons_self
    rw [List.foldl_cons, hlast, ih _ (by simpa using hsorted), List.append_assoc]
    rfl

mutual

theorem normalize_of_isOrdered : ∀ d : Document, d.isOrdered = true → d.normalize = d
  | .array items, h => by rw [normalize, normalizeItems_of_ordered items h]
  | .object fields, h => by
    rw [isOrdered, Bool.and_eq_true] at h
    rw [normalize, normalizeFields_of_ordered fields h.2, sortFields_of_keysAscend h.1]
  | .null, _ => rfl
  | .bool _, _ => rfl
  | .integer _, _ => rfl
  | .float _, _ => rfl
  | .string _, _ => rfl

theorem normalizeItems_of_ordered : ∀ items : List Document, itemsOrdered items = true →
    normalizeItems items = items
  | [], _ => rfl
  | x :: xs, h => by
    rw [itemsOrdered, Bool.and_eq_true] at h
    rw [normalizeItems, normalize_of_isOrdered x h.1, normalizeItems_of_ordered xs h.2]

theorem normalizeFields_of_ordered : ∀ fields : List (String × Document),
    fieldsOrdered fields = true → normalizeFields fields = fields
  | [], _ => rfl
  | (_, x) :: xs, h => by
    rw [fieldsOrdered, Bool.and_eq_true] at h
    rw [normalizeFields, normalize_of_isOrdered x h.1, normalizeFields_of_ordered xs h.2]

end

end Document

namespace OrderedDocument

theorem eq_of_tree {c d : OrderedDocument} (h : c.tree = d.tree) : c = d := by
  cases c
  cases d
  congr

end OrderedDocument

end FluentSql
