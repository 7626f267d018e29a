import Mathlib.Data.List.Nodup
import FluentSql.Document.Merge
import FluentSql.Proofs.Document.Order

/-!
# The fields of an object

Objects are compared by what a look-up finds under each key. Putting, sorting and merging fields
are described by what is found afterwards, and fields with ascending keys are determined by it.
-/

namespace FluentSql.Document

variable {fields : List (String × Document)} {key : String}

/-- The value under a key of an object. -/
def at? (key : String) : Document → Option Document
  | .object fields => field? key fields
  | _ => none

theorem field?_eq_none_iff : field? key fields = none ↔ ∀ f ∈ fields, f.1 ≠ key := by
  induction fields with
  | nil => simp [field?]
  | cons f rest ih =>
    obtain ⟨k, x⟩ := f
    rw [field?, List.forall_mem_cons]
    by_cases hk : k = key
    · simp [hk]
    · simp [hk, ih]

theorem field?_putField (added : String) (value : Document) (fields : List (String × Document)) :
    field? key (putField added value fields) =
      if added = key then some value else field? key fields := by
  induction fields with
  | nil => rfl
  | cons f rest ih =>
    obtain ⟨k, x⟩ := f
    rw [putField]
    by_cases hsame : added = k
    · subst hsame
      rw [if_pos rfl, field?, field?]
      split <;> rfl
    · rw [if_neg hsame]
      by_cases hbefore : added < k
      · rw [if_pos hbefore, field?]
      · rw [if_neg hbefore, field?, field?, ih]
        by_cases hk : k = key
        · rw [if_pos hk, if_pos hk, if_neg fun h => hsame (h.trans hk.symm)]
        · rw [if_neg hk, if_neg hk]

theorem keysAscend_mergeFields {base overlay : List (String × Document)}
    (h : keysAscend base = true) : keysAscend (mergeFields base overlay) = true := by
  induction overlay generalizing base with
  | nil =>
    rw [mergeFields]
    exact h
  | cons f overlay ih =>
    obtain ⟨k, x⟩ := f
    rw [mergeFields]
    exact ih (keysAscend_putField _ _ _ h)

/-- What is found in merged fields: the value of the overlay, merged into that of the base where
there is one, and what the overlay does not have from the base. -/
theorem field?_mergeFields {overlay : List (String × Document)}
    (hoverlay : (overlay.map (·.1)).Nodup) (base : List (String × Document)) :
    field? key (mergeFields base overlay) =
      match field? key overlay with
      | some value => some ((field? key base).elim value fun old => merge old value)
      | none => field? key base := by
  induction overlay generalizing base with
  | nil => rw [mergeFields, field?]
  | cons f overlay ih =>
    obtain ⟨k, x⟩ := f
    rw [List.map_cons, List.nodup_cons] at hoverlay
    rw [mergeFields, ih hoverlay.2, field?, field?_putField]
    by_cases hk : k = key
    · subst hk
      have hnone : field? k overlay = none := by
        rw [field?_eq_none_iff]
        intro f hf hkey
        exact hoverlay.1 (List.mem_map.mpr ⟨f, hf, hkey⟩)
      rw [hnone, if_pos rfl, if_pos rfl]
      cases field? k base <;> rfl
    · rw [if_neg hk, if_neg hk]

theorem field?_of_mem (hnodup : (fields.map (·.1)).Nodup) {value : Document}
    (h : (key, value) ∈ fields) : field? key fields = some value := by
  induction fields with
  | nil => cases h
  | cons f rest ih =>
    obtain ⟨k, x⟩ := f
    rw [List.map_cons, List.nodup_cons] at hnodup
    rw [field?]
    rcases List.mem_cons.mp h with heq | hrest
    · cases heq
      rw [if_pos rfl]
    · have hne : k ≠ key := fun hk => hnodup.1 (List.mem_map.mpr ⟨_, hrest, hk.symm⟩)
      rw [if_neg hne, ih hnodup.2 hrest]

theorem mem_of_field? {value : Document} (h : field? key fields = some value) :
    (key, value) ∈ fields := by
  induction fields with
  | nil => cases h
  | cons f rest ih =>
    obtain ⟨k, x⟩ := f
    rw [field?] at h
    by_cases hk : k = key
    · rw [if_pos hk] at h
      obtain rfl := Option.some.inj h
      exact hk ▸ List.mem_cons_self
    · rw [if_neg hk] at h
      exact List.mem_cons_of_mem _ (ih h)

/-- The order of fields with distinct keys does not matter. -/
theorem field?_perm {other : List (String × Document)} (hnodup : (fields.map (·.1)).Nodup)
    (h : fields.Perm other) : field? key fields = field? key other := by
  have hother : (other.map (·.1)).Nodup := (h.map _).nodup_iff.mp hnodup
  cases hkey : field? key other with
  | some value => exact field?_of_mem hnodup (h.mem_iff.mpr (mem_of_field? hkey))
  | none =>
    rw [field?_eq_none_iff] at hkey ⊢
    exact fun f hf => hkey f (h.mem_iff.mp hf)

theorem keysAscend_of_keys (h : (fields.map (·.1)).Pairwise (· < ·)) : keysAscend fields = true :=
  keysAscend_iff.mpr (List.pairwise_map.mp h)

theorem nodup_of_keysAscend (h : keysAscend fields = true) : (fields.map (·.1)).Nodup := by
  rw [List.Nodup, List.pairwise_map]
  refine (keysAscend_iff.mp h).imp fun hlt heq => ?_
  rw [heq] at hlt
  exact String.lt_irrefl _ hlt

/-- Ascending fields are determined by what is found under each key. -/
theorem eq_of_field? {other : List (String × Document)} (hfields : keysAscend fields = true)
    (hother : keysAscend other = true) (h : ∀ key, field? key fields = field? key other) :
    fields = other := by
  have hmem : ∀ f, f ∈ fields ↔ f ∈ other := by
    rintro ⟨k, x⟩
    constructor
    · intro hf
      have hk := field?_of_mem (nodup_of_keysAscend hfields) hf
      rw [h k] at hk
      exact mem_of_field? hk
    · intro hf
      have hk := field?_of_mem (nodup_of_keysAscend hother) hf
      rw [← h k] at hk
      exact mem_of_field? hk
  have hperm : fields.Perm other :=
    (List.perm_ext_iff_of_nodup (List.Nodup.of_map _ (nodup_of_keysAscend hfields))
      (List.Nodup.of_map _ (nodup_of_keysAscend hother))).mpr hmem
  refine hperm.eq_of_pairwise ?_ (keysAscend_iff.mp hfields) (keysAscend_iff.mp hother)
  intro f g _ _ hfg hgf
  exact absurd hgf (String.lt_asymm hfg)

theorem normalizeFields_eq (fields : List (String × Document)) :
    normalizeFields fields = fields.map fun f => (f.1, f.2.normalize) := by
  induction fields with
  | nil => rfl
  | cons f rest ih =>
    obtain ⟨k, x⟩ := f
    rw [normalizeFields, ih]
    rfl

theorem field?_normalizeFields (fields : List (String × Document)) :
    field? key (normalizeFields fields) = (field? key fields).map normalize := by
  induction fields with
  | nil => rfl
  | cons f rest ih =>
    obtain ⟨k, x⟩ := f
    rw [normalizeFields, field?, field?, ih]
    split <;> rfl

theorem keysAscend_sortFields (fields : List (String × Document)) :
    keysAscend (sortFields fields) = true := by
  suffices hfold : ∀ sorted, keysAscend sorted = true → keysAscend (fields.foldl
      (fun sorted field => putField field.1 field.2 sorted) sorted) = true from hfold [] rfl
  induction fields with
  | nil => exact fun sorted h => h
  | cons f rest ih => exact fun sorted h => ih _ (keysAscend_putField f.1 f.2 sorted h)

theorem field?_append (front rest : List (String × Document)) :
    field? key (front ++ rest) = (field? key front).or (field? key rest) := by
  induction front with
  | nil => rfl
  | cons f front ih =>
    rw [List.cons_append, field?, field?, ih]
    split <;> rfl

/-- Of several fields with one key the last is found among the sorted ones. -/
theorem field?_sortFields_reverse (fields : List (String × Document)) :
    field? key (sortFields fields) = field? key fields.reverse := by
  suffices hfold : ∀ sorted, field? key (fields.foldl
      (fun sorted field => putField field.1 field.2 sorted) sorted) =
        (field? key fields.reverse).or (field? key sorted) by
    rw [sortFields, hfold []]
    exact Option.or_none
  induction fields with
  | nil => exact fun sorted => rfl
  | cons f rest ih =>
    intro sorted
    rw [List.foldl_cons, ih, field?_putField, List.reverse_cons, field?_append, Option.or_assoc,
      field?]
    split <;> rfl

/-- Sorting keeps what is found under distinct keys. -/
theorem field?_sortFields (hnodup : (fields.map (·.1)).Nodup) :
    field? key (sortFields fields) = field? key fields := by
  rw [field?_sortFields_reverse]
  refine field?_perm ?_ (List.reverse_perm fields)
  rw [List.map_reverse, List.nodup_reverse]
  exact hnodup

end FluentSql.Document
