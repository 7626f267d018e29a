import FluentSql.Proofs.Document.Fields
import FluentSql.Proofs.Document.Source

/-!
# Objects laid over objects

An overlay that holds some of the fields of a base, in any order, replaces the values of these
fields and leaves the others. Where an overlay may hold nothing it may be missing as well.
-/

namespace FluentSql.Document

/-- A value that is there only if it is kept. -/
def keep (kept : Bool) (d : Document) : Option Document :=
  if kept then some d else none

/-- The fields that have a value. -/
def present (parts : List (String × Option Document)) : List (String × Document) :=
  parts.filterMap fun p => p.2.map (p.1, ·)

/-- An object with the fields that have a value, in any order; where no field has one there may be
no object. -/
inductive Shows (parts : List (String × Option Document)) : Option Document → Prop where
  | object {fields : List (String × Document)} (h : fields.Perm (present parts)) :
      Shows parts (some (.object fields))
  | missing (h : present parts = []) : Shows parts none

variable {parts : List (String × Option Document)} {key : String}

theorem present_cons (p : String × Option Document) :
    present (p :: parts) = (p.2.map (p.1, ·)).toList ++ present parts := by
  rw [present, List.filterMap_cons]
  cases p.2 <;> rfl

theorem mem_present {f : String × Document} : f ∈ present parts ↔ (f.1, some f.2) ∈ parts := by
  obtain ⟨k, d⟩ := f
  simp only [present, List.mem_filterMap, Option.map_eq_some_iff, Prod.mk.injEq]
  constructor
  · rintro ⟨⟨k, v⟩, hp, d, hv, rfl, rfl⟩
    cases hv
    exact hp
  · intro h
    exact ⟨_, h, d, rfl, rfl, rfl⟩

theorem nodup_present (hparts : (parts.map (·.1)).Nodup) : ((present parts).map (·.1)).Nodup := by
  refine List.Sublist.nodup ?_ hparts
  clear hparts
  induction parts with
  | nil => exact List.Sublist.refl _
  | cons p parts ih =>
    rw [present_cons, List.map_append, List.map_cons]
    cases p.2 with
    | none => exact ih.cons p.1
    | some d => exact ih.cons_cons p.1

theorem field?_present (hparts : (parts.map (·.1)).Nodup) :
    field? key (present parts) = (parts.find? (·.1 == key)).bind (·.2) := by
  induction parts with
  | nil => rfl
  | cons p parts ih =>
    rw [List.map_cons, List.nodup_cons] at hparts
    rw [present_cons, List.find?_cons]
    by_cases hk : p.1 = key
    · have hnone : field? key (present parts) = none := by
        rw [field?_eq_none_iff]
        intro f hf hkey
        exact hparts.1 (List.mem_map.mpr ⟨_, mem_present.mp hf, hkey.trans hk.symm⟩)
      rw [beq_iff_eq.mpr hk, Option.bind_some]
      cases p.2 with
      | none => exact hnone
      | some d => exact if_pos hk
    · rw [beq_eq_false_iff_ne.mpr hk, ← ih hparts.2]
      cases p.2 with
      | none => rfl
      | some d => exact if_neg hk

/-! ## Shallow documents -/

/-- A document without floating point numbers that nests at most so deep. -/
def Shallow (depth : Nat) (d : Document) : Prop :=
  d.isExact = true ∧ d.nesting ≤ depth

theorem shallow_bool (b : Bool) (depth : Nat) : (bool b).Shallow depth :=
  ⟨rfl, Nat.zero_le depth⟩

theorem shallow_string (s : String) (depth : Nat) : (string s).Shallow depth :=
  ⟨rfl, Nat.zero_le depth⟩

theorem shallow_of_keep {kept : Bool} {d value : Document} {depth : Nat} (hd : d.Shallow depth)
    (h : keep kept d = some value) : value.Shallow depth := by
  cases kept with
  | true => exact Option.some.inj h ▸ hd
  | false => nomatch h

theorem fieldsExact_iff {fields : List (String × Document)} :
    fieldsExact fields = true ↔ ∀ f ∈ fields, f.2.isExact = true := by
  induction fields with
  | nil => simp [fieldsExact]
  | cons f rest ih => rw [fieldsExact, Bool.and_eq_true, ih, List.forall_mem_cons]

theorem fieldsNesting_le_iff {fields : List (String × Document)} {depth : Nat} :
    fieldsNesting fields ≤ depth ↔ ∀ f ∈ fields, f.2.nesting ≤ depth := by
  induction fields with
  | nil => simp [fieldsNesting]
  | cons f rest ih => rw [fieldsNesting, Nat.max_le, ih, List.forall_mem_cons]

/-- An object nests one deeper than its fields. -/
theorem Shows.shallow {d : Document} {depth : Nat} (h : Shows parts (some d))
    (hparts : ∀ p ∈ parts, ∀ value, p.2 = some value → Shallow depth value) :
    Shallow (depth + 1) d := by
  cases h with
  | @object fields hfields =>
    have hvalues : ∀ f ∈ fields, Shallow depth f.2 := fun f hf =>
      hparts _ (mem_present.mp (hfields.mem_iff.mp hf)) _ rfl
    refine ⟨fieldsExact_iff.mpr fun f hf => (hvalues f hf).1, ?_⟩
    rw [nesting]
    exact Nat.succ_le_succ (fieldsNesting_le_iff.mpr fun f hf => (hvalues f hf).2)

/-! ## Merging -/

/-- A field of a base with what is laid over it, if anything. -/
structure Overlaid where
  key : String
  base : Document
  overlay : Option Document

namespace Overlaid

def part (o : Overlaid) : String × Option Document :=
  (o.key, o.overlay)

def merged (o : Overlaid) : Document :=
  o.overlay.elim o.base fun d => o.base.merge d.normalize

def baseFields (os : List Overlaid) : List (String × Document) :=
  os.map fun o => (o.key, o.base)

def mergedFields (os : List Overlaid) : List (String × Document) :=
  os.map fun o => (o.key, o.merged)

variable {os : List Overlaid}

theorem keysAscend_map (value : Overlaid → Document) :
    keysAscend (os.map fun o => (o.key, value o)) = true ↔
      os.Pairwise fun o o' => o.key < o'.key := by
  rw [keysAscend_iff, List.pairwise_map]

theorem field?_map (value : Overlaid → Document) :
    field? key (os.map fun o => (o.key, value o)) = (os.find? (·.key == key)).map value := by
  induction os with
  | nil => rfl
  | cons o os ih =>
    rw [List.map_cons, field?, List.find?_cons, ih]
    by_cases hk : o.key = key
    · rw [if_pos hk, beq_iff_eq.mpr hk]
      rfl
    · rw [if_neg hk, beq_eq_false_iff_ne.mpr hk]

/-- An overlay replaces the fields it has, in whatever order it has them. -/
theorem merge_present {fields : List (String × Document)}
    (hbase : keysAscend (baseFields os) = true) (hfields : fields.Perm (present (os.map part))) :
    (object (baseFields os)).merge (object fields).normalize = object (mergedFields os) := by
  have hascend := (keysAscend_map (·.base)).mp hbase
  have hos : ((os.map part).map (·.1)).Nodup := by
    have hkeys := nodup_of_keysAscend hbase
    rw [baseFields, List.map_map] at hkeys
    rw [List.map_map]
    exact hkeys
  have hnodup : (fields.map (·.1)).Nodup := (hfields.map _).nodup_iff.mpr (nodup_present hos)
  have hnormal : ((normalizeFields fields).map (·.1)).Nodup := by
    rw [normalizeFields_eq, List.map_map]
    exact hnodup
  have hsorted : ((sortFields (normalizeFields fields)).map (·.1)).Nodup :=
    nodup_of_keysAscend (sortFields_ordered _ (fieldsOrdered_normalizeFields fields)).1
  rw [normalize, merge]
  congr 1
  refine eq_of_field? (keysAscend_mergeFields hbase) ((keysAscend_map merged).mpr hascend)
    fun key => ?_
  have hfind : (os.map part).find? (·.1 == key) = (os.find? (·.key == key)).map part :=
    List.find?_map
  rw [field?_mergeFields hsorted, field?_sortFields hnormal, field?_normalizeFields,
    field?_perm hnodup hfields, field?_present hos, hfind, baseFields, mergedFields, field?_map,
    field?_map]
  cases os.find? (·.key == key) with
  | none => rfl
  | some o =>
    obtain ⟨k, base, overlay⟩ := o
    cases overlay <;> rfl

/-- What is laid over a section gives it the values of the fields it has. -/
theorem merged_section (os : List Overlaid) (key : String) {d : Option Document}
    (hbase : keysAscend (baseFields os) = true) (h : Shows (os.map part) d) :
    merged ⟨key, object (baseFields os), d⟩ = object (mergedFields os) := by
  cases h with
  | object hfields => exact merge_present hbase hfields
  | missing hnone =>
    have hempty : (object (baseFields os)).merge (object []).normalize = object (baseFields os) :=
      rfl
    rw [merged, Option.elim_none, ← hempty]
    exact merge_present hbase (List.Perm.of_eq hnone.symm)

/-- A value that takes the place of another one does so where it is kept. -/
theorem merged_keep {base value : Document} (h : base.merge value.normalize = value)
    (kept : Bool) : merged ⟨key, base, keep kept value⟩ = if kept then value else base := by
  cases kept with
  | true => exact h
  | false => rfl

end Overlaid

end FluentSql.Document
