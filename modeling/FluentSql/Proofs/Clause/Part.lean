import FluentSql.Proofs.Clause.Fragment
import FluentSql.Proofs.Dialect.Placeholder

/-!
# Parts of statements

A statement falls into parts, each with a text in question marks and the values it
binds. When the parts are balanced the lowered statement is aligned with them: the
value at position `k` belongs to the part in which placeholder `k` stands, and to the
place it has there.
-/

namespace FluentSql

open FluentSql.Text

/-- A stretch of a statement with the values it binds. -/
structure Part where
  text : String
  values : List Value

namespace Part

/-- A part that binds nothing. -/
def plain (s : String) : Part := ⟨s, []⟩

def ofPredicate (p : Predicate) : Part := ⟨p.sql, p.values⟩

/-- The part with text in front of it. -/
def behind (lead : String) (p : Part) : Part :=
  { p with text := lead ++ p.text }

/-- The parts as a comma list; each but the last takes the comma behind it. -/
def listed : List Part → List Part
  | [] => []
  | [p] => [p]
  | p :: next :: rest => { p with text := p.text ++ ", " } :: listed (next :: rest)

def textOf (parts : List Part) : List Char :=
  parts.flatMap (·.text.toList)

def valuesOf (parts : List Part) : List Value :=
  parts.flatMap (·.values)

/-- Balanced quotes, and one open question mark for each value. -/
def Balanced (p : Part) : Prop :=
  quotedAfter false p.text.toList = false ∧ openCount '?' false p.text.toList = p.values.length

theorem scan_textOf {parts : List Part} (h : ∀ p ∈ parts, p.Balanced) :
    quotedAfter false (textOf parts) = false ∧
      openCount '?' false (textOf parts) = (valuesOf parts).length := by
  induction parts with
  | nil => exact ⟨rfl, rfl⟩
  | cons p parts ih =>
    obtain ⟨hend, hcount⟩ := h p List.mem_cons_self
    obtain ⟨hrest, hrestCount⟩ := ih fun q hq => h q (List.mem_cons_of_mem p hq)
    have htext : textOf (p :: parts) = p.text.toList ++ textOf parts := rfl
    have hvalues : valuesOf (p :: parts) = p.values ++ valuesOf parts := rfl
    rw [htext, hvalues, quotedAfter_append, openCount_append, hend, hcount, hrestCount,
      List.length_append]
    exact ⟨hrest, rfl⟩

/-- The place of value `k`: the part it belongs to, and the open question mark there
that has as many before it as the value has values of its part before it. -/
structure Place (parts : List Part) (k : Nat) (v : Value) where
  before : List Part
  part : Part
  after : List Part
  left : List Char
  right : List Char
  parts_eq : parts = before ++ part :: after
  text_eq : part.text.toList = left ++ '?' :: right
  outside : quotedAfter false (textOf before ++ left) = false
  value_eq : part.values[openCount '?' false left]? = some v
  count_eq : openCount '?' false (textOf before ++ left) = k
  index_eq : (valuesOf before).length + openCount '?' false left = k

/-- The part that holds the value at a position of a part list. -/
theorem exists_part {parts : List Part} {k : Nat} {v : Value}
    (h : (valuesOf parts)[k]? = some v) :
    ∃ before part after j, parts = before ++ part :: after ∧ part.values[j]? = some v ∧
      (valuesOf before).length + j = k := by
  induction parts generalizing k with
  | nil => cases h
  | cons p parts ih =>
    have hvalues : valuesOf (p :: parts) = p.values ++ valuesOf parts := rfl
    rw [hvalues] at h
    by_cases hk : k < p.values.length
    · rw [List.getElem?_append_left hk] at h
      exact ⟨[], p, parts, k, rfl, h, Nat.zero_add k⟩
    · rw [List.getElem?_append_right (by omega)] at h
      obtain ⟨before, part, after, j, rfl, hj, hindex⟩ := ih h
      refine ⟨p :: before, part, after, j, rfl, hj, ?_⟩
      have hbefore : valuesOf (p :: before) = p.values ++ valuesOf before := rfl
      rw [hbefore, List.length_append]
      omega

theorem exists_place {parts : List Part} (h : ∀ p ∈ parts, p.Balanced) {k : Nat} {v : Value}
    (hv : (valuesOf parts)[k]? = some v) : Nonempty (Place parts k v) := by
  obtain ⟨before, part, after, j, hparts, hj, hindex⟩ := exists_part hv
  have hpart := h part (hparts ▸ List.mem_append_right before List.mem_cons_self)
  have hbefore := scan_textOf fun p hp => h p (hparts ▸ List.mem_append_left _ hp)
  obtain ⟨hlt, _⟩ := List.getElem?_eq_some_iff.mp hj
  have hopen : j < openCount '?' false part.text.toList := by
    rw [hpart.2]
    exact hlt
  obtain ⟨left, right, htext, hafter, hcount⟩ := exists_open_mark hopen
  refine ⟨⟨before, part, after, left, right, hparts, htext, ?_, ?_, ?_, ?_⟩⟩
  · rw [quotedAfter_append, hbefore.1]
    exact hafter
  · rw [hcount]
    exact hj
  · rw [openCount_append, hbefore.1, hbefore.2, hcount]
    exact hindex
  · rw [hcount]
    exact hindex

/-- A statement whose placeholders and parameters are those of its parts, in order. -/
structure Aligned (d : Dialect) (parts : List Part) (s : BoundStatement) : Prop where
  text : s.sql.toList = d.written 1 (textOf parts)
  params : s.params = valuesOf parts
  /-- The placeholder of parameter `k` stands at its place, between the placeholders of
  the parameters before it and of those behind it. -/
  placed : ∀ k v, s.params[k]? = some v → ∃ place : Place parts k v,
    s.sql.toList = d.written 1 (textOf place.before ++ place.left) ++ d.mark (k + 1) ++
      d.written (k + 2) (place.right ++ textOf place.after)
  /-- Question marks are counted by the parameters. -/
  marks : d.isNumbered = false → openCount '?' false s.sql.toList = s.params.length
  /-- Numbered placeholders leave no question mark; dollar signs that the parts bring
  themselves are counted apart. -/
  numbers : d.isNumbered = true → openCount '?' false s.sql.toList = 0 ∧
    openCount '$' false s.sql.toList = openCount '$' false (textOf parts) + s.params.length

/-- The lowered text cut at a place. -/
theorem Place.written_eq {parts : List Part} {k : Nat} {v : Value} (place : Place parts k v)
    (d : Dialect) :
    d.written 1 (textOf parts) =
      d.written 1 (textOf place.before ++ place.left) ++ d.mark (k + 1) ++
        d.written (k + 2) (place.right ++ textOf place.after) := by
  have hcut : textOf parts =
      (textOf place.before ++ place.left) ++ '?' :: (place.right ++ textOf place.after) := by
    have hparts := congrArg textOf place.parts_eq
    have hsplit : textOf (place.before ++ place.part :: place.after) =
        textOf place.before ++ (place.part.text.toList ++ textOf place.after) :=
      List.flatMap_append
    rw [hparts, hsplit, place.text_eq]
    simp only [List.append_assoc, List.cons_append]
  rw [hcut, d.written_append place.outside, place.count_eq, d.written_mark, Nat.add_comm 1 k,
    List.append_assoc]

theorem aligned_of_balanced {d : Dialect} {parts : List Part} {s : BoundStatement}
    (hparts : ∀ p ∈ parts, p.Balanced) (htext : s.sql.toList = d.written 1 (textOf parts))
    (hparams : s.params = valuesOf parts) : Aligned d parts s := by
  have hcount := (scan_textOf hparts).2
  refine ⟨htext, hparams, ?_, ?_, ?_⟩
  · intro k v hv
    rw [hparams] at hv
    obtain ⟨place⟩ := exists_place hparts hv
    refine ⟨place, ?_⟩
    rw [htext]
    exact place.written_eq d
  · intro hplain
    have hsame : d.written 1 (textOf parts) = textOf parts := by
      unfold Dialect.written
      rw [hplain]
      rfl
    rw [htext, hsame, hparams]
    exact hcount
  · intro hnumbered
    have h := d.openCount_written_of_numbered hnumbered 1 (textOf parts)
    rw [htext, hparams, ← hcount]
    exact h

/-- The part of a run of fragments. -/
def ofFragments (fs : List Fragment) : Part :=
  ⟨Fragment.renderAll fs, Fragment.values fs⟩

/-- Fragments cut into runs, one for each part. -/
def Cut (fs : List Fragment) (parts : List Part) : Prop :=
  ∃ runs : List (List Fragment), fs = runs.flatten ∧ parts = runs.map ofFragments

theorem Cut.nil : Cut [] [] := ⟨[], rfl, rfl⟩

theorem Cut.append {fs gs : List Fragment} {ps qs : List Part} (h : Cut fs ps)
    (h' : Cut gs qs) : Cut (fs ++ gs) (ps ++ qs) := by
  obtain ⟨runs, rfl, rfl⟩ := h
  obtain ⟨runs', rfl, rfl⟩ := h'
  exact ⟨runs ++ runs', List.flatten_append.symm, List.map_append.symm⟩

/-- One run in front. -/
theorem Cut.cons {fs gs : List Fragment} {p : Part} {ps : List Part} (hp : p = ofFragments fs)
    (h : Cut gs ps) : Cut (fs ++ gs) (p :: ps) := by
  obtain ⟨runs, rfl, rfl⟩ := h
  exact ⟨fs :: runs, rfl, by rw [hp]; rfl⟩

theorem Cut.text {gs : List Fragment} {ps : List Part} (s : String) (h : Cut gs ps) :
    Cut (.text s :: gs) (plain s :: ps) := by
  have hp : plain s = ofFragments [.text s] := by
    unfold ofFragments
    rw [Fragment.renderAll_singleton]
    rfl
  exact Cut.cons hp h

theorem textOf_ofFragments (runs : List (List Fragment)) :
    textOf (runs.map ofFragments) = (Fragment.renderAll runs.flatten).toList := by
  induction runs with
  | nil => rfl
  | cons run runs ih =>
    have hcons : textOf ((run :: runs).map ofFragments) =
        (Fragment.renderAll run).toList ++ textOf (runs.map ofFragments) := rfl
    rw [hcons, ih, List.flatten_cons, Fragment.renderAll_append, String.toList_append]

theorem valuesOf_ofFragments (runs : List (List Fragment)) :
    valuesOf (runs.map ofFragments) = Fragment.values runs.flatten := by
  induction runs with
  | nil => rfl
  | cons run runs ih =>
    have hcons : valuesOf ((run :: runs).map ofFragments) =
        Fragment.values run ++ valuesOf (runs.map ofFragments) := rfl
    rw [hcons, ih, List.flatten_cons, Fragment.values_append]

theorem Cut.textOf_eq {fs : List Fragment} {parts : List Part} (h : Cut fs parts) :
    textOf parts = (Fragment.renderAll fs).toList := by
  obtain ⟨runs, rfl, rfl⟩ := h
  exact textOf_ofFragments runs

theorem Cut.valuesOf_eq {fs : List Fragment} {parts : List Part} (h : Cut fs parts) :
    valuesOf parts = Fragment.values fs := by
  obtain ⟨runs, rfl, rfl⟩ := h
  exact valuesOf_ofFragments runs

theorem Cut.balanced {fs : List Fragment} {parts : List Part} (h : Cut fs parts)
    (hclosed : ∀ f ∈ fs, f.Closed) : ∀ p ∈ parts, p.Balanced := by
  obtain ⟨runs, rfl, rfl⟩ := h
  intro p hp
  obtain ⟨run, hrun, rfl⟩ := List.mem_map.mp hp
  exact Fragment.scan_renderAll fun f hf => hclosed f (List.mem_flatten.mpr ⟨run, hrun, hf⟩)

/-- Closed fragments make an aligned statement, however they are cut. -/
theorem Cut.aligned {fs : List Fragment} {parts : List Part} (h : Cut fs parts)
    (hclosed : ∀ f ∈ fs, f.Closed) (d : Dialect) :
    Aligned d parts ⟨d.lowerPlaceholders (Fragment.renderAll fs), Fragment.values fs⟩ := by
  apply aligned_of_balanced (h.balanced hclosed)
  · rw [h.textOf_eq]
    exact d.toList_lowerPlaceholders _
  · exact h.valuesOf_eq.symm

end Part

end FluentSql
