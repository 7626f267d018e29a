import FluentSql.Proofs.Text.Blank

/-!
# The words of a text

`Worded` says which words stand in a text, with what blanks around them: each is as long as it can
be. `wordsOf` finds exactly these, so that words written with one blank between them are found
again.
-/

namespace FluentSql.Text

/-- A run of characters without a blank. -/
def Solid (w : List Char) : Prop :=
  w ≠ [] ∧ ∀ c ∈ w, isBlank c = false

/-- The text consists of the words in order, with blanks around and between them. -/
inductive Worded : List Char → List (List Char) → Prop where
  | blank {cs : List Char} (h : ∀ c ∈ cs, isBlank c = true) : Worded cs []
  /-- Behind a word the text is over or goes on with a blank. -/
  | word (before w : List Char) {rest : List Char} {ws : List (List Char)}
      (hbefore : ∀ c ∈ before, isBlank c = true) (hw : Solid w)
      (hend : rest.head?.all isBlank = true) (hrest : Worded rest ws) :
      Worded (before ++ (w ++ rest)) (w :: ws)

theorem wordsOf_append_of_blank {before : List Char} (h : ∀ c ∈ before, isBlank c = true)
    (cs : List Char) : wordsOf (before ++ cs) = wordsOf cs := by
  induction before with
  | nil => rfl
  | cons c before ih =>
    obtain ⟨hc, hbefore⟩ := List.forall_mem_cons.mp h
    rw [List.cons_append, wordsOf, if_pos hc, ih hbefore]

theorem wordsOf_append_of_solid {w rest : List Char} (hw : Solid w)
    (hend : rest.head?.all isBlank = true) : wordsOf (w ++ rest) = w :: wordsOf rest := by
  obtain ⟨hne, hblank⟩ := hw
  induction w with
  | nil => exact absurd rfl hne
  | cons c w ih =>
    obtain ⟨hc, hw⟩ := List.forall_mem_cons.mp hblank
    rw [List.cons_append, wordsOf, if_neg (by simp [hc])]
    cases w with
    | nil => rw [List.nil_append, if_pos hend]
    | cons d w =>
      have hd : isBlank d = false := hw d List.mem_cons_self
      rw [if_neg (by simp [hd]), ih (List.cons_ne_nil d w) hw]

theorem wordsOf_of_worded {cs : List Char} {ws : List (List Char)} (h : Worded cs ws) :
    wordsOf cs = ws := by
  induction h with
  | @blank cs h =>
    have hwords := wordsOf_append_of_blank h []
    rw [List.append_nil] at hwords
    exact hwords
  | word before w hbefore hw hend _ ih =>
    rw [wordsOf_append_of_blank hbefore, wordsOf_append_of_solid hw hend, ih]

/-- A blank in front of a text belongs to no word. -/
theorem Worded.cons_blank {cs : List Char} {ws : List (List Char)} {c : Char} (h : Worded cs ws)
    (hc : isBlank c = true) : Worded (c :: cs) ws := by
  cases h with
  | blank h => exact .blank (List.forall_mem_cons.mpr ⟨hc, h⟩)
  | word before w hbefore hw hend hrest =>
    exact .word (c :: before) w (List.forall_mem_cons.mpr ⟨hc, hbefore⟩) hw hend hrest

theorem head?_all_of_forall {cs : List Char} (h : ∀ c ∈ cs, isBlank c = true) :
    cs.head?.all isBlank = true := by
  cases cs with
  | nil => rfl
  | cons c cs => exact h c List.mem_cons_self

theorem worded_wordsOf (cs : List Char) : Worded cs (wordsOf cs) := by
  induction cs with
  | nil => exact .blank (List.forall_mem_nil _)
  | cons c cs ih =>
    rw [wordsOf]
    by_cases hc : isBlank c = true
    · rw [if_pos hc]
      exact ih.cons_blank hc
    rw [if_neg hc]
    rw [Bool.not_eq_true] at hc
    by_cases hlast : cs.head?.all isBlank = true
    · rw [if_pos hlast]
      exact .word [] [c] (List.forall_mem_nil _) ⟨List.cons_ne_nil c [], by simp [hc]⟩
        hlast ih
    · rw [if_neg hlast]
      generalize wordsOf cs = ws at ih
      cases ih with
      | blank h => exact absurd (head?_all_of_forall h) hlast
      | word before w hbefore hw hend hrest =>
        obtain rfl : before = [] := by
          cases before with
          | nil => rfl
          | cons d before => exact absurd (hbefore d List.mem_cons_self) hlast
        exact .word [] (c :: w) (List.forall_mem_nil _)
          ⟨List.cons_ne_nil c w, List.forall_mem_cons.mpr ⟨hc, hw.2⟩⟩ hend hrest

theorem wordsOf_eq_iff {cs : List Char} {ws : List (List Char)} :
    wordsOf cs = ws ↔ Worded cs ws :=
  ⟨fun h => h ▸ worded_wordsOf cs, wordsOf_of_worded⟩

theorem words_eq_iff {s : String} {ws : List String} :
    words s = ws ↔ Worded s.toList (ws.map String.toList) := by
  rw [← wordsOf_eq_iff, words]
  constructor
  · rintro rfl
    rw [List.map_map]
    exact (List.map_congr_left fun w _ => String.toList_ofList).trans (List.map_id _) |>.symm
  · intro h
    rw [h, List.map_map]
    exact (List.map_congr_left fun w _ => String.ofList_toList).trans (List.map_id _)

theorem Worded.solid {cs w : List Char} {ws : List (List Char)} (h : Worded cs ws) (hw : w ∈ ws) :
    Solid w := by
  induction h with
  | blank => cases hw
  | word _ _ _ hsolid _ _ ih =>
    rcases List.mem_cons.mp hw with rfl | hw
    · exact hsolid
    · exact ih hw

/-- A word is made of characters of the text. -/
theorem Worded.subset {cs w : List Char} {ws : List (List Char)} (h : Worded cs ws) (hw : w ∈ ws) :
    w ⊆ cs := by
  induction h with
  | blank => cases hw
  | word before _ _ _ _ _ ih =>
    refine List.Subset.trans ?_ (List.subset_append_right before _)
    rcases List.mem_cons.mp hw with rfl | hw
    · exact List.subset_append_left _ _
    · exact List.Subset.trans (ih hw) (List.subset_append_right _ _)

theorem solid_of_mem_words {s w : String} (h : w ∈ words s) : Solid w.toList := by
  obtain ⟨cs, hcs, rfl⟩ := List.mem_map.mp h
  rw [String.toList_ofList]
  exact (worded_wordsOf _).solid hcs

theorem unbroken_of_mem_words {s w : String} (h : w ∈ words s) :
    w ≠ "" ∧ ∀ c ∈ w.toList, isBlank c = false := by
  obtain ⟨hne, hblank⟩ := solid_of_mem_words h
  refine ⟨?_, hblank⟩
  rintro rfl
  exact hne rfl

theorem mem_of_mem_words {s w : String} (h : w ∈ words s) {c : Char} (hc : c ∈ w.toList) :
    c ∈ s.toList := by
  obtain ⟨cs, hcs, rfl⟩ := List.mem_map.mp h
  rw [String.toList_ofList] at hc
  exact (worded_wordsOf _).subset hcs hc

/-- A word alone is a text of one word. -/
theorem Solid.worded {w : List Char} (hw : Solid w) : Worded w [w] := by
  have h := Worded.word [] w (List.forall_mem_nil _) hw rfl (.blank (List.forall_mem_nil _))
  rw [List.nil_append, List.append_nil] at h
  exact h

/-- A blank between them keeps a word apart from those behind it. -/
theorem Solid.worded_append {w cs : List Char} {ws : List (List Char)} (hw : Solid w)
    (h : Worded cs ws) : Worded (w ++ ' ' :: cs) (w :: ws) :=
  .word [] w (List.forall_mem_nil _) hw rfl (h.cons_blank rfl)

end FluentSql.Text
