import Mathlib.Data.List.DropRight
import Mathlib.Data.List.TakeWhile
import FluentSql.Text.Blank

/-!
# Trimmed texts

A text is its trimmed form between two runs of blanks. What a reader does not see in blanks,
it does not see in what trimming takes away.
-/

namespace FluentSql.Text

theorem dropTail_split (p : Char → Bool) (cs : List Char) :
    ∃ after, cs = dropTail p cs ++ after ∧ ∀ c ∈ after, p c = true := by
  refine ⟨(cs.reverse.takeWhile p).reverse, ?_, ?_⟩
  · have h := congrArg List.reverse (List.takeWhile_append_dropWhile (p := p) (l := cs.reverse))
    rw [List.reverse_append, List.reverse_reverse] at h
    exact h.symm
  · intro c hc
    exact List.mem_takeWhile_imp (List.mem_reverse.mp hc)

/-- Trimming takes a run of blanks from either end and nothing else. -/
theorem trimChars_split (cs : List Char) :
    ∃ before after, cs = before ++ trimChars cs ++ after ∧
      (∀ c ∈ before, isBlank c = true) ∧ ∀ c ∈ after, isBlank c = true := by
  obtain ⟨after, htail, hafter⟩ := dropTail_split isBlank (trimLeftChars cs)
  refine ⟨cs.takeWhile isBlank, after, ?_, ?_, hafter⟩
  · have h := List.takeWhile_append_dropWhile (p := isBlank) (l := cs)
    change cs.takeWhile isBlank ++ trimLeftChars cs = cs at h
    rw [htail] at h
    rw [List.append_assoc]
    exact h.symm
  · intro c hc
    exact List.mem_takeWhile_imp hc

theorem mem_of_mem_trimChars {c : Char} {cs : List Char} (h : c ∈ trimChars cs) : c ∈ cs := by
  obtain ⟨before, after, hcs, _, _⟩ := trimChars_split cs
  rw [hcs]
  exact List.mem_append_left _ (List.mem_append_right _ h)

theorem isBlank_head_trimChars {cs rest : List Char} {c : Char} (h : trimChars cs = c :: rest) :
    isBlank c = false := by
  obtain ⟨after, htail, _⟩ := dropTail_split isBlank (trimLeftChars cs)
  have hleft : cs.dropWhile isBlank = c :: (rest ++ after) := by
    change dropTail isBlank (trimLeftChars cs) = c :: rest at h
    rw [h] at htail
    exact htail
  have hhead := List.head?_dropWhile_not isBlank cs
  rw [hleft] at hhead
  exact hhead

theorem trimChars_trimChars (cs : List Char) : trimChars (trimChars cs) = trimChars cs := by
  have hleft : trimLeftChars (trimChars cs) = trimChars cs := by
    unfold trimLeftChars
    cases h : trimChars cs with
    | nil => rfl
    | cons c rest =>
      have hc := isBlank_head_trimChars h
      exact List.dropWhile_cons_of_neg (by simp [hc])
  rw [trimChars, hleft]
  exact List.rdropWhile_idempotent isBlank (trimLeftChars cs)

@[simp] theorem trim_trim (s : String) : trim (trim s) = trim s := by
  simp [trim, trimChars_trimChars]

/-- Of a text of blanks trimming leaves nothing, and of any other text something. -/
theorem isBlankText_iff {s : String} : isBlankText s = true ↔ trim s = "" := by
  have hnil : trim s = "" ↔ trimChars s.toList = [] := by
    rw [trim, ← String.toList_inj, String.toList_ofList]
    rfl
  rw [isBlankText, List.all_eq_true, hnil]
  constructor
  · intro hall
    have hleft : trimLeftChars s.toList = [] := List.dropWhile_eq_nil_iff.mpr hall
    rw [trimChars, hleft]
    rfl
  · intro htrim
    obtain ⟨before, after, hcs, hbefore, hafter⟩ := trimChars_split s.toList
    rw [htrim, List.append_nil] at hcs
    rw [hcs]
    exact List.forall_mem_append.mpr ⟨hbefore, hafter⟩

theorem isBlankText_trim_of_ne {s : String} (h : trim s ≠ "") : isBlankText (trim s) = false := by
  rw [← Bool.not_eq_true, isBlankText_iff, trim_trim]
  exact h

end FluentSql.Text
