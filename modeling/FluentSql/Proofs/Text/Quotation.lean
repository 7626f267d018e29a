import FluentSql.Dialect.Placeholder
import FluentSql.Proofs.Text.Words

/-!
# Quotation in statements

A scan of a statement stands inside a string literal or outside of one, and every
single quote moves it across; a doubled quote leaves it where it was. `Closed` texts
bring the scan back outside and show no question mark there, so that they can stand
between placeholders without being taken for one.
-/

namespace FluentSql.Text

/-- Where a scan of `cs` ends when it starts `quoted`. -/
def quotedAfter (quoted : Bool) : List Char → Bool
  | [] => quoted
  | c :: cs => quotedAfter (if c = '\'' then !quoted else quoted) cs

/-- How often `mark` stands outside literals. -/
def openCount (mark : Char) (quoted : Bool) : List Char → Nat
  | [] => 0
  | c :: cs =>
    if c = '\'' then openCount mark (!quoted) cs
    else (if c = mark ∧ quoted = false then 1 else 0) + openCount mark quoted cs

/-- Balanced single quotes, and no question mark outside the literals they delimit. -/
def Closed (s : String) : Prop :=
  quotedAfter false s.toList = false ∧ openCount '?' false s.toList = 0

/-- Neither a single quote nor a question mark. -/
def Free (s : String) : Prop :=
  '\'' ∉ s.toList ∧ '?' ∉ s.toList

instance (s : String) : Decidable (Closed s) :=
  inferInstanceAs (Decidable (_ ∧ _))

instance (s : String) : Decidable (Free s) :=
  inferInstanceAs (Decidable (_ ∧ _))

theorem quotedAfter_append (quoted : Bool) (a b : List Char) :
    quotedAfter quoted (a ++ b) = quotedAfter (quotedAfter quoted a) b := by
  induction a generalizing quoted with
  | nil => rfl
  | cons c a ih => exact ih _

theorem openCount_append (mark : Char) (quoted : Bool) (a b : List Char) :
    openCount mark quoted (a ++ b) =
      openCount mark quoted a + openCount mark (quotedAfter quoted a) b := by
  induction a generalizing quoted with
  | nil => simp [openCount, quotedAfter]
  | cons c a ih =>
    by_cases hq : c = '\''
    · simp only [List.cons_append, openCount, quotedAfter, if_pos hq]
      exact ih _
    · simp only [List.cons_append, openCount, quotedAfter, if_neg hq]
      rw [ih quoted]
      omega

theorem quotedAfter_of_not_mem (quoted : Bool) {cs : List Char} (h : '\'' ∉ cs) :
    quotedAfter quoted cs = quoted := by
  induction cs with
  | nil => rfl
  | cons c cs ih =>
    have hc : c ≠ '\'' := fun he => h (he ▸ List.mem_cons_self)
    rw [quotedAfter, if_neg hc]
    exact ih fun hm => h (List.mem_cons_of_mem c hm)

theorem openCount_of_not_mem {mark : Char} (quoted : Bool) {cs : List Char} (h : mark ∉ cs) :
    openCount mark quoted cs = 0 := by
  induction cs generalizing quoted with
  | nil => rfl
  | cons c cs ih =>
    have hc : c ≠ mark := fun he => h (he ▸ List.mem_cons_self)
    have hcs : mark ∉ cs := fun hm => h (List.mem_cons_of_mem c hm)
    rw [openCount]
    split
    · exact ih _ hcs
    · rw [if_neg fun hm => hc hm.1, Nat.zero_add]
      exact ih _ hcs

/-- The text in front of the mark that has `k` open ones before it. -/
theorem exists_open_mark {mark : Char} {quoted : Bool} {cs : List Char} {k : Nat}
    (h : k < openCount mark quoted cs) :
    ∃ left right, cs = left ++ mark :: right ∧ quotedAfter quoted left = false ∧
      openCount mark quoted left = k := by
  induction cs generalizing quoted k with
  | nil => simp [openCount] at h
  | cons c cs ih =>
    by_cases hq : c = '\''
    · rw [openCount, if_pos hq] at h
      obtain ⟨left, right, hcs, hafter, hcount⟩ := ih h
      refine ⟨c :: left, right, by rw [hcs]; rfl, ?_, ?_⟩
      · rw [quotedAfter, if_pos hq]
        exact hafter
      · rw [openCount, if_pos hq]
        exact hcount
    · rw [openCount, if_neg hq] at h
      by_cases hopen : c = mark ∧ quoted = false
      · rw [if_pos hopen] at h
        cases k with
        | zero => exact ⟨[], cs, by rw [hopen.1]; rfl, hopen.2, rfl⟩
        | succ k =>
          have hk : k < openCount mark quoted cs := by omega
          obtain ⟨left, right, hcs, hafter, hcount⟩ := ih hk
          refine ⟨c :: left, right, by rw [hcs]; rfl, ?_, ?_⟩
          · rw [quotedAfter, if_neg hq]
            exact hafter
          · rw [openCount, if_neg hq, if_pos hopen, hcount]
            omega
      · rw [if_neg hopen, Nat.zero_add] at h
        obtain ⟨left, right, hcs, hafter, hcount⟩ := ih h
        refine ⟨c :: left, right, by rw [hcs]; rfl, ?_, ?_⟩
        · rw [quotedAfter, if_neg hq]
          exact hafter
        · rw [openCount, if_neg hq, if_neg hopen, hcount]
          omega

theorem closed_empty : Closed "" := by decide

theorem Free.closed {s : String} (h : Free s) : Closed s :=
  ⟨quotedAfter_of_not_mem false h.1, openCount_of_not_mem false h.2⟩

theorem Free.trim {s : String} (h : Free s) : Free (trim s) := by
  unfold Free Text.trim
  rw [String.toList_ofList]
  exact ⟨fun hc => h.1 (mem_of_mem_trimChars hc), fun hc => h.2 (mem_of_mem_trimChars hc)⟩

theorem Free.word {s w : String} (h : Free s) (hw : w ∈ words s) : Free w :=
  ⟨fun hc => h.1 (mem_of_mem_words hw hc), fun hc => h.2 (mem_of_mem_words hw hc)⟩

theorem Closed.append {a b : String} (ha : Closed a) (hb : Closed b) : Closed (a ++ b) := by
  unfold Closed
  rw [String.toList_append, quotedAfter_append, openCount_append, ha.1, ha.2, hb.1, hb.2]
  exact ⟨rfl, rfl⟩

/-- Balanced single quotes, and `k` question marks outside the literals they delimit. -/
def Marks (k : Nat) (s : String) : Prop :=
  quotedAfter false s.toList = false ∧ openCount '?' false s.toList = k

instance (k : Nat) (s : String) : Decidable (Marks k s) :=
  inferInstanceAs (Decidable (_ ∧ _))

theorem Closed.marks {s : String} (h : Closed s) : Marks 0 s := h

theorem Marks.append {a b : String} {m n : Nat} (ha : Marks m a) (hb : Marks n b) :
    Marks (m + n) (a ++ b) := by
  unfold Marks
  rw [String.toList_append, quotedAfter_append, openCount_append, ha.1, ha.2, hb.1, hb.2]
  exact ⟨rfl, rfl⟩

theorem marks_commaList {k : Nat} {parts : List String} (h : ∀ s ∈ parts, Marks k s) :
    Marks (parts.length * k) (commaList parts) := by
  have hcomma : Marks 0 ", " := by decide
  induction parts with
  | nil =>
    rw [List.length_nil, Nat.zero_mul]
    exact closed_empty.marks
  | cons s rest ih =>
    obtain ⟨hs, hrest⟩ := List.forall_mem_cons.mp h
    cases rest with
    | nil =>
      rw [List.length_singleton, Nat.one_mul]
      exact hs
    | cons t rest =>
      have happend := (hs.append hcomma).append (ih hrest)
      rw [Nat.add_zero, Nat.add_comm, ← Nat.succ_mul] at happend
      exact happend

/-- Blanks are neither quotes nor marks. -/
theorem not_mem_of_blank {c : Char} (hc : isBlank c = false) {cs : List Char}
    (h : ∀ d ∈ cs, isBlank d = true) : c ∉ cs := by
  intro hm
  rw [h c hm] at hc
  contradiction

/-- The blanks around a text hold neither quotes nor marks. -/
theorem closed_trim_iff {s : String} : Closed (trim s) ↔ Closed s := by
  obtain ⟨before, after, hs, hbefore, hafter⟩ := trimChars_split s.toList
  have hquote : isBlank '\'' = false := by decide
  have hmark : isBlank '?' = false := by decide
  have hend : quotedAfter false s.toList = quotedAfter false (trimChars s.toList) := by
    have hsplit := congrArg (quotedAfter false) hs
    rw [quotedAfter_append, quotedAfter_append,
      quotedAfter_of_not_mem _ (not_mem_of_blank hquote hbefore),
      quotedAfter_of_not_mem _ (not_mem_of_blank hquote hafter)] at hsplit
    exact hsplit
  have hcount : openCount '?' false s.toList = openCount '?' false (trimChars s.toList) := by
    have hsplit := congrArg (openCount '?' false) hs
    rw [openCount_append, openCount_append,
      quotedAfter_of_not_mem _ (not_mem_of_blank hquote hbefore),
      openCount_of_not_mem _ (not_mem_of_blank hmark hbefore),
      openCount_of_not_mem _ (not_mem_of_blank hmark hafter), Nat.zero_add, Nat.add_zero] at hsplit
    exact hsplit
  unfold Closed Text.trim
  rw [String.toList_ofList, hend, hcount]

theorem Closed.trim {s : String} (h : Closed s) : Closed (trim s) :=
  closed_trim_iff.mpr h

theorem free_natText (n : Nat) : Free (natText n) := by
  have hdigit : ∀ c ∈ Nat.toDigits 10 n, c.isDigit = true :=
    fun c hc => Nat.isDigit_of_mem_toDigits (by decide) (by decide) hc
  unfold Free natText
  rw [String.toList_ofList]
  refine ⟨fun h => ?_, fun h => ?_⟩
  · exact absurd (hdigit _ h) (by decide)
  · exact absurd (hdigit _ h) (by decide)

/-- Text that opens no literal. -/
def Unquoted (s : String) : Prop :=
  '\'' ∉ s.toList

instance (s : String) : Decidable (Unquoted s) :=
  inferInstanceAs (Decidable (_ ∉ _))

/-- A property of free texts that texts have when they are composed of texts that have it. -/
structure Composed (P : String → Prop) : Prop where
  free : ∀ {s : String}, Free s → P s
  append : ∀ {a b : String}, P a → P b → P (a ++ b)

theorem closed_composed : Composed Closed where
  free h := h.closed
  append ha hb := ha.append hb

theorem unquoted_composed : Composed Unquoted where
  free h := h.1
  append {a b} ha hb := by
    unfold Unquoted
    rw [String.toList_append]
    exact List.not_mem_append ha hb

theorem Composed.commaList {P : String → Prop} (hP : Composed P) {parts : List String}
    (h : ∀ s ∈ parts, P s) : P (commaList parts) := by
  induction parts with
  | nil => exact hP.free (by decide)
  | cons s rest ih =>
    obtain ⟨hs, hrest⟩ := List.forall_mem_cons.mp h
    cases rest with
    | nil => exact hs
    | cons t rest => exact hP.append (hP.append hs (hP.free (by decide))) (ih hrest)

/-- Inside a literal every quote is written twice, so the scan stays inside. -/
theorem scan_doubled (mark : Char) (s : List Char) :
    quotedAfter true (s.flatMap fun d => if d = '\'' then ['\'', '\''] else [d]) = true ∧
      openCount mark true (s.flatMap fun d => if d = '\'' then ['\'', '\''] else [d]) = 0 := by
  induction s with
  | nil => exact ⟨rfl, rfl⟩
  | cons c s ih =>
    rw [List.flatMap_cons]
    by_cases hq : c = '\''
    · rw [if_pos hq]
      exact ih
    · rw [if_neg hq, List.singleton_append]
      simp only [quotedAfter, openCount, if_neg hq]
      refine ⟨ih.1, ?_⟩
      simp [ih.2]

/-- A literal is closed whatever its content is. -/
theorem closed_literal (s : String) :
    Closed ("'" ++ replaceChar '\'' ['\'', '\''] s ++ "'") := by
  have hq : ("'" : String).toList = ['\''] := rfl
  have h := scan_doubled '?' s.toList
  unfold Closed replaceChar
  rw [String.toList_append, String.toList_append, hq, String.toList_ofList, List.append_assoc,
    quotedAfter_append, openCount_append, quotedAfter_append, openCount_append]
  have hopen : quotedAfter false ['\''] = true := rfl
  rw [hopen, h.1, h.2]
  exact ⟨rfl, rfl⟩

end FluentSql.Text
