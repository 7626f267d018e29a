import FluentSql.Join.Basic
import FluentSql.Proofs.Text.Masked
import FluentSql.Proofs.Text.Words

/-!
# Targets of joins

The words of a text decide whether it is read as the target of a join, and as which one: the first
is the table, the last the alias. What is written for a target is read as the same target.
-/

namespace FluentSql

namespace JoinTarget

open Text (Worded Solid)

variable {s : String} {t : JoinTarget} {ws : List String}

/-- The keyword in front of an alias in any case. -/
def keywords : List String :=
  ["as", "aS", "As", "AS"]

/-- The target that some words name. -/
inductive Names : List String → JoinTarget → Prop where
  | table (table : String) : Names [table] ⟨table, none⟩
  /-- A keyword without an alias behind it. -/
  | dangling (table : String) {keyword : String} (h : keyword ∈ keywords) :
      Names [table, keyword] ⟨table, none⟩
  | short (table : String) {name : String} (h : name ∉ keywords) :
      Names [table, name] ⟨table, some name⟩
  | full (table : String) {keyword : String} (name : String) (h : keyword ∈ keywords) :
      Names [table, keyword, name] ⟨table, some name⟩

/-- How a text is read as a target by its words. -/
structure ReadsWords (s : String) (ws : List String) : Prop where
  worded : Worded s.toList (ws.map String.toList)
  ok_iff : (∃ t, read s = .ok t) ↔ ws.length = 1 ∨ ws.length = 2 ∨
    ∃ table keyword name, ws = [table, keyword, name] ∧ keyword ∈ keywords
  refused : ∀ e, read s = .error e → e = .argument (.missingJoinTable s)
  table : ∀ t, read s = .ok t → some t.table = ws.head?
  aliasName : ∀ t, read s = .ok t → t.aliasName =
    if ws.length = 1 ∨ ws.length = 2 ∧ ∃ keyword ∈ keywords, ws.getLast? = some keyword then none
    else ws.getLast?
  /-- What is written for the target is read as the target. -/
  again : ∀ t, read s = .ok t → read t.sql = .ok t

/-! ## The keyword -/

theorem isAs_iff {word : String} : isAs word = true ↔ word ∈ keywords := by
  have ha : ∀ {c : Char}, c.toLower = 'a' ↔ c = 'a' ∨ c = 'A' := Text.toLower_eq_iff rfl (by decide)
  have hs : ∀ {c : Char}, c.toLower = 's' ↔ c = 's' ∨ c = 'S' := Text.toLower_eq_iff rfl (by decide)
  have hchars : isAs word = true ↔ word.toList.map Char.toLower = ['a', 's'] := by
    rw [isAs, beq_iff_eq, ← String.toList_inj, Text.toList_asciiLower]
    rfl
  rw [hchars]
  constructor
  · intro h
    obtain ⟨c, rest, hword, hc, hrest⟩ := List.map_eq_cons_iff.mp h
    obtain ⟨d, rest, rfl, hd, hnil⟩ := List.map_eq_cons_iff.mp hrest
    obtain rfl := List.map_eq_nil_iff.mp hnil
    obtain rfl : word = String.ofList [c, d] := by rw [← hword, String.ofList_toList]
    rcases ha.mp hc with rfl | rfl <;> rcases hs.mp hd with rfl | rfl <;> decide
  · intro h
    simp only [keywords, List.mem_cons, List.not_mem_nil, or_false] at h
    rcases h with rfl | rfl | rfl | rfl <;> decide

/-! ## Targets and their words -/

theorem names_of_read (h : read s = .ok t) : Names (Text.words s) t := by
  unfold read at h
  split at h
  · next table hwords =>
    obtain rfl := Except.ok.inj h
    exact hwords ▸ .table table
  · next table word hwords =>
    obtain rfl := Except.ok.inj h
    rw [hwords]
    split
    · next has => exact .dangling table (isAs_iff.mp has)
    · next has => exact .short table (mt isAs_iff.mpr has)
  · next table keyword name hwords =>
    split at h
    · next has =>
      obtain rfl := Except.ok.inj h
      exact hwords ▸ .full table name (isAs_iff.mp has)
    · cases h
  · cases h

theorem read_of_names (hwords : Text.words s = ws) (h : Names ws t) : read s = .ok t := by
  unfold read
  rw [hwords]
  cases h with
  | table table => rfl
  | dangling table has =>
    dsimp only
    rw [if_pos (isAs_iff.mpr has)]
  | short table has =>
    dsimp only
    rw [if_neg (mt isAs_iff.mp has)]
  | full table name has => exact if_pos (isAs_iff.mpr has)

theorem read_eq_ok_iff : read s = .ok t ↔ Names (Text.words s) t :=
  ⟨names_of_read, read_of_names rfl⟩

theorem missing_of_read {e : Error} (h : read s = .error e) :
    e = .argument (.missingJoinTable s) := by
  unfold read at h
  split at h
  · cases h
  · cases h
  · split at h
    · cases h
    · exact (Except.error.inj h).symm
  · exact (Except.error.inj h).symm

/-- One word or two always name a target, three if the second is the keyword. -/
theorem exists_names_iff : (∃ t, Names ws t) ↔ ws.length = 1 ∨ ws.length = 2 ∨
    ∃ table keyword name, ws = [table, keyword, name] ∧ keyword ∈ keywords := by
  constructor
  · rintro ⟨t, h⟩
    cases h with
    | table table => exact .inl rfl
    | dangling table has => exact .inr (.inl rfl)
    | short table has => exact .inr (.inl rfl)
    | full table name has => exact .inr (.inr ⟨table, _, name, rfl, has⟩)
  · rintro (hone | htwo | ⟨table, keyword, name, rfl, has⟩)
    · obtain ⟨table, rfl⟩ := List.length_eq_one_iff.mp hone
      exact ⟨_, .table table⟩
    · obtain ⟨table, word, rfl⟩ := List.length_eq_two.mp htwo
      by_cases has : word ∈ keywords
      · exact ⟨_, .dangling table has⟩
      · exact ⟨_, .short table has⟩
    · exact ⟨_, .full table name has⟩

theorem Names.mem (h : Names ws t) : t.table ∈ ws ∧ ∀ name ∈ t.aliasName, name ∈ ws := by
  cases h <;> simp

theorem Names.table_eq (h : Names ws t) : some t.table = ws.head? := by
  cases h <;> rfl

theorem Names.aliasName_eq (h : Names ws t) : t.aliasName =
    if ws.length = 1 ∨ ws.length = 2 ∧ ∃ keyword ∈ keywords, ws.getLast? = some keyword then none
    else ws.getLast? := by
  cases h with
  | table table => rfl
  | dangling table has => simp [has]
  | short table has => simp [has]
  | full table name has => rfl

/-- What is written for a target has the words of one that names it. -/
theorem names_words_sql (h : Names ws t) (hws : ∀ w ∈ ws, Solid w.toList) :
    Names (Text.words t.sql) t := by
  have hplain : ∀ {table : String}, Solid table.toList → Text.words table = [table] :=
    fun htable => Text.words_eq_iff.mpr htable.worded
  have hspaced : ∀ {table name : String}, Solid table.toList → Solid name.toList →
      Text.words (table ++ " AS " ++ name) = [table, "AS", name] := by
    intro table name htable hname
    have has : Solid "AS".toList := by simp [Solid, Text.isBlank]
    rw [Text.words_eq_iff]
    have h := htable.worded_append (has.worded_append hname.worded)
    simpa using h
  cases h with
  | table table =>
    rw [sql, hplain (hws table List.mem_cons_self)]
    exact .table table
  | dangling table hkeyword =>
    rw [sql, hplain (hws table List.mem_cons_self)]
    exact .table table
  | @short table name hname =>
    rw [sql, hspaced (hws table (by simp)) (hws name (by simp))]
    exact .full table name (by decide)
  | full table name hkeyword =>
    rw [sql, hspaced (hws table (by simp)) (hws name (by simp))]
    exact .full table name (by decide)

theorem readsWords (s : String) : ReadsWords s (Text.words s) where
  worded := Text.words_eq_iff.mp rfl
  ok_iff := by
    simp only [read_eq_ok_iff]
    exact exists_names_iff
  refused e := missing_of_read
  table t h := (names_of_read h).table_eq
  aliasName t h := (names_of_read h).aliasName_eq
  again t h := by
    refine read_eq_ok_iff.mpr (names_words_sql (names_of_read h) fun w hw => ?_)
    exact Text.solid_of_mem_words hw

/-- All three words are the keyword, with wide blanks between them. -/
example : read "\u2003AS\u3000As as " = .ok ⟨"AS", some "as"⟩ := by
  rfl

end JoinTarget

end FluentSql
