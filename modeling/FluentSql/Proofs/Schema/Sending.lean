import FluentSql.Migration.Ledger
import FluentSql.Proofs.Dialect.Placeholder
import FluentSql.Proofs.Query.Terminal
import FluentSql.Proofs.Schema.Names
import FluentSql.Proofs.Session.Exchange

/-!
# Schema text on its way to the database

The ledger sends the text of a migration as it sends any statement, with its open question
marks lowered. Schema text is quoted in a way of its own: the scan for question marks knows
single quotes alone, so it looks into the names. Where numbers stand for question marks, the
text therefore arrives as it was written exactly if no name shows a question mark to it.
-/

namespace FluentSql

open Text SchemaPiece

namespace Session

variable {α : Type} {s : BoundStatement}

theorem sends_query_bind_iff {d : Dialect} {sql : String} {params : List Value}
    {f : Output → Session α} :
    (query d sql params >>= f).Sends s ↔
      s = d.bound sql params ∨ ∃ output, (f output).Sends s := by
  constructor
  · intro h
    cases h with
    | here => exact .inl rfl
    | later answer h =>
      cases answer with
      | ok output => exact .inr ⟨output, h⟩
      | error e => cases h
  · rintro (rfl | ⟨output, h⟩)
    · exact .here
    · exact .later (.ok output) h

theorem sends_note_bind_iff {level : LogLevel} {message : String} {f : Unit → Session α} :
    (note level message >>= f).Sends s ↔ (f ()).Sends s := by
  constructor
  · intro h
    cases h with
    | logged h => exact h
  · exact .logged

theorem not_sends_pure (a : α) : ¬(pure a : Session α).Sends s := nofun

end Session

namespace Ledger

variable {d : Dialect} {sql name : String} {s : BoundStatement}

theorem record_sends_iff : (record d name).Sends s ↔ s = d.bound insertion [.string name] := by
  rw [record, Session.sends_query_bind_iff]
  refine or_iff_left ?_
  rintro ⟨output, h⟩
  split at h
  · exact Session.not_sends_pure false (Session.sends_note_bind_iff.mp h)
  · exact Session.not_sends_pure true (Session.sends_note_bind_iff.mp h)

/-- What an application can send, depending on the answers. -/
theorem apply_sends_iff :
    (apply d sql name).Sends s ↔ s = d.bound lookup [.string name] ∨ s = d.bound sql [] ∨
      s = d.bound insertion [.string name] := by
  rw [apply, Session.sends_query_bind_iff]
  refine or_congr_right ?_
  constructor
  · rintro ⟨found, h⟩
    split at h
    · exact absurd h (Session.not_sends_pure _)
    · rcases Session.sends_query_bind_iff.mp h with h | ⟨output, h⟩
      · exact .inl h
      · split at h
        · exact .inr (record_sends_iff.mp h)
        · exact absurd (Session.sends_note_bind_iff.mp h) (Session.not_sends_pure _)
  · intro h
    have hnew : (!(Output.rows []).toRows.isEmpty) = false := rfl
    refine ⟨.rows [], ?_⟩
    rw [if_neg (by rw [hnew]; exact Bool.false_ne_true), Session.sends_query_bind_iff]
    refine h.imp_right fun h => ⟨.done, ?_⟩
    exact record_sends_iff.mpr h

theorem revert_sends_iff :
    (revert d sql name).Sends s ↔ s = d.bound removal [.string name] ∨ s = d.bound sql [] := by
  rw [revert, Session.sends_query_bind_iff]
  refine or_congr_right ?_
  simp only [Session.sends_query_bind_iff, Session.sends_note_bind_iff]
  constructor
  · rintro ⟨removed, h | ⟨output, h⟩⟩
    · exact h
    · exact absurd h (Session.not_sends_pure _)
  · intro h
    exact ⟨.done, .inl h⟩

/-- Applied or reverted, the migration sends the text as it is, and nothing else that comes
without values. -/
def SendsText (d : Dialect) (text name : String) : Prop :=
  ∀ s : BoundStatement, s.params = [] →
    ((apply d text name).Sends s ↔ s = ⟨text, []⟩) ∧
      ((revert d text name).Sends s ↔ s = ⟨text, []⟩)

theorem sendsText_iff {text : String} :
    SendsText d text name ↔ d.lowerPlaceholders text = text := by
  constructor
  · intro h
    have hsent := (h (d.bound text []) rfl).2.mp (revert_sends_iff.mpr (.inr rfl))
    exact congrArg BoundStatement.sql hsent
  · intro h s hparams
    have hbound : d.bound text [] = ⟨text, []⟩ := congrArg (BoundStatement.mk · []) h
    have hother : ∀ other, s ≠ d.bound other [.string name] := by
      rintro other rfl
      cases hparams
    rw [apply_sends_iff, revert_sends_iff, hbound]
    constructor
    · exact ⟨fun hs => (hs.resolve_left (hother _)).resolve_right (hother _),
        fun hs => .inr (.inl hs)⟩
    · exact ⟨fun hs => hs.resolve_left (hother _), .inr⟩

end Ledger

/-! ## Question marks of the names -/

theorem Bare.closed {s : String} (h : Bare s) : Closed s :=
  Free.closed ⟨h.notMem (by decide), h.notMem (by decide)⟩

theorem kept_closed : Kept Closed :=
  ⟨Bare.closed, Closed.append⟩

section Names

variable (d : Dialect)

/-- The marks that quote a name are neither single quotes nor question marks. -/
theorem scan_identifierQuote (quoted : Bool) :
    quotedAfter quoted [d.identifierQuote] = quoted ∧
      openCount '?' quoted [d.identifierQuote] = 0 := by
  cases d <;> cases quoted <;> decide

theorem scan_marksDoubled (quoted : Bool) (cs : List Char) :
    quotedAfter quoted (cs.flatMap fun c =>
        if c = d.identifierQuote then [d.identifierQuote, d.identifierQuote] else [c]) =
          quotedAfter quoted cs ∧
      openCount '?' quoted (cs.flatMap fun c =>
        if c = d.identifierQuote then [d.identifierQuote, d.identifierQuote] else [c]) =
          openCount '?' quoted cs := by
  induction cs generalizing quoted with
  | nil => exact ⟨rfl, rfl⟩
  | cons c cs ih =>
    have hhead : quotedAfter quoted (if c = d.identifierQuote then
          [d.identifierQuote, d.identifierQuote] else [c]) = quotedAfter quoted [c] ∧
        openCount '?' quoted (if c = d.identifierQuote then
          [d.identifierQuote, d.identifierQuote] else [c]) = openCount '?' quoted [c] := by
      by_cases hc : c = d.identifierQuote
      · subst hc
        rw [if_pos rfl]
        cases d <;> cases quoted <;> decide
      · rw [if_neg hc]
        exact ⟨rfl, rfl⟩
    rw [List.flatMap_cons, quotedAfter_append, openCount_append, hhead.1, hhead.2, (ih _).1,
      (ih _).2, ← quotedAfter_append, ← openCount_append]
    exact ⟨rfl, rfl⟩

/-- The scan sees of a quoted name what it sees of the name. -/
theorem scan_quoteIdentifier (quoted : Bool) (name : String) :
    quotedAfter quoted (d.quoteIdentifier name).toList = quotedAfter quoted name.toList ∧
      openCount '?' quoted (d.quoteIdentifier name).toList =
        openCount '?' quoted name.toList := by
  have hsplit : (d.quoteIdentifier name).toList = [d.identifierQuote] ++
      ((name.toList.flatMap fun c =>
        if c = d.identifierQuote then [d.identifierQuote, d.identifierQuote] else [c]) ++
          [d.identifierQuote]) := String.toList_ofList
  obtain ⟨hquoted, hopen⟩ := scan_marksDoubled d quoted name.toList
  rw [hsplit, quotedAfter_append, openCount_append, (scan_identifierQuote d quoted).1,
    (scan_identifierQuote d quoted).2, quotedAfter_append, openCount_append, hquoted, hopen,
    (scan_identifierQuote d _).1, (scan_identifierQuote d _).2]
  exact ⟨rfl, by omega⟩

/-- Question marks are numbered alike in a name and between its marks. -/
theorem numberMarks_marksDoubled (quoted : Bool) (n : Nat) (cs : List Char) :
    Dialect.numberMarks quoted n (cs.flatMap fun c =>
        if c = d.identifierQuote then [d.identifierQuote, d.identifierQuote] else [c]) =
      (Dialect.numberMarks quoted n cs).flatMap fun c =>
        if c = d.identifierQuote then [d.identifierQuote, d.identifierQuote] else [c] := by
  have hquote : d.identifierQuote ≠ '\'' := by cases d <;> decide
  have hmark : d.identifierQuote ≠ '?' := by cases d <;> decide
  have hlead : '$' ≠ d.identifierQuote := by cases d <;> decide
  have hdigit : d.identifierQuote.isDigit = false := by cases d <;> decide
  have hnumber : ∀ {digits : List Char}, d.identifierQuote ∉ digits → (digits.flatMap fun c =>
      if c = d.identifierQuote then [d.identifierQuote, d.identifierQuote] else [c]) = digits := by
    intro digits hnone
    refine (List.flatMap_congr fun c hc => if_neg ?_).trans (List.flatMap_singleton' digits)
    rintro rfl
    exact hnone hc
  induction cs generalizing quoted n with
  | nil => rfl
  | cons c cs ih =>
    rw [List.flatMap_cons]
    by_cases hc : c = d.identifierQuote
    · subst hc
      simp only [if_true, List.cons_append, List.nil_append, Dialect.numberMarks, if_neg hquote,
        hmark, false_and, if_false, List.flatMap_cons, ih]
    · rw [if_neg hc, List.cons_append, List.nil_append, Dialect.numberMarks, Dialect.numberMarks]
      split
      · rw [ih, List.flatMap_cons, if_neg hc]
        rfl
      · split
        · rw [ih, List.cons_append, List.cons_append, List.flatMap_cons, if_neg hlead,
            List.flatMap_append, hnumber (Dialect.not_mem_toDigits hdigit n)]
          rfl
        · rw [ih, List.flatMap_cons, if_neg hc]
          rfl

/-- A quoted name is lowered as the name itself. -/
theorem written_quoteIdentifier (n : Nat) (name : String) {rest : List Char}
    (h : ∀ quoted, openCount '?' quoted rest = 0) :
    d.written n ((d.quoteIdentifier name).toList ++ rest) =
      (d.quoteIdentifier (String.ofList (d.written n name.toList))).toList ++ rest := by
  unfold Dialect.written
  cases d.isNumbered with
  | false => simp only [Bool.false_eq_true, if_false, String.ofList_toList]
  | true =>
    have hbehind : ∀ quoted n, Dialect.numberMarks quoted n (d.identifierQuote :: rest) =
        d.identifierQuote :: rest := by
      intro quoted n
      refine Dialect.numberMarks_of_openCount_eq_zero ?_ n
      have hcount := openCount_append '?' quoted [d.identifierQuote] rest
      rw [(scan_identifierQuote d quoted).2, h] at hcount
      exact hcount
    have hlead : ∀ cs, Dialect.numberMarks false n (d.identifierQuote :: cs) =
        d.identifierQuote :: Dialect.numberMarks false n cs := by
      intro cs
      cases d <;> rfl
    simp only [if_true]
    rw [Dialect.quoteIdentifier, Dialect.quoteIdentifier, String.toList_ofList,
      String.toList_ofList, String.toList_ofList, List.append_assoc, List.append_assoc,
      List.cons_append, List.cons_append, hlead, List.nil_append, Dialect.numberMarks_append,
      hbehind, numberMarks_marksDoubled]
    rfl

/-- Where no name leaves a literal open, the scan sees question marks in names alone. -/
theorem openCount_renderAll_eq_zero_iff {pieces : List SchemaPiece} (h : Spelled Closed pieces)
    (hbalanced : ∀ name ∈ namesIn pieces, quotedAfter false name.toList = false) :
    openCount '?' false (renderAll d pieces).toList = 0 ↔
      ∀ name ∈ namesIn pieces, openCount '?' false name.toList = 0 := by
  have hcopied : ∀ {s : String} (ps : List SchemaPiece), Closed s →
      openCount '?' false (renderAll d (.verbatim s :: ps)).toList =
        openCount '?' false (renderAll d ps).toList := by
    intro s ps hs
    rw [toList_renderAll_cons, render, openCount_append, hs.1, hs.2, Nat.zero_add]
  have hnamed : ∀ {name : String} (ps : List SchemaPiece),
      quotedAfter false name.toList = false →
      openCount '?' false (renderAll d (.identifier name :: ps)).toList =
        openCount '?' false name.toList + openCount '?' false (renderAll d ps).toList := by
    intro name ps hname
    obtain ⟨hquoted, hopen⟩ := scan_quoteIdentifier d false name
    rw [toList_renderAll_cons, render, openCount_append, hquoted, hopen, hname]
  induction h with
  | nil => exact ⟨fun _ => List.forall_mem_nil _, fun _ => rfl⟩
  | name name =>
    rw [namesIn_identifier, namesIn_nil] at hbalanced ⊢
    rw [List.forall_mem_singleton] at hbalanced ⊢
    rw [hnamed [] hbalanced]
    rfl
  | copied hs _ ih =>
    rw [namesIn_verbatim] at hbalanced ⊢
    rw [hcopied _ hs]
    exact ih hbalanced
  | named name hs _ _ ih =>
    rw [namesIn_identifier, namesIn_verbatim] at hbalanced ⊢
    rw [List.forall_mem_cons] at hbalanced
    rw [List.forall_mem_cons, hnamed _ hbalanced.1, hcopied _ hs, Nat.add_eq_zero_iff]
    exact and_congr_right fun _ => ih hbalanced.2

end Names

/-- What creates, changes or drops a table is sent as it was written exactly if it shows no
question mark where question marks are numbered; and as long as no name leaves a literal
open, exactly if no name shows one. -/
theorem SchemaPlan.sendsText_iff_names {d : Dialect} {plan : SchemaPlan} {text : String}
    (hsql : plan.sql d = .ok text) (hfragments : ∀ s ∈ plan.fragments, Closed s)
    (migration : String) :
    (Ledger.SendsText d text migration ↔
        (d = .postgreSql → openCount '?' false text.toList = 0)) ∧
      ((∀ name ∈ plan.names d, quotedAfter false name.toList = false) →
        (Ledger.SendsText d text migration ↔
          (d = .postgreSql → ∀ name ∈ plan.names d, openCount '?' false name.toList = 0))) := by
  have hsent : Ledger.SendsText d text migration ↔
      (d = .postgreSql → openCount '?' false text.toList = 0) := by
    rw [Ledger.sendsText_iff, d.lowerPlaceholders_eq_self_iff]
  refine ⟨hsent, fun hbalanced => hsent.trans (imp_congr_right fun _ => ?_)⟩
  obtain ⟨_, hgoes, rfl⟩ := sql_ok_iff.mp hsql
  rw [← namesIn_pieces hgoes] at hbalanced ⊢
  exact openCount_renderAll_eq_zero_iff d (spelled_pieces kept_closed hfragments) hbalanced

/-- A question mark between the quotes of a name is none to the scan. -/
theorem SchemaPlan.sendsText_iff_names_quoted :
    ∃ text, (indexedTable "faq" "is 'why?' set").sql .postgreSql = .ok text ∧
      (∀ s ∈ (indexedTable "faq" "is 'why?' set").fragments, Closed s) ∧
      (∀ name ∈ (indexedTable "faq" "is 'why?' set").names .postgreSql,
        quotedAfter false name.toList = false) ∧
      Ledger.SendsText .postgreSql text "faq" := by
  have hsql : (indexedTable "faq" "is 'why?' set").sql .postgreSql =
      .ok ("CREATE TABLE \"faq\" (\"is 'why?' set\" TEXT NULL DEFAULT 0); " ++
        "CREATE INDEX \"is 'why?' set_index\" ON \"faq\" (\"is 'why?' set\");") := by rfl
  have hbalanced : ∀ name ∈ (indexedTable "faq" "is 'why?' set").names .postgreSql,
      quotedAfter false name.toList = false := by decide
  refine ⟨_, hsql, by decide, hbalanced, ?_⟩
  exact ((sendsText_iff_names hsql (by decide) "faq").2 hbalanced).mpr fun _ => by decide

/-- A column whose name asks a question is created under another name. -/
theorem SchemaPlan.column_renamed :
    ∃ text, SchemaPlan.sql .postgreSql
        (.create "faq" [.id, .column .text "why?" ⟨false, none, false⟩]) = .ok text ∧
      (∀ s ∈ fragments (.create "faq" [.id, .column .text "why?" ⟨false, none, false⟩]),
        Closed s) ∧
      (Ledger.apply .postgreSql text "faq").Sends
        ⟨"CREATE TABLE \"faq\" (\"id\" SERIAL PRIMARY KEY, \"why$1\" TEXT NOT NULL);", []⟩ ∧
      ¬Ledger.SendsText .postgreSql text "faq" := by
  have hsql : SchemaPlan.sql .postgreSql
      (.create "faq" [.id, .column .text "why?" ⟨false, none, false⟩]) =
        .ok "CREATE TABLE \"faq\" (\"id\" SERIAL PRIMARY KEY, \"why?\" TEXT NOT NULL);" := by rfl
  have hlowered : Dialect.lowerPlaceholders .postgreSql
      "CREATE TABLE \"faq\" (\"id\" SERIAL PRIMARY KEY, \"why?\" TEXT NOT NULL);" =
        "CREATE TABLE \"faq\" (\"id\" SERIAL PRIMARY KEY, \"why$1\" TEXT NOT NULL);" := by rfl
  refine ⟨_, hsql, by decide, ?_, ?_⟩
  · rw [Ledger.apply_sends_iff, Dialect.bound, Dialect.bound, hlowered]
    exact .inr (.inl rfl)
  · rw [Ledger.sendsText_iff, hlowered]
    decide

end FluentSql
