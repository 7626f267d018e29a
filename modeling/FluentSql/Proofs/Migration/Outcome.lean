import FluentSql.Proofs.Migration.Steps
import FluentSql.Proofs.Migration.Table

/-!
# What comes of the application of one migration

No law is asked of the backend here. A migration whose statement went through ends in one of
three ways: its name is recorded, there is an error, or the call is silent and says that
nothing was applied. It is silent where the output of the statement shows no effect, and where
the INSERT of the name reports no key.
-/

namespace FluentSql

namespace StatementKind

/-- With these counts the output shows no effect. -/
def Idle : StatementKind → Nat → Option Value → Prop
  | .ddl, _, _ => False
  | .select, _, _ => True
  | .insert, _, lastId => (lastId.getD .null).isNull = true
  | .update, affected, _ | .delete, affected, _ | .other, affected, _ => affected = 0

end StatementKind

theorem Output.toBool_ofCounts_eq_false_iff (kind : StatementKind) (affected : Nat)
    (lastId : Option Value) :
    (Output.ofCounts kind affected lastId).toBool = false ↔ kind.Idle affected lastId := by
  cases kind <;> simp [Output.ofCounts, Output.toBool, StatementKind.Idle]

variable {σ : Type}

/-- The exchange sends the statement and is answered with the output. -/
structure Exchange.Returns (e : Exchange σ) (statement : BoundStatement) (output : Output) :
    Prop where
  statement : e.statement = statement
  reply : e.reply = .ok output

namespace Ledger

variable {d : Dialect} {sql name : String}

/-- The statement of the migration was sent, without values, and answered. -/
def Executed (d : Dialect) (sql : String) (sent : List (Exchange σ)) : Prop :=
  ∃ up ∈ sent, ∃ output, up.Returns (d.bound sql []) output

/-- The INSERT of the name was answered with a key. -/
def Recorded (d : Dialect) (name : String) (sent : List (Exchange σ)) : Prop :=
  ∃ record ∈ sent, ∃ output, record.Returns (d.bound insertion [.string name]) output ∧
    output.insertId? ≠ none

/-- The output of the statement shows no effect, and nothing is sent behind it. -/
def Unnoticed (d : Dialect) (sql : String) (sent : List (Exchange σ)) : Prop :=
  ∃ look up output, sent = [look, up] ∧ up.Returns (d.bound sql []) output ∧
    output.toBool = false

/-- Behind the statement, the INSERT of the name was answered without a key. -/
def Keyless (d : Dialect) (sql name : String) (sent : List (Exchange σ)) : Prop :=
  ∃ look up output record inserted, sent = [look, up, record] ∧
    up.Returns (d.bound sql []) output ∧
    record.Returns (d.bound insertion [.string name]) inserted ∧ inserted.insertId? = none

/-- What is made of the reply to the INSERT of the name. -/
def verdict : Except Error Output → Except Error Bool
  | .ok output => .ok output.insertId?.isSome
  | .error e => .error e

/-- The courses of an application: what is sent, and what comes of it. -/
inductive Course (d : Dialect) (sql name : String) :
    List (Exchange σ) → Except Error Bool → Prop
  | unsought {look : Exchange σ} {e : Error}
      (hlook : look.statement = d.bound lookup [.string name]) (hstop : look.reply = .error e) :
      Course d sql name [look] (.error e)
  | known {look : Exchange σ} {found : Output}
      (hlook : look.Returns (d.bound lookup [.string name]) found) (hfound : found.toRows ≠ []) :
      Course d sql name [look] (.ok false)
  | refused {look up : Exchange σ} {found : Output} {e : Error}
      (hlook : look.Returns (d.bound lookup [.string name]) found) (hnew : found.toRows = [])
      (hup : up.statement = d.bound sql []) (hstop : up.reply = .error e) :
      Course d sql name [look, up] (.error e)
  | unnoticed {look up : Exchange σ} {found output : Output}
      (hlook : look.Returns (d.bound lookup [.string name]) found) (hnew : found.toRows = [])
      (hup : up.Returns (d.bound sql []) output) (hidle : output.toBool = false) :
      Course d sql name [look, up] (.ok false)
  | noticed {look up record : Exchange σ} {found output : Output}
      (hlook : look.Returns (d.bound lookup [.string name]) found) (hnew : found.toRows = [])
      (hup : up.Returns (d.bound sql []) output) (heffect : output.toBool = true)
      (hrecord : record.statement = d.bound insertion [.string name]) :
      Course d sql name [look, up, record] (verdict record.reply)

theorem record_verdict (b : Backend σ) (d : Dialect) (name : String) (s : σ) :
    ∃ s', (record d name).Yields b s [b.exchange (d.bound insertion [.string name]) s]
      (verdict (b.exchange (d.bound insertion [.string name]) s).reply) s' := by
  rcases hanswer : b.answer (d.bound insertion [.string name]) s with ⟨reply, s'⟩
  rw [Backend.reply_exchange hanswer]
  cases reply with
  | error e => exact ⟨s', (Session.yields_query hanswer).bind_error⟩
  | ok output =>
    cases hid : output.insertId? with
    | none =>
      rw [verdict, hid]
      exact ⟨_, record_of_no_key hanswer hid⟩
    | some id =>
      rw [verdict, hid]
      exact ⟨_, record_of_key hanswer (hid ▸ Option.some_ne_none id)⟩

/-- Every application takes one of the courses. -/
theorem apply_course (b : Backend σ) (d : Dialect) (sql name : String) (s : σ) :
    Course d sql name ((apply d sql name).exchanges b s) ((apply d sql name).run b s).1 := by
  suffices h : ∃ sent r s', (apply d sql name).Yields b s sent r s' ∧ Course d sql name sent r by
    obtain ⟨sent, r, s', hyields, hcourse⟩ := h
    rw [hyields.exchanges_eq, hyields.run_eq]
    exact hcourse
  rcases hlook : b.answer (d.bound lookup [.string name]) s with ⟨reply, s₁⟩
  have hfirst := Backend.reply_exchange hlook
  cases reply with
  | error e => exact ⟨_, _, _, (Session.yields_query hlook).bind_error, .unsought rfl hfirst⟩
  | ok found =>
    by_cases hnew : found.toRows = []
    · rcases hrun : b.answer (d.bound sql []) s₁ with ⟨reply, s₂⟩
      have hsecond := Backend.reply_exchange hrun
      cases reply with
      | error e =>
        exact ⟨_, _, _, apply_of_refused hlook hnew hrun, .refused ⟨rfl, hfirst⟩ hnew rfl hsecond⟩
      | ok output =>
        cases heffect : output.toBool with
        | false =>
          exact ⟨_, _, _, apply_of_unnoticed hlook hnew hrun heffect,
            .unnoticed ⟨rfl, hfirst⟩ hnew ⟨rfl, hsecond⟩ heffect⟩
        | true =>
          obtain ⟨s₃, hrecord⟩ := record_verdict b d name s₂
          exact ⟨_, _, _, apply_of_noticed hlook hnew hrun heffect hrecord,
            .noticed ⟨rfl, hfirst⟩ hnew ⟨rfl, hsecond⟩ heffect rfl⟩
    · exact ⟨_, _, _, apply_of_known hlook hnew, .known ⟨rfl, hfirst⟩ hnew⟩

theorem bound_named_ne (text : String) : d.bound text [.string name] ≠ d.bound sql [] := by
  intro h
  cases congrArg BoundStatement.params h

/-- The look-up is not the INSERT, however placeholders are written. -/
theorem bound_lookup_ne_insertion (d : Dialect) (params : List Value) :
    d.bound lookup params ≠ d.bound insertion params := by
  intro h
  have hsql : d.lowerPlaceholders lookup = d.lowerPlaceholders insertion :=
    congrArg BoundStatement.sql h
  revert hsql
  cases d <;> decide

section Sent

variable {look up : Exchange σ} {rest : List (Exchange σ)} {found output : Output}

theorem not_executed_nil : ¬Executed d sql ([] : List (Exchange σ)) := by
  rintro ⟨up, hup, _⟩
  cases hup

/-- What is sent with a name is not the statement of the migration. -/
theorem executed_cons_iff {text : String} (hlook : look.statement = d.bound text [.string name]) :
    Executed d sql (look :: rest) ↔ Executed d sql rest := by
  constructor
  · rintro ⟨up, hup, output, hreturns⟩
    rcases List.mem_cons.mp hup with rfl | hup
    · exact absurd (hlook.symm.trans hreturns.statement) (bound_named_ne text)
    · exact ⟨up, hup, output, hreturns⟩
  · rintro ⟨up, hup, returns⟩
    exact ⟨up, List.mem_cons_of_mem look hup, returns⟩

theorem executed_of_second (look : Exchange σ) (hup : up.Returns (d.bound sql []) output)
    (rest : List (Exchange σ)) : Executed d sql (look :: up :: rest) :=
  ⟨up, List.mem_cons_of_mem look List.mem_cons_self, output, hup⟩

theorem not_executed_of_refused {e : Error} (hstop : up.reply = .error e) :
    ¬Executed d sql [up] := by
  rintro ⟨_, hup, output, hreturns⟩
  obtain rfl := List.mem_singleton.mp hup
  rw [hreturns.reply] at hstop
  cases hstop

/-- Neither the look-up nor the statement is the INSERT. -/
theorem recorded_iff_third (hlook : look.Returns (d.bound lookup [.string name]) found)
    (hup : up.Returns (d.bound sql []) output) :
    Recorded d name (look :: up :: rest) ↔ Recorded d name rest := by
  constructor
  · rintro ⟨record, hmem, output, hreturns, hkey⟩
    rcases List.mem_cons.mp hmem with rfl | hmem
    · exact absurd (hlook.statement.symm.trans hreturns.statement) (bound_lookup_ne_insertion d _)
    · rcases List.mem_cons.mp hmem with rfl | hmem
      · exact absurd (hreturns.statement.symm.trans hup.statement) (bound_named_ne insertion)
      · exact ⟨record, hmem, output, hreturns, hkey⟩
  · rintro ⟨record, hmem, hrecord⟩
    exact ⟨record, List.mem_cons_of_mem look (List.mem_cons_of_mem up hmem), hrecord⟩

theorem verdict_eq_true_iff {record : Exchange σ}
    (hrecord : record.statement = d.bound insertion [.string name]) :
    verdict record.reply = .ok true ↔ Recorded d name [record] := by
  constructor
  · intro h
    cases hreply : record.reply with
    | error e =>
      rw [hreply] at h
      cases h
    | ok inserted =>
      rw [hreply] at h
      refine ⟨record, List.mem_cons_self, inserted, ⟨hrecord, hreply⟩, ?_⟩
      exact Option.isSome_iff_ne_none.mp (Except.ok.inj h)
  · rintro ⟨_, hmem, inserted, hreturns, hkey⟩
    obtain rfl := List.mem_singleton.mp hmem
    rw [hreturns.reply, verdict, Option.isSome_iff_ne_none.mpr hkey]

theorem verdict_eq_false_iff {record : Exchange σ}
    (hrecord : record.statement = d.bound insertion [.string name]) :
    verdict record.reply = .ok false ↔
      ∃ inserted, record.Returns (d.bound insertion [.string name]) inserted ∧
        inserted.insertId? = none := by
  constructor
  · intro h
    cases hreply : record.reply with
    | error e =>
      rw [hreply] at h
      cases h
    | ok inserted =>
      rw [hreply] at h
      refine ⟨inserted, ⟨hrecord, hreply⟩, ?_⟩
      exact Option.not_isSome_iff_eq_none.mp (Bool.eq_false_iff.mp (Except.ok.inj h))
  · rintro ⟨inserted, hreturns, hkeyless⟩
    rw [hreturns.reply, verdict, hkeyless]
    rfl

end Sent

namespace Course

variable {sent : List (Exchange σ)} {r : Except Error Bool}

/-- Behind a statement that was run there are two ways on. -/
theorem of_executed (h : Course d sql name sent r) (hexecuted : Executed d sql sent) :
    ∃ look up found output, look.Returns (d.bound lookup [.string name]) found ∧
      up.Returns (d.bound sql []) output ∧
      ((sent = [look, up] ∧ output.toBool = false ∧ r = .ok false) ∨
        ∃ record, sent = [look, up, record] ∧ output.toBool = true ∧
          record.statement = d.bound insertion [.string name] ∧ r = verdict record.reply) := by
  cases h with
  | unsought hlook hstop =>
    rw [executed_cons_iff hlook] at hexecuted
    exact absurd hexecuted not_executed_nil
  | known hlook hfound =>
    rw [executed_cons_iff hlook.statement] at hexecuted
    exact absurd hexecuted not_executed_nil
  | refused hlook hnew hup hstop =>
    rw [executed_cons_iff hlook.statement] at hexecuted
    exact absurd hexecuted (not_executed_of_refused hstop)
  | unnoticed hlook hnew hup hidle =>
    exact ⟨_, _, _, _, hlook, hup, .inl ⟨rfl, hidle, rfl⟩⟩
  | noticed hlook hnew hup heffect hrecord =>
    exact ⟨_, _, _, _, hlook, hup, .inr ⟨_, rfl, heffect, hrecord, rfl⟩⟩

theorem silent_iff (h : Course d sql name sent r) :
    Executed d sql sent ∧ r = .ok false ↔ Unnoticed d sql sent ∨ Keyless d sql name sent := by
  constructor
  · rintro ⟨hexecuted, hr⟩
    obtain ⟨look, up, found, output, hlook, hup, hways⟩ := h.of_executed hexecuted
    rcases hways with ⟨hsent, hidle, _⟩ | ⟨record, hsent, _, hrecord, hverdict⟩
    · exact .inl ⟨look, up, output, hsent, hup, hidle⟩
    · rw [hverdict, verdict_eq_false_iff hrecord] at hr
      obtain ⟨inserted, hreturns, hkeyless⟩ := hr
      exact .inr ⟨look, up, output, record, inserted, hsent, hup, hreturns, hkeyless⟩
  -- What stands on the right fixes the list, and with it the course.
  · rintro (⟨look, up, output, rfl, hup, hidle⟩ |
      ⟨look, up, output, record, inserted, rfl, hup, hreturns, hkeyless⟩)
    · have hexecuted := executed_of_second look hup []
      refine ⟨hexecuted, ?_⟩
      obtain ⟨_, _, _, _, _, _, ⟨_, _, hr⟩ | ⟨_, hsent, _⟩⟩ := h.of_executed hexecuted
      · exact hr
      · cases hsent
    · have hexecuted := executed_of_second look hup [record]
      refine ⟨hexecuted, ?_⟩
      obtain ⟨_, _, _, _, _, _, ⟨hsent, _⟩ | ⟨_, hsent, _, hrecord, hr⟩⟩ := h.of_executed hexecuted
      · cases hsent
      · cases hsent
        rw [hr]
        exact (verdict_eq_false_iff hrecord).mpr ⟨inserted, hreturns, hkeyless⟩

theorem applied_iff (h : Course d sql name sent r) :
    r = .ok true ↔ Executed d sql sent ∧ Recorded d name sent := by
  constructor
  · intro hr
    cases h with
    | noticed hlook hnew hup heffect hrecord =>
      refine ⟨executed_of_second _ hup _, ?_⟩
      exact (recorded_iff_third hlook hup).mpr ((verdict_eq_true_iff hrecord).mp hr)
    | _ => cases hr
  · rintro ⟨hexecuted, hrecorded⟩
    obtain ⟨look, up, found, output, hlook, hup, hways⟩ := h.of_executed hexecuted
    rcases hways with ⟨rfl, _, _⟩ | ⟨record, rfl, _, hrecord, hverdict⟩
    · obtain ⟨_, hmem, _⟩ := (recorded_iff_third hlook hup).mp hrecorded
      cases hmem
    · rw [hverdict, verdict_eq_true_iff hrecord]
      exact (recorded_iff_third hlook hup).mp hrecorded

/-- Where the statement is answered with counts, they decide whether it was noticed. -/
theorem unnoticed_iff_idle (h : Course d sql name sent r) {up : Exchange σ}
    (hsecond : sent[1]? = some up) {kind : StatementKind} {affected : Nat} {lastId : Option Value}
    (hup : up.Returns (d.bound sql []) (.ofCounts kind affected lastId)) :
    Unnoticed d sql sent ↔ kind.Idle affected lastId := by
  rw [← Output.toBool_ofCounts_eq_false_iff]
  obtain ⟨_, _, _, output, _, hreturns, hways⟩ :=
    h.of_executed ⟨up, List.mem_of_getElem? hsecond, _, hup⟩
  have houtput : ∀ {e : Exchange σ}, e.Returns (d.bound sql []) output → e = up →
      output = .ofCounts kind affected lastId := by
    rintro e he rfl
    exact Except.ok.inj (he.reply.symm.trans hup.reply)
  rcases hways with ⟨rfl, hidle, _⟩ | ⟨record, rfl, heffect, _⟩
  · rw [← houtput hreturns (Option.some.inj hsecond)]
    exact iff_of_true ⟨_, _, _, rfl, hreturns, hidle⟩ hidle
  · rw [← houtput hreturns (Option.some.inj hsecond), heffect]
    refine iff_of_false ?_ (by decide)
    rintro ⟨_, _, _, hsent, _⟩
    cases hsent

end Course

/-- Whatever the backend does: a migration whose statement went through is silently left
unrecorded exactly if the output of the statement showed no effect or the INSERT of its name
reported no key, and it is said to be applied exactly if its name was recorded. -/
theorem apply_silent_iff (b : Backend σ) (d : Dialect) (sql name : String) (s : σ) :
    let sent := (apply d sql name).exchanges b s
    let result := ((apply d sql name).run b s).1
    (Executed d sql sent ∧ result = .ok false ↔
      Unnoticed d sql sent ∨ Keyless d sql name sent) ∧
    (result = .ok true ↔ Executed d sql sent ∧ Recorded d name sent) ∧
    ∀ up affected lastId, sent[1]? = some up →
      up.Returns (d.bound sql []) (.ofCounts (StatementKind.classify sql) affected lastId) →
      (Unnoticed d sql sent ↔ (StatementKind.classify sql).Idle affected lastId) := by
  intro sent result
  have hcourse : Course d sql name sent result := apply_course b d sql name s
  refine ⟨hcourse.silent_iff, hcourse.applied_iff, ?_⟩
  intro up affected lastId hsecond hup
  exact hcourse.unnoticed_iff_idle hsecond hup

end Ledger

namespace Store

/-- The counts of an update that touches no row are enough to tell that it goes unnoticed. -/
theorem apply_silent_iff_activation :
    Ledger.Unnoticed .sqlite "UPDATE users SET active = 1"
      ((Ledger.apply .sqlite "UPDATE users SET active = 1" "activate").exchanges
        (backend fun _ => false) emptyStore) := by
  obtain ⟨_, _, hcounts⟩ := Ledger.apply_silent_iff (backend fun _ => false) .sqlite
    "UPDATE users SET active = 1" "activate" emptyStore
  exact (hcounts _ 0 none rfl ⟨rfl, rfl⟩).mpr rfl

/-- An update that touches no row goes through, and then its name is not recorded, without
an error. -/
theorem executed_update_unrecorded :
    let activation := Ledger.apply .sqlite "UPDATE users SET active = 1" "activate"
    let b := backend fun _ => false
    Ledger.Executed .sqlite "UPDATE users SET active = 1" (activation.exchanges b emptyStore) ∧
      (activation.run b emptyStore).1 = .ok false ∧
      "activate" ∉ (activation.run b emptyStore).2.names := by
  intro activation b
  refine ⟨⟨_, List.mem_cons_of_mem _ List.mem_cons_self, .affected false, rfl, rfl⟩, rfl, ?_⟩
  decide

end Store

end FluentSql
