import FluentSql.Migration.Ledger
import FluentSql.Proofs.Session.Exchange

/-!
# The steps of the ledger

What is sent to apply or revert one migration or to read the ledger, and what comes of it, by
the replies. No law is asked of the backend.
-/

namespace FluentSql.Ledger

variable {σ : Type} {b : Backend σ} {d : Dialect} {sql name : String} {s s₁ s₂ s₃ : σ}
  {found removed output : Output}

theorem record_of_key (hanswer : b.answer (d.bound insertion [.string name]) s = (.ok output, s₁))
    (hkey : output.insertId? ≠ none) :
    (record d name).Yields b s [b.exchange (d.bound insertion [.string name]) s] (.ok true)
      (b.note ⟨.info, title name ++ " applied successfully."⟩ s₁) := by
  refine (Session.yields_query hanswer).bind ?_
  rw [if_neg (by simpa using hkey)]
  exact (Session.yields_note b _ _ s₁).bind (Session.yields_pure b true _)

theorem record_of_no_key
    (hanswer : b.answer (d.bound insertion [.string name]) s = (.ok output, s₁))
    (hkeyless : output.insertId? = none) :
    (record d name).Yields b s [b.exchange (d.bound insertion [.string name]) s] (.ok false)
      (b.note ⟨.warn, title name ++ " was not applied due to an error."⟩ s₁) := by
  refine (Session.yields_query hanswer).bind ?_
  rw [hkeyless]
  exact (Session.yields_note b _ _ s₁).bind (Session.yields_pure b false _)

section

variable (hlook : b.answer (d.bound lookup [.string name]) s = (.ok found, s₁))
include hlook

theorem apply_of_known (hfound : found.toRows ≠ []) :
    (apply d sql name).Yields b s [b.exchange (d.bound lookup [.string name]) s] (.ok false)
      s₁ := by
  refine (Session.yields_query hlook).bind ?_
  rw [if_pos (by simpa using hfound)]
  exact Session.yields_pure b false s₁

theorem apply_of_refused {e : Error} (hnew : found.toRows = [])
    (hrun : b.answer (d.bound sql []) s₁ = (.error e, s₂)) :
    (apply d sql name).Yields b s
      [b.exchange (d.bound lookup [.string name]) s, b.exchange (d.bound sql []) s₁]
      (.error e) s₂ := by
  refine (Session.yields_query hlook).bind ?_
  rw [if_neg (by simpa using hnew)]
  exact (Session.yields_query hrun).bind_error

theorem apply_of_unnoticed (hnew : found.toRows = [])
    (hrun : b.answer (d.bound sql []) s₁ = (.ok output, s₂)) (hidle : output.toBool = false) :
    (apply d sql name).Yields b s
      [b.exchange (d.bound lookup [.string name]) s, b.exchange (d.bound sql []) s₁]
      (.ok false) (b.note ⟨.warn, title name ++ " failed to execute."⟩ s₂) := by
  refine (Session.yields_query hlook).bind ?_
  rw [if_neg (by simpa using hnew)]
  refine (Session.yields_query hrun).bind ?_
  rw [hidle]
  exact (Session.yields_note b _ _ s₂).bind (Session.yields_pure b false _)

theorem apply_of_noticed (hnew : found.toRows = [])
    (hrun : b.answer (d.bound sql []) s₁ = (.ok output, s₂)) (heffect : output.toBool = true)
    {sent : List (Exchange σ)} {r : Except Error Bool}
    (hrecord : (record d name).Yields b s₂ sent r s₃) :
    (apply d sql name).Yields b s
      (b.exchange (d.bound lookup [.string name]) s :: b.exchange (d.bound sql []) s₁ :: sent)
      r s₃ := by
  refine (Session.yields_query hlook).bind ?_
  rw [if_neg (by simpa using hnew)]
  refine (Session.yields_query hrun).bind ?_
  rw [heffect]
  exact hrecord

end

section

variable (hremoval : b.answer (d.bound removal [.string name]) s = (.ok removed, s₁))
include hremoval

theorem revert_of_refused {e : Error} (hrun : b.answer (d.bound sql []) s₁ = (.error e, s₂)) :
    (revert d sql name).Yields b s
      [b.exchange (d.bound removal [.string name]) s, b.exchange (d.bound sql []) s₁]
      (.error e) s₂ :=
  (Session.yields_query hremoval).bind (Session.yields_query hrun).bind_error

theorem revert_of_answered (hrun : b.answer (d.bound sql []) s₁ = (.ok output, s₂)) :
    (revert d sql name).Yields b s
      [b.exchange (d.bound removal [.string name]) s, b.exchange (d.bound sql []) s₁]
      (.ok removed.toBool) (b.note ⟨.info, title name ++ " rolled back."⟩ s₂) :=
  (Session.yields_query hremoval).bind ((Session.yields_query hrun).bind
    ((Session.yields_note b _ _ s₂).bind (Session.yields_pure b removed.toBool _)))

end

theorem ensure_of_answered (hcreation : b.answer (d.bound (creation d) []) s = (.ok output, s₁)) :
    (ensure d).Yields b s [b.exchange (d.bound (creation d) []) s] (.ok ()) s₁ :=
  (Session.yields_query hcreation).bind (Session.yields_pure b () s₁)

theorem ensure_of_refused {e : Error}
    (hcreation : b.answer (d.bound (creation d) []) s = (.error e, s₁)) :
    (ensure d).Yields b s [b.exchange (d.bound (creation d) []) s] (.error e) s₁ :=
  (Session.yields_query hcreation).bind_error

theorem names_of_listed (hensured : (ensure d).Yields b s
      [b.exchange (d.bound (creation d) []) s] (.ok ()) s₁)
    (hlisting : b.answer (d.bound listing []) s₁ = (.ok output, s₂)) :
    (names d).Yields b s
      [b.exchange (d.bound (creation d) []) s, b.exchange (d.bound listing []) s₁]
      (column "migration_name" output.toRows) s₂ := by
  exact hensured.bind ((Session.yields_query hlisting).bind
    (Session.yields_ofExcept b (column "migration_name" output.toRows) s₂))

end FluentSql.Ledger
