/-!
# Histories of connections

The record of what a manager does to its connections follows one rule: connections are got one
at a time, in the order of their numbers, only the one that is there is used, and none is there
behind a close. What follows from the rule holds of every record that keeps to it.
-/

namespace FluentSql

/-- What happens to connections, by their numbers. -/
inductive ConnectionEvent where
  /-- The manager gets a connection, supplied or opened. -/
  | got (n : Nat)
  | openFailed
  | used (n : Nat)
  /-- The connection is asked to close, which may fail. -/
  | closed (n : Nat)
  deriving DecidableEq

namespace ConnectionEvent

/-- The rule of a record: what an event makes of the number of the connection in the slot and of
the number of connections so far. -/
inductive Moves : ConnectionEvent → Option Nat → Nat → Option Nat → Nat → Prop where
  | got (k : Nat) : Moves (.got k) none k (some k) (k + 1)
  | openFailed (k : Nat) : Moves .openFailed none k none k
  | used (n k : Nat) : Moves (.used n) (some n) k (some n) k
  | closed (n k : Nat) : Moves (.closed n) (some n) k none k

/-- Whether the event is one of this connection. -/
def Concerns (n : Nat) : ConnectionEvent → Prop
  | got m | used m | closed m => m = n
  | openFailed => False

/-- Got and not closed since. -/
def Live (es : List ConnectionEvent) (n : Nat) : Prop :=
  .got n ∈ es ∧ .closed n ∉ es

end ConnectionEvent

open ConnectionEvent

/-- A record that keeps to the rule, with the slot and the count it leads to. -/
inductive ConnectionHistory : List ConnectionEvent → Option Nat → Nat → Prop where
  | start : ConnectionHistory [] none 0
  | step {es : List ConnectionEvent} {e : ConnectionEvent} {holder holder' : Option Nat}
    {k k' : Nat} (h : ConnectionHistory es holder k) (hmove : e.Moves holder k holder' k') :
    ConnectionHistory (es ++ [e]) holder' k'

namespace ConnectionHistory

variable {es : List ConnectionEvent} {holder : Option Nat} {k : Nat}

/-- Numbers are given in order. -/
theorem lt_count (h : ConnectionHistory es holder k) :
    (∀ e ∈ es, ∀ n, e.Concerns n → n < k) ∧ ∀ n, holder = some n → n < k := by
  induction h with
  | start => simp
  | @step es e holder holder' k k' _ hmove ih =>
    obtain ⟨hes, hholder⟩ := ih
    have hlast : k ≤ k' ∧ (∀ n, e.Concerns n → n < k') ∧ ∀ n, holder' = some n → n < k' := by
      cases hmove <;> simp_all [Concerns]
    refine ⟨List.forall_mem_append.mpr ⟨fun e he n hn => ?_, by simpa using hlast.2.1⟩, hlast.2.2⟩
    exact Nat.lt_of_lt_of_le (hes e he n hn) hlast.1

/-- A new number has not been closed. -/
theorem closed_count_not_mem (h : ConnectionHistory es holder k) : .closed k ∉ es :=
  fun hmem => absurd (h.lt_count.1 _ hmem k rfl) (Nat.lt_irrefl k)

/-- The connection in the slot is the one that is live. -/
theorem live_iff (h : ConnectionHistory es holder k) (n : Nat) : Live es n ↔ holder = some n := by
  induction h with
  | start => simp [Live]
  | @step es e holder holder' k k' h hmove ih =>
    have hnew := h.closed_count_not_mem
    simp only [Live, List.mem_append, List.mem_singleton] at ih ⊢
    cases hmove <;> grind

/-- Nothing concerns a connection that was closed before. -/
theorem closed_not_mem {e : ConnectionEvent} {holder' : Option Nat} {k' : Nat}
    (h : ConnectionHistory es holder k) (hmove : e.Moves holder k holder' k') {n : Nat}
    (hn : e.Concerns n) : .closed n ∉ es := by
  cases hmove with
  | got k =>
    obtain rfl := hn
    exact h.closed_count_not_mem
  | openFailed k => exact hn.elim
  | used m k =>
    obtain rfl := hn
    exact ((h.live_iff m).mpr rfl).2
  | closed m k =>
    obtain rfl := hn
    exact ((h.live_iff m).mpr rfl).2

theorem pairwise (h : ConnectionHistory es holder k) :
    es.Pairwise fun earlier later => ∀ n, earlier = .closed n → ¬ later.Concerns n := by
  induction h with
  | start => exact List.Pairwise.nil
  | step h hmove ih =>
    refine List.pairwise_append.mpr ⟨ih, List.pairwise_singleton _ _, ?_⟩
    rintro earlier hmem later hlater n rfl hn
    obtain rfl := List.mem_singleton.mp hlater
    exact h.closed_not_mem hmove hn hmem

theorem count_closed_le_one (h : ConnectionHistory es holder k) (n : Nat) :
    es.count (.closed n) ≤ 1 := by
  induction h with
  | start => simp
  | @step es e holder holder' k k' h hmove ih =>
    rw [List.count_append]
    by_cases he : e = .closed n
    · subst he
      have hnone := List.count_eq_zero.mpr (h.closed_not_mem hmove rfl)
      simp [hnone]
    · simpa [he] using ih

/-- What there was at some time was a record too. -/
theorem exists_of_prefix (h : ConnectionHistory es holder k) {past : List ConnectionEvent}
    (hpast : past <+: es) : ∃ holder' k', ConnectionHistory past holder' k' := by
  induction h with
  | start =>
    obtain rfl := List.prefix_nil.mp hpast
    exact ⟨none, 0, .start⟩
  | step h hmove ih =>
    obtain rfl | hpast := List.prefix_concat_iff.mp hpast
    · exact ⟨_, _, h.step hmove⟩
    · exact ih hpast

/-- Behind a failed open there is no connection. -/
theorem not_live_openFailed (h : ConnectionHistory (es ++ [.openFailed]) holder k) (n : Nat) :
    ¬ Live (es ++ [.openFailed]) n := by
  have hholder : holder = none := by
    generalize hrecord : es ++ [.openFailed] = record at h
    cases h with
    | start => rfl
    | step h hmove =>
      obtain ⟨rfl, hlast⟩ := List.append_inj' hrecord rfl
      obtain rfl := List.singleton_inj.mp hlast
      cases hmove
      rfl
  rw [h.live_iff, hholder]
  simp

end ConnectionHistory

end FluentSql
