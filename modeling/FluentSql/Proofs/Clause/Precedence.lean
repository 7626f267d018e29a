import FluentSql.Proofs.Clause.Reading

/-!
# Precedence of conditions

Clauses in a row mean what the precedence of their connectives says. Where the buckets
are linked as calls link them, the text of conditions is read back as the conjunction of
the primary clauses or one of the alternatives.
-/

namespace FluentSql

open FluentSql.Text

/-- What a bucket of conditions means: the conjunction of its primary clauses, or one of
the alternatives. -/
def Conditions.formula (c : Conditions) : Formula :=
  (c.primary.map fun clause => clause.predicate) ::
    c.alternatives.map fun clause => [clause.predicate]

/-- The connectives that calls give: no primary clause is an alternative, each alternative
is one, and there is a primary clause before the first, `preceding` of them elsewhere. -/
structure Conditions.Linked (preceding : Nat) (c : Conditions) : Prop where
  primary : ∀ clause ∈ c.primary, clause.connective ≠ some .or
  alternatives : ∀ clause ∈ c.alternatives, clause.connective = some .or
  started : c.alternatives ≠ [] → preceding + c.primary.length ≠ 0

namespace Reading

variable {d : Dialect} {params : List Value}

/-- What a predicate and the clauses behind it mean by the precedence of their
connectives. -/
def chain (p : Predicate) : List Clause → Formula
  | [] => [[p]]
  | clause :: rest =>
    if clause.connective = some .or then [p] :: chain clause.predicate rest
    else match chain clause.predicate rest with
      | conjunction :: others => (p :: conjunction) :: others
      | [] => [[p]]

theorem chain_ne_nil (p : Predicate) (clauses : List Clause) : chain p clauses ≠ [] := by
  cases clauses with
  | nil => exact List.cons_ne_nil _ _
  | cons clause rest =>
    rw [chain]
    split
    · exact List.cons_ne_nil _ _
    · split
      · exact List.cons_ne_nil _ _
      · exact List.cons_ne_nil _ _

theorem lexemes_connective (k : Option Connective) (rest : List Char) :
    lexemes ((" " ++ Conditions.connectiveText k ++ " ").toList ++ rest) =
      (if k = some .or then "OR" else "AND") :: lexemes rest := by
  rw [lexemes_lead]
  cases k with
  | none => rfl
  | some k => cases k <;> rfl

theorem breaks_connective (k : Option Connective) (rest : List Char) :
    Breaks ((" " ++ Conditions.connectiveText k ++ " ").toList ++ rest) := by
  cases k with
  | none => rfl
  | some k => cases k <;> rfl

/-- Clauses are read back in the precedence of their connectives. -/
theorem readChain_furtherFragments {p : Predicate} {clauses : List Clause}
    (hp : p.Readable) (hclauses : ∀ clause ∈ clauses, clause.predicate.Readable) {n fuel : Nat}
    (hfuel : clauses.length < fuel)
    (h : p.values ++ (clauses.flatMap fun clause => clause.predicate.values) <+: params.drop n) :
    readChain d params fuel n (lexemes (Fragment.marked d (n + 1)
        (p.fragments ++ Conditions.furtherFragments clauses))) = some (chain p clauses) := by
  induction clauses generalizing p n fuel with
  | nil =>
    cases fuel with
    | zero => omega
    | succ fuel =>
      rw [List.flatMap_nil, List.append_nil] at h
      have hread := readPredicate_fragments hp (d := d) h breaks_nil
      have htext : p.fragments ++ Conditions.furtherFragments [] = p.fragments :=
        List.append_nil _
      rw [List.append_nil] at hread
      rw [htext, readChain, hread]
      rfl
  | cons clause rest ih =>
    cases fuel with
    | zero => omega
    | succ fuel =>
      rw [List.length_cons] at hfuel
      have hclause := hclauses clause List.mem_cons_self
      have hrest := fun c hc => hclauses c (List.mem_cons_of_mem clause hc)
      have hhead : p.values <+: params.drop n := (List.prefix_append _ _).trans h
      have htail : clause.predicate.values ++ (rest.flatMap fun c => c.predicate.values) <+:
          params.drop (n + p.values.length) := starts_append p.values h
      have hlength : rest.length < fuel := by omega
      have hchain := ih hclause hrest hlength htail
      have htext : Fragment.marked d (n + 1)
          (p.fragments ++ Conditions.furtherFragments (clause :: rest)) =
            Fragment.marked d (n + 1) p.fragments ++
              ((" " ++ Conditions.connectiveText clause.connective ++ " ").toList ++
                Fragment.marked d (n + p.values.length + 1)
                  (clause.predicate.fragments ++ Conditions.furtherFragments rest)) := by
        rw [Fragment.marked_append, Predicate.values_fragments, Nat.add_right_comm]
        rfl
      have hread := readPredicate_fragments hp (d := d) hhead
        (breaks_connective clause.connective (Fragment.marked d (n + p.values.length + 1)
          (clause.predicate.fragments ++ Conditions.furtherFragments rest)))
      rw [lexemes_connective] at hread
      rw [htext, readChain, hread, chain]
      dsimp only
      by_cases hor : clause.connective = some .or
      · rw [if_pos hor, if_pos hor, if_neg (by decide), if_pos rfl, hchain]
        rfl
      · rw [if_neg hor, if_neg hor, if_pos rfl, hchain]
        cases hformula : chain clause.predicate rest with
        | nil => exact absurd hformula (chain_ne_nil _ _)
        | cons conjunction others => rfl

theorem length_furtherFragments (d : Dialect) (n : Nat) (clauses : List Clause) :
    clauses.length ≤ (Fragment.marked d n (Conditions.furtherFragments clauses)).length := by
  induction clauses generalizing n with
  | nil => exact Nat.zero_le _
  | cons clause rest ih =>
    have htext : Fragment.marked d n (Conditions.furtherFragments (clause :: rest)) =
        ' ' :: ((Conditions.connectiveText clause.connective ++ " ").toList ++
          Fragment.marked d n
            (clause.predicate.fragments ++ Conditions.furtherFragments rest)) := by
      rw [← List.cons_append, ← toList_lead]
      rfl
    have hrest := ih (n + (Fragment.values clause.predicate.fragments).length)
    rw [htext, Fragment.marked_append]
    simp only [List.length_cons, List.length_append]
    omega

theorem chain_alternatives (p : Predicate) {clauses : List Clause}
    (h : ∀ clause ∈ clauses, clause.connective = some .or) :
    chain p clauses = [p] :: clauses.map fun clause => [clause.predicate] := by
  induction clauses generalizing p with
  | nil => rfl
  | cons clause rest ih =>
    rw [chain, if_pos (h clause List.mem_cons_self),
      ih _ fun c hc => h c (List.mem_cons_of_mem clause hc)]
    rfl

theorem chain_primary (p : Predicate) {clauses alternatives : List Clause}
    (hprimary : ∀ clause ∈ clauses, clause.connective ≠ some .or)
    (halternatives : ∀ clause ∈ alternatives, clause.connective = some .or) :
    chain p (clauses ++ alternatives) =
      (p :: clauses.map fun clause => clause.predicate) ::
        alternatives.map fun clause => [clause.predicate] := by
  induction clauses generalizing p with
  | nil => exact chain_alternatives p halternatives
  | cons clause rest ih =>
    have hrest := ih clause.predicate fun c hc => hprimary c (List.mem_cons_of_mem clause hc)
    rw [List.cons_append, chain, if_neg (hprimary clause List.mem_cons_self), hrest]
    rfl

theorem chain_formula {c : Conditions} (h : c.Linked 0) {first : Clause} {rest : List Clause}
    (hclauses : c.clauses = first :: rest) : chain first.predicate rest = c.formula := by
  obtain ⟨primary, alternatives⟩ := c
  cases primary with
  | nil =>
    cases alternatives with
    | nil => cases hclauses
    | cons a as => exact absurd rfl (h.started (List.cons_ne_nil a as))
  | cons p ps =>
    obtain ⟨rfl, rfl⟩ := List.cons.inj hclauses
    exact chain_primary _ (fun c hc => h.primary c (List.mem_cons_of_mem _ hc)) h.alternatives

/-- The text of linked conditions is read back as their formula. -/
theorem readSection_fragments {c : Conditions} (hlinked : c.Linked 0)
    (hreadable : ∀ clause ∈ c.clauses, clause.predicate.Readable) (hsome : c.clauses ≠ [])
    {keyword : String} (hkeyword : lexemes keyword.toList = [keyword]) {n : Nat}
    (h : c.values <+: params.drop n) :
    readSection d params keyword n (Fragment.marked d (n + 1) (c.fragments keyword)) =
      some c.formula := by
  cases hclauses : c.clauses with
  | nil => exact absurd hclauses hsome
  | cons first rest =>
    have hfirst := hreadable first (hclauses ▸ List.mem_cons_self)
    have hrest := fun clause hm => hreadable clause (hclauses ▸ List.mem_cons_of_mem first hm)
    have hvalues : first.predicate.values ++
        (rest.flatMap fun clause => clause.predicate.values) <+: params.drop n := by
      rw [Conditions.values, hclauses] at h
      exact h
    have htext : Fragment.marked d (n + 1) (c.fragments keyword) =
        ' ' :: ((keyword ++ " ").toList ++ Fragment.marked d (n + 1)
          (first.predicate.fragments ++ Conditions.furtherFragments rest)) := by
      rw [← List.cons_append, ← toList_lead, Conditions.fragments, hclauses]
      rfl
    have hfuel : rest.length < (Fragment.marked d (n + 1) (c.fragments keyword)).length + 1 := by
      have hlength := length_furtherFragments d
        (n + 1 + (Fragment.values first.predicate.fragments).length) rest
      rw [htext, Fragment.marked_append]
      simp only [List.length_cons, List.length_append]
      omega
    have hlexemes : lexemes (Fragment.marked d (n + 1) (c.fragments keyword)) =
        keyword :: lexemes (Fragment.marked d (n + 1)
          (first.predicate.fragments ++ Conditions.furtherFragments rest)) := by
      rw [htext, lexemes_blank, lexemes_lead, hkeyword]
      rfl
    rw [readSection, hlexemes]
    dsimp only
    rw [if_pos rfl, readChain_furtherFragments hfirst hrest hfuel hvalues,
      chain_formula hlinked hclauses]

end Reading

end FluentSql
