import FluentSql.Clause.Conditions
import FluentSql.Proofs.Clause.Fragment
import FluentSql.Proofs.Number.Digits
import FluentSql.Proofs.Text.Lexeme

/-!
# Conditions read back

A reader of conditions in SQL precedence: AND binds tighter than OR, and the AND of a
BETWEEN belongs to it. A placeholder stands for a parameter, by its number or by its
position. What is read is a disjunction of conjunctions of predicates.
-/

namespace FluentSql

open FluentSql.Text

/-- A disjunction of conjunctions. -/
abbrev Formula := List (List Predicate)

namespace Reading

/-- The parameter that a placeholder stands for, `next` being the position of the first
one that no placeholder before it has taken. -/
def index? (d : Dialect) (next : Nat) (lexeme : String) : Option Nat :=
  if d.isNumbered then
    if lexeme.toList.head? = some '$' then
      (Integer.readNat? lexeme.toList.tail).bind fun k => if k = 0 then none else some (k - 1)
    else none
  else if lexeme = "?" then some next
  else none

section

variable (d : Dialect) (params : List Value)

def readValue (next : Nat) (lexeme : String) : Option Value :=
  (index? d next lexeme).bind fun k => params[k]?

/-- Placeholders between commas, up to a closing parenthesis. -/
def readValues (next : Nat) : List String → Option (List Value × List String)
  | lexeme :: separator :: rest =>
    (readValue d params next lexeme).bind fun v =>
      if separator = "," then (readValues (next + 1) rest).map fun p => (v :: p.1, p.2)
      else if separator = ")" then some ([v], rest)
      else none
  | _ => none

def readCompare (next : Nat) (column : String) (op : Operator) :
    List String → Option (Predicate × List String)
  | lexeme :: rest => (readValue d params next lexeme).map fun v => (.compare column op v, rest)
  | [] => none

/-- The AND between the bounds is read here, so it never joins two predicates. -/
def readBetween (next : Nat) (column : String) (negated : Bool) :
    List String → Option (Predicate × List String)
  | low :: "AND" :: high :: rest =>
    (readValue d params next low).bind fun l =>
      (readValue d params (next + 1) high).map fun h => (.between column negated l h, rest)
  | _ => none

def readIn (next : Nat) (column : String) (negated : Bool) :
    List String → Option (Predicate × List String)
  | "(" :: rest => (readValues d params next rest).map fun p => (.inList column negated p.1, p.2)
  | _ => none

/-- A column and its test. -/
def readPredicate (next : Nat) : List String → Option (Predicate × List String)
  | column :: "IS" :: "NULL" :: rest => some (.isNull column false, rest)
  | column :: "IS" :: "NOT" :: "NULL" :: rest => some (.isNull column true, rest)
  | column :: "BETWEEN" :: rest => readBetween d params next column false rest
  | column :: "NOT" :: "BETWEEN" :: rest => readBetween d params next column true rest
  | column :: "IN" :: rest => readIn d params next column false rest
  | column :: "NOT" :: "IN" :: rest => readIn d params next column true rest
  | column :: "NOT" :: "LIKE" :: rest => readCompare d params next column .notLike rest
  | column :: operator :: rest =>
    (Operator.all.find? fun op => op.sql == operator).bind fun op =>
      readCompare d params next column op rest
  | _ => none

/-- Predicates joined by AND and OR. An AND adds to the first conjunction of what
follows it, an OR starts a conjunction of its own. -/
def readChain : Nat → Nat → List String → Option Formula
  | 0, _, _ => none
  | fuel + 1, next, lexemes =>
    match readPredicate d params next lexemes with
    | none => none
    | some (p, []) => some [[p]]
    | some (p, joint :: rest) =>
      if joint = "AND" then
        match readChain fuel (next + p.values.length) rest with
        | some (conjunction :: others) => some ((p :: conjunction) :: others)
        | _ => none
      else if joint = "OR" then
        (readChain fuel (next + p.values.length) rest).map fun others => [p] :: others
      else none

/-- A part of a statement behind its keyword. -/
def readSection (keyword : String) (next : Nat) (cs : List Char) : Option Formula :=
  match lexemes cs with
  | [] => none
  | first :: rest => if first = keyword then readChain d params (cs.length + 1) next rest else none

end

end Reading

namespace Fragment

/-- The text of fragments in the placeholders of a dialect, numbered from `n` on. -/
def marked (d : Dialect) (n : Nat) : List Fragment → List Char
  | [] => []
  | .slot _ :: fs => d.mark n ++ marked d (n + 1) fs
  | .text s :: fs => s.toList ++ marked d n fs
  | .literal s :: fs => (render (.literal s)).toList ++ marked d n fs

theorem marked_append (d : Dialect) (n : Nat) (fs gs : List Fragment) :
    marked d n (fs ++ gs) = marked d n fs ++ marked d (n + (values fs).length) gs := by
  induction fs generalizing n with
  | nil => rfl
  | cons f fs ih =>
    cases f with
    | text s =>
      rw [List.cons_append, marked, marked, ih, values_text, List.append_assoc]
    | literal s =>
      rw [List.cons_append, marked, marked, ih, List.append_assoc]
      rfl
    | slot v =>
      rw [List.cons_append, marked, marked, ih, values_slot, List.length_cons, List.append_assoc,
        Nat.add_assoc, Nat.add_comm 1]

/-- Lowering closed fragments writes their slots as marks and copies the rest. -/
theorem written_renderAll (d : Dialect) {fs : List Fragment} (h : ∀ f ∈ fs, f.Closed) (n : Nat) :
    d.written n (renderAll fs).toList = marked d n fs := by
  induction fs generalizing n with
  | nil =>
    rw [renderAll_nil]
    exact d.written_of_closed closed_empty n
  | cons f fs ih =>
    have hrest := ih fun g hg => h g (List.mem_cons_of_mem f hg)
    have hf := h f List.mem_cons_self
    rw [renderAll_cons, String.toList_append]
    cases f with
    | text s =>
      rw [render, d.written_append hf.1, hf.2, Nat.add_zero, hrest, d.written_of_closed hf n]
      rfl
    | literal s =>
      have hs := closed_literal s
      rw [render, d.written_append hs.1, hs.2, Nat.add_zero, hrest, d.written_of_closed hs n]
      rfl
    | slot v =>
      have hmark : ("?" : String).toList = ['?'] := rfl
      rw [render, hmark, List.singleton_append, d.written_mark, hrest]
      rfl

end Fragment

namespace Reading

variable {d : Dialect} {params : List Value}

/-- A mark is read as the parameter it was numbered for. -/
theorem readValue_mark {n : Nat} {v : Value} (h : params[n]? = some v) :
    readValue d params n (String.ofList (d.mark (n + 1))) = some v := by
  have hindex : index? d n (String.ofList (d.mark (n + 1))) = some n := by
    unfold index? Dialect.mark
    cases d.isNumbered with
    | false => rfl
    | true =>
      rw [if_pos rfl, if_pos rfl, String.toList_ofList, List.head?_cons, if_pos rfl,
        List.tail_cons, Integer.readNat?_toDigits]
      rfl
  rw [readValue, hindex]
  exact h

theorem getElem?_of_starts {n : Nat} {v : Value} {vs : List Value}
    (h : v :: vs <+: params.drop n) : params[n]? = some v := by
  obtain ⟨tail, htail⟩ := h
  have hget : (params.drop n)[0]? = params[n + 0]? := List.getElem?_drop
  rw [← htail] at hget
  exact hget.symm

theorem starts_append {n : Nat} (front : List Value) {vs : List Value}
    (h : front ++ vs <+: params.drop n) : vs <+: params.drop (n + front.length) := by
  obtain ⟨tail, htail⟩ := h
  refine ⟨tail, ?_⟩
  rw [← List.drop_drop, ← htail, List.append_assoc, List.drop_left]

theorem lexemes_mark (n : Nat) {rest : List Char} (hrest : Breaks rest) :
    lexemes (d.mark n ++ rest) = String.ofList (d.mark n) :: lexemes rest :=
  lexemes_unbroken (unbroken_mark d n) hrest

theorem readValues_slots {n : Nat} {vs : List Value} (hne : vs ≠ [])
    (h : vs <+: params.drop n) (rest : List Char) :
    readValues d params n
        (lexemes (Fragment.marked d (n + 1) (Fragment.slots vs) ++ ')' :: rest)) =
      some (vs, lexemes rest) := by
  have hclose : Breaks (')' :: rest) := breaks_cons (by decide) rest
  induction vs generalizing n with
  | nil => exact absurd rfl hne
  | cons v vs ih =>
    have hread := readValue_mark (d := d) (getElem?_of_starts h)
    cases vs with
    | nil =>
      have htext : Fragment.marked d (n + 1) (Fragment.slots [v]) = d.mark (n + 1) ++ [] := rfl
      rw [htext, List.append_nil, lexemes_mark _ hclose, lexemes_punctuation (by decide),
        readValues, hread]
      rfl
    | cons w vs =>
      have htail : w :: vs <+: params.drop (n + 1) := starts_append [v] h
      have hrest := ih (List.cons_ne_nil w vs) htail
      have htext : Fragment.marked d (n + 1) (Fragment.slots (v :: w :: vs)) =
          d.mark (n + 1) ++ (',' :: ' ' ::
            Fragment.marked d (n + 1 + 1) (Fragment.slots (w :: vs))) := rfl
      have hcomma : Breaks (',' :: ' ' ::
          (Fragment.marked d (n + 1 + 1) (Fragment.slots (w :: vs)) ++ ')' :: rest)) :=
        breaks_cons (by decide) _
      rw [htext, List.append_assoc, List.cons_append, List.cons_append, lexemes_mark _ hcomma,
        lexemes_punctuation (by decide)]
      rw [lexemes_blank, readValues, hread]
      show ((readValues d params (n + 1) _).map _) = _
      rw [hrest]
      rfl

theorem lexemes_column {c : String} (hc : Plain c) (tail : String) (rest : List Char) :
    lexemes ((c ++ " " ++ tail).toList ++ rest) = c :: lexemes (tail.toList ++ rest) := by
  have htext : (c ++ " " ++ tail).toList ++ rest = c.toList ++ ' ' :: (tail.toList ++ rest) := by
    have hblank : (" " : String).toList = [' '] := rfl
    rw [String.toList_append, String.toList_append, hblank, List.append_assoc, List.append_assoc]
    rfl
  rw [htext, hc.lexemes (breaks_cons (by decide) _), lexemes_blank]

/-- A fixed text that ends with a blank is cut off from what follows. -/
theorem toList_lead (lead : String) :
    (" " ++ lead ++ " ").toList = ' ' :: (lead ++ " ").toList := by
  rw [String.append_assoc, String.toList_append]
  rfl

theorem lexemes_lead (lead : String) (rest : List Char) :
    lexemes ((lead ++ " ").toList ++ rest) = lexemes lead.toList ++ lexemes rest := by
  have hblank : (" " : String).toList = [' '] := rfl
  rw [String.toList_append, hblank, List.append_assoc]
  exact lexemes_append_blank _ _

theorem readPredicate_operator (n : Nat) (c : String) (op : Operator) (rest : List String) :
    readPredicate d params n (c :: (lexemes op.sql.toList ++ rest)) =
      readCompare d params n c op rest := by
  cases op <;> rfl

theorem readPredicate_compare {n : Nat} {c : String} (hc : Plain c) (op : Operator) {v : Value}
    (h : [v] <+: params.drop n) {rest : List Char} (hrest : Breaks rest) :
    readPredicate d params n
        (lexemes (Fragment.marked d (n + 1) (Predicate.compare c op v).fragments ++ rest)) =
      some (.compare c op v, lexemes rest) := by
  have htext : Fragment.marked d (n + 1) (Predicate.compare c op v).fragments =
      (c ++ " " ++ (op.sql ++ " ")).toList ++ d.mark (n + 1) := by
    rw [← String.append_assoc]
    show _ ++ (d.mark (n + 1) ++ []) = _
    rw [List.append_nil]
  rw [htext, List.append_assoc, lexemes_column hc, lexemes_lead, readPredicate_operator,
    lexemes_mark _ hrest, readCompare, readValue_mark (getElem?_of_starts h)]
  rfl

/-- A fixed lexeme that NOT may stand in front of. -/
theorem lexemes_negatable (negated : Bool) (word : String) (rest : List Char) :
    lexemes ((Predicate.notText negated ++ (word ++ " ")).toList ++ rest) =
      (if negated then ["NOT"] else []) ++ (lexemes word.toList ++ lexemes rest) := by
  cases negated with
  | false =>
    have hnone : Predicate.notText false ++ (word ++ " ") = word ++ " " := String.empty_append
    rw [hnone, lexemes_lead]
    rfl
  | true =>
    have hnot : Predicate.notText true = "NOT" ++ " " := by decide
    rw [hnot, String.toList_append, List.append_assoc, lexemes_lead, lexemes_lead]
    rfl

theorem readPredicate_between {n : Nat} {c : String} (hc : Plain c) (negated : Bool)
    {low high : Value} (h : [low, high] <+: params.drop n) {rest : List Char}
    (hrest : Breaks rest) :
    readPredicate d params n (lexemes
        (Fragment.marked d (n + 1) (Predicate.between c negated low high).fragments ++ rest)) =
      some (.between c negated low high, lexemes rest) := by
  have htext : Fragment.marked d (n + 1) (Predicate.between c negated low high).fragments ++ rest =
      (c ++ " " ++ (Predicate.notText negated ++ ("BETWEEN" ++ " "))).toList ++
        (d.mark (n + 1) ++ ' ' :: (("AND" ++ " ").toList ++ (d.mark (n + 1 + 1) ++ rest))) := by
    have hand : (" AND " : String).toList = ' ' :: ("AND" ++ " ").toList := by decide
    have hword : ("BETWEEN " : String) = "BETWEEN" ++ " " := by decide
    rw [Predicate.fragments, Fragment.marked, Fragment.marked, Fragment.marked, Fragment.marked,
      Fragment.marked, hand, ← String.append_assoc, hword]
    simp only [List.append_assoc, List.cons_append, List.nil_append]
  have hlow := readValue_mark (d := d) (getElem?_of_starts h)
  have htail : [high] <+: params.drop (n + 1) := starts_append [low] h
  have hhigh := readValue_mark (d := d) (getElem?_of_starts htail)
  have hread : readBetween d params n c negated
      (String.ofList (d.mark (n + 1)) :: "AND" :: String.ofList (d.mark (n + 1 + 1)) ::
        lexemes rest) = some (.between c negated low high, lexemes rest) := by
    rw [readBetween, hlow, Option.bind_some, hhigh]
    rfl
  rw [htext, lexemes_column hc, lexemes_negatable, lexemes_mark _ (breaks_cons (by decide) _),
    lexemes_blank, lexemes_lead, lexemes_mark _ hrest]
  cases negated with
  | false => exact hread
  | true => exact hread

theorem readPredicate_inList {n : Nat} {c : String} (hc : Plain c) (negated : Bool)
    {vs : List Value} (hne : vs ≠ []) (h : vs <+: params.drop n) (rest : List Char) :
    readPredicate d params n
        (lexemes (Fragment.marked d (n + 1) (Predicate.inList c negated vs).fragments ++ rest)) =
      some (.inList c negated vs, lexemes rest) := by
  have htext : Fragment.marked d (n + 1) (Predicate.inList c negated vs).fragments ++ rest =
      (c ++ " " ++ (Predicate.notText negated ++ ("IN" ++ " "))).toList ++
        '(' :: (Fragment.marked d (n + 1) (Fragment.slots vs) ++ ')' :: rest) := by
    have hopen : c ++ " " ++ Predicate.notText negated ++ "IN (" =
        c ++ " " ++ (Predicate.notText negated ++ ("IN" ++ " ")) ++ "(" := by
      have hword : ("IN (" : String) = "IN" ++ (" " ++ "(") := by decide
      rw [hword]
      simp only [String.append_assoc]
    rw [Predicate.fragments, List.cons_append, Fragment.marked, Fragment.marked_append, hopen,
      String.toList_append]
    simp only [List.append_assoc]
    rfl
  have hread : readIn d params n c negated ("(" :: lexemes
      (Fragment.marked d (n + 1) (Fragment.slots vs) ++ ')' :: rest)) =
        some (.inList c negated vs, lexemes rest) := by
    rw [readIn, readValues_slots hne h rest]
    rfl
  rw [htext, lexemes_column hc, lexemes_negatable, lexemes_punctuation (by decide)]
  cases negated with
  | false => exact hread
  | true => exact hread

theorem readPredicate_isNull {n : Nat} {c : String} (hc : Plain c) (negated : Bool)
    {rest : List Char} (hrest : Breaks rest) :
    readPredicate d params n
        (lexemes (Fragment.marked d (n + 1) (Predicate.isNull c negated).fragments ++ rest)) =
      some (.isNull c negated, lexemes rest) := by
  have htext : Fragment.marked d (n + 1) (Predicate.isNull c negated).fragments ++ rest =
      (c ++ " " ++ ("IS" ++ " ")).toList ++
        ((Predicate.notText negated).toList ++ ("NULL".toList ++ rest)) := by
    have his : (" IS " : String) = " " ++ ("IS" ++ " ") := by decide
    rw [Predicate.fragments, Fragment.marked, Fragment.marked, his, ← String.append_assoc,
      String.toList_append, String.toList_append]
    simp only [List.append_assoc, List.nil_append]
  have hnull : lexemes ("NULL".toList ++ rest) = "NULL" :: lexemes rest := by
    have hword : Unbroken ("NULL" : String).toList := by decide
    exact lexemes_unbroken hword hrest
  rw [htext, lexemes_column hc, lexemes_lead]
  cases negated with
  | false =>
    show readPredicate d params n (c :: (_ ++ lexemes ([] ++ _))) = _
    rw [List.nil_append, hnull]
    rfl
  | true =>
    have hnot : Predicate.notText true = "NOT" ++ " " := by decide
    rw [hnot, lexemes_lead, hnull]
    rfl

end Reading

/-- A predicate on a plain column, with a value at least where it lists values. -/
structure Predicate.Readable (p : Predicate) : Prop where
  column : Plain p.column
  listed : ∀ c negated vs, p = .inList c negated vs → vs ≠ []

namespace Reading

/-- A predicate is read back from its text in front of a break. -/
theorem readPredicate_fragments {p : Predicate} (hp : p.Readable) {n : Nat}
    (h : p.values <+: params.drop n) {rest : List Char} (hrest : Breaks rest) :
    readPredicate d params n (lexemes (Fragment.marked d (n + 1) p.fragments ++ rest)) =
      some (p, lexemes rest) := by
  obtain ⟨hc, hlisted⟩ := hp
  cases p with
  | compare c op v => exact readPredicate_compare hc op h hrest
  | between c negated low high => exact readPredicate_between hc negated h hrest
  | inList c negated vs => exact readPredicate_inList hc negated (hlisted c negated vs rfl) h rest
  | isNull c negated => exact readPredicate_isNull hc negated hrest

end Reading

end FluentSql
