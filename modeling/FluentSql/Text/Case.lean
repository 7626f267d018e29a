import FluentSql.Text.CaseTable

/-!
# Letter case

Full case conversion: a character may become several, and a capital sigma that
ends a word becomes a final sigma. The ASCII variants leave all else alone.
-/

namespace FluentSql.Text

/-- The other case of `c` by the first run that holds it. -/
def caseRun (runs : List CaseRun) (c : Char) : Char :=
  match runs.find? fun (first, last, step, _) =>
      first ≤ c.toNat && c.toNat ≤ last && (c.toNat - first) % step == 0 with
  | some (_, _, _, shift) => Char.ofNat ((c.toNat : Int) + shift).toNat
  | none => c

def upperChar (c : Char) : List Char :=
  if c.toNat < 0x80 then [c.toUpper]
  else match upperExpansions.find? (·.1 == c.toNat) with
    | some (_, expansion) => expansion.map Char.ofNat
    | none => [caseRun upperRuns c]

def lowerChar (c : Char) : List Char :=
  if c.toNat < 0x80 then [c.toLower]
  else match lowerExpansions.find? (·.1 == c.toNat) with
    | some (_, expansion) => expansion.map Char.ofNat
    | none => [caseRun lowerRuns c]

/-- Whether the first character that is not ignorable has a case. -/
def nextIsCased (cs : List Char) : Bool :=
  (cs.dropWhile (inRanges caseIgnorableRanges)).head?.any (inRanges casedRanges)

/-- Lower case of a text, `before` being what stands before it, last first. -/
def lowerFrom (before : List Char) : List Char → List Char
  | [] => []
  | c :: cs =>
    (if c = 'Σ' then [if nextIsCased before && !nextIsCased cs then 'ς' else 'σ']
     else lowerChar c) ++ lowerFrom (c :: before) cs

def upper (s : String) : String :=
  String.ofList (s.toList.flatMap upperChar)

def lower (s : String) : String :=
  String.ofList (lowerFrom [] s.toList)

/-- Lower case for the letters A to Z only. -/
def asciiLower (s : String) : String :=
  String.ofList (s.toList.map Char.toLower)

end FluentSql.Text
