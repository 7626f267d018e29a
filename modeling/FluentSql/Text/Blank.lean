/-!
# Blanks

White space is the set of twenty-five characters with the White_Space property.
`trim` removes it from both ends of a text and `words` cuts a text at every run
of it.
-/

namespace FluentSql.Text

/-- The characters with the White_Space property. -/
def isBlank (c : Char) : Bool :=
  let n := c.toNat
  (0x09 ≤ n && n ≤ 0x0d) || n == 0x20 || n == 0x85 || n == 0xa0 || n == 0x1680 ||
    (0x2000 ≤ n && n ≤ 0x200a) || n == 0x2028 || n == 0x2029 || n == 0x202f ||
    n == 0x205f || n == 0x3000

/-- Drops the longest suffix whose characters all satisfy `p`. -/
def dropTail (p : Char → Bool) (cs : List Char) : List Char :=
  (cs.reverse.dropWhile p).reverse

def trimLeftChars (cs : List Char) : List Char :=
  cs.dropWhile isBlank

def trimChars (cs : List Char) : List Char :=
  dropTail isBlank (trimLeftChars cs)

/-- The text without the white space around it. -/
def trim (s : String) : String :=
  String.ofList (trimChars s.toList)

/-- Whether nothing but white space is left. -/
def isBlankText (s : String) : Bool :=
  s.toList.all isBlank

/-- The maximal runs of characters that are not white space, in order. -/
def wordsOf : List Char → List (List Char)
  | [] => []
  | c :: cs =>
    if isBlank c then wordsOf cs
    else if cs.head?.all isBlank then [c] :: wordsOf cs
    else match wordsOf cs with
      | w :: ws => (c :: w) :: ws
      | [] => [[c]]

/-- The words of a text. -/
def words (s : String) : List String :=
  (wordsOf s.toList).map String.ofList

/-- The texts with `separator` between each two of them. -/
def joinWith (separator : String) : List String → String
  | [] => ""
  | [s] => s
  | s :: t :: rest => s ++ separator ++ joinWith separator (t :: rest)

/-- The texts one after the other. -/
def concat : List String → String
  | [] => ""
  | s :: rest => s ++ concat rest

/-- The texts as a comma list. -/
def commaList (parts : List String) : String :=
  joinWith ", " parts

/-- Every occurrence of `c` written as `replacement`. -/
def replaceChar (c : Char) (replacement : List Char) (s : String) : String :=
  String.ofList (s.toList.flatMap fun d => if d = c then replacement else [d])

/-- Whether `part` occurs as a prefix. -/
def startsWithChars : List Char → List Char → Bool
  | [], _ => true
  | _ :: _, [] => false
  | p :: ps, c :: cs => p == c && startsWithChars ps cs

def containsChars (part : List Char) : List Char → Bool
  | [] => part.isEmpty
  | c :: cs => startsWithChars part (c :: cs) || containsChars part cs

/-- Whether `part` occurs somewhere in `s`. -/
def contains (s part : String) : Bool :=
  containsChars part.toList s.toList

end FluentSql.Text
