import FluentSql.Sqlite.Cell
import FluentSql.Sqlite.Hexadecimal
import FluentSql.Text.Case

/-!
# Tokens of SQL

A statement text as words, names, literals, parameter slots and marks; blanks and comments
between them are passed over. A NUL ends the text.
-/

namespace FluentSql.Sqlite

inductive Token where
  /-- A keyword or name, in small letters, as its case does not matter. -/
  | word (s : String)
  /-- A name between quotation marks. In double ones it may turn out to be a text. -/
  | name (s : String) (double : Bool)
  | text (s : String)
  /-- A decimal integer. -/
  | natural (n : Nat)
  /-- A decimal with a point or an exponent. -/
  | real (x : Binary64)
  /-- Any other literal, or a bound parameter. -/
  | cell (c : Cell)
  /-- A parameter slot with its label and the place where it starts, in bytes. -/
  | slot (label : String) (start : Nat)
  | mark (s : String)
  /-- What is no token. -/
  | illegal
  deriving DecidableEq

namespace Token

def isWordStart (c : Char) : Bool :=
  c.isAlpha || c == '_' || 0x80 ≤ c.toNat

def isWordChar (c : Char) : Bool :=
  isWordStart c || Integer.isDigit c || c == '$'

/-- The number of characters up to and with the first `*` that a `/` follows. -/
def commentLength : List Char → Nat
  | [] => 0
  | ['*'] => 1
  | '*' :: '/' :: _ => 2
  | _ :: cs => 1 + commentLength cs

/-- What stands up to a closing mark, a doubled mark standing for one, and how many
characters that are with the closing mark. -/
def readQuoted (quote : Char) : List Char → Option (List Char × Nat)
  | [] => none
  | [c] => if c = quote then some ([], 1) else none
  | c :: d :: cs =>
    if c ≠ quote then (readQuoted quote (d :: cs)).map fun (s, n) => (c :: s, n + 1)
    else if d ≠ quote then some ([], 1)
    else (readQuoted quote cs).map fun (s, n) => (c :: s, n + 2)

/-- The token of a quotation by its mark. -/
def ofQuotation (quote : Char) (s : String) : Token :=
  if quote = '\'' then text s else name s (quote == '"')

/-- A quotation behind its opening mark. -/
def lexQuotation (quote : Char) (cs : List Char) : Token × Nat :=
  match readQuoted quote cs with
  | some (s, n) => (ofQuotation quote (String.ofList s), n)
  | none => (illegal, cs.length)

/-- A name in brackets, behind the opening one. -/
def lexBracket (cs : List Char) : Token × Nat :=
  let body := cs.takeWhile (· != ']')
  if body.length < cs.length then (name (String.ofList body) false, body.length + 1)
  else (illegal, cs.length)

/-- A blob behind its opening mark. -/
def lexBlob (cs : List Char) : Token × Nat :=
  let body := cs.takeWhile Hexadecimal.isDigit
  match cs.drop body.length with
  | '\'' :: _ =>
    if body.length % 2 = 0 then (cell (.blob (Hexadecimal.bytes body)), body.length + 1)
    else (illegal, cs.length)
  | _ => (illegal, cs.length)

/-- Every underscore stands between two digits. -/
def isSeparated (digit : Char → Bool) : List Char → Bool
  | [] => true
  | '_' :: _ => false
  | c :: '_' :: d :: cs => digit c && digit d && isSeparated digit (d :: cs)
  | [_, '_'] => false
  | _ :: cs => isSeparated digit cs

def dropUnderscores (cs : List Char) : List Char :=
  cs.filter (· != '_')

/-- A hexadecimal integer has at most sixty-four bits, the first of them for the sign. -/
def ofHex (digits : List Char) : Token :=
  let n := Hexadecimal.toNat (dropUnderscores digits)
  if isSeparated Hexadecimal.isDigit digits && n < twoTo 64 then
    if n < twoTo 63 then natural n else cell (.integer (Int64.ofNat n))
  else illegal

def isDigitOrUnderscore (c : Char) : Bool :=
  Integer.isDigit c || c == '_'

/-- The length of an exponent, mark and sign included; none without a digit. -/
def exponentLength (cs : List Char) : Nat :=
  match cs with
  | c :: rest =>
    if !RealText.isExponentMark c then 0
    else
      let sign := if rest.head?.any fun c => c == '+' || c == '-' then 1 else 0
      let digits := (rest.drop sign).takeWhile isDigitOrUnderscore
      if digits.head?.any Integer.isDigit then 1 + sign + digits.length else 0
  | [] => 0

/-- A decimal number; one with a point or an exponent is real. -/
def ofDecimal (cs : List Char) : Token :=
  let n := Numeral.read (dropUnderscores cs)
  if !isSeparated Integer.isDigit cs then illegal
  else if n.isPlain then natural n.toInt.toNat
  else real n.toReal

/-- The length of a decimal number that characters start with. -/
def decimalLength (cs : List Char) : Nat :=
  let whole := (cs.takeWhile isDigitOrUnderscore).length
  let mantissa := match cs.drop whole with
    | '.' :: rest => whole + 1 + (rest.takeWhile isDigitOrUnderscore).length
    | _ => whole
  mantissa + exponentLength (cs.drop mantissa)

/-- The number that characters start with; no word may follow it at once. -/
def lexNumber (cs : List Char) : Token × Nat :=
  let hex := match cs with
    | '0' :: x :: d :: _ => (x == 'x' || x == 'X') && Hexadecimal.isDigit d
    | _ => false
  let (token, length) :=
    if hex then
      let digits := (cs.drop 2).takeWhile fun c => Hexadecimal.isDigit c || c == '_'
      (ofHex digits, 2 + digits.length)
    else (ofDecimal (cs.take (decimalLength cs)), decimalLength cs)
  if (cs.drop length).head?.any isWordChar then (illegal, length) else (token, length)

/-- The rest of a label in parentheses, up to the closing one; no blank is in it. -/
def suffixLength (cs : List Char) : Option Nat :=
  let body := cs.takeWhile fun c => !isSpace c && c != ')'
  if (cs.drop body.length).head? = some ')' then some (body.length + 1) else none

/-- The length of the label of a named slot, its first mark left out. -/
def labelLength (named : Bool) : List Char → Option Nat
  | [] => if named then some 0 else none
  | c :: cs =>
    if isWordChar c then (labelLength true cs).map (· + 1)
    else if c = '(' && named then (suffixLength cs).map (· + 1)
    else if c = ':' && cs.head? = some ':' then
      match cs with
      | _ :: cs => (labelLength named cs).map (· + 2)
      | [] => none
    else if named then some 0 else none

/-- A slot with a name behind its first mark. -/
def lexNamedSlot (start : Nat) (c : Char) (cs : List Char) : Token × Nat :=
  match labelLength false cs with
  | some n => (slot (String.ofList (c :: cs.take n)) start, n)
  | none => (illegal, 0)

/-- Marks of one character. -/
def isMark (c : Char) : Bool :=
  "(),;+*%&~".toList.contains c

/-- A mark, and how many characters it has behind the first. -/
def lexMark (c : Char) (cs : List Char) : Token × Nat :=
  match c, cs with
  | '-', '>' :: '>' :: _ => (mark "->>", 2)
  | '-', '>' :: _ => (mark "->", 1)
  | '-', _ => (mark "-", 0)
  | '/', _ => (mark "/", 0)
  | '.', _ => (mark ".", 0)
  | '=', '=' :: _ => (mark "=", 1)
  | '=', _ => (mark "=", 0)
  | '<', '=' :: _ => (mark "<=", 1)
  | '<', '>' :: _ => (mark "<>", 1)
  | '<', '<' :: _ => (mark "<<", 1)
  | '<', _ => (mark "<", 0)
  | '>', '=' :: _ => (mark ">=", 1)
  | '>', '>' :: _ => (mark ">>", 1)
  | '>', _ => (mark ">", 0)
  | '!', '=' :: _ => (mark "<>", 1)
  | '|', '|' :: _ => (mark "||", 1)
  | '|', _ => (mark "|", 0)
  | c, _ => (if isMark c then mark (String.singleton c) else illegal, 0)

/-- The length of a blank or comment behind its first character, if there is one. -/
def gapLength? (c : Char) (cs : List Char) : Option Nat :=
  match c, cs with
  | '-', '-' :: rest => some (1 + (rest.takeWhile (· != '\n')).length)
  | '/', '*' :: d :: rest => some (1 + commentLength (d :: rest))
  | '\ufeff', _ => some 0
  | '\x0b', _ => none
  | c, cs => if isSpace c then some (cs.takeWhile isSpace).length else none

/-- The token that starts with `c`, and how many characters it has behind `c`. -/
def lex (start : Nat) (c : Char) (cs : List Char) : Token × Nat :=
  if c = '\'' || c = '"' || c = '\x60' then lexQuotation c cs
  else if c = '[' then lexBracket cs
  else if Integer.isDigit c || (c = '.' && cs.head?.any Integer.isDigit) then
    let (token, length) := lexNumber (c :: cs)
    (token, length - 1)
  else if (c = 'x' || c = 'X') && cs.head? = some '\'' then
    let (token, length) := lexBlob (cs.drop 1)
    (token, length + 1)
  else if isWordStart c then
    let run := cs.takeWhile isWordChar
    (word (Text.asciiLower (String.ofList (c :: run))), run.length)
  else if c = '?' then
    let digits := cs.takeWhile Integer.isDigit
    (slot (String.ofList (c :: digits)) start, digits.length)
  else if c = '$' || c = '@' || c = ':' || c = '#' then lexNamedSlot start c cs
  else lexMark c cs

/-- The tokens of characters that start at a place. -/
def readFrom (start : Nat) : List Char → List Token
  | [] => []
  | c :: cs =>
    let width (n : Nat) := (String.ofList (c :: cs.take n)).utf8ByteSize
    match gapLength? c cs with
    | some n => readFrom (start + width n) (cs.drop n)
    | none =>
      let (token, n) := lex start c cs
      token :: readFrom (start + width n) (cs.drop n)
termination_by cs => cs.length

/-- The tokens of a text. -/
def read (sql : String) : List Token :=
  readFrom 0 (sql.toList.takeWhile (· != '\x00'))

/-- The statements between semicolons, empty ones left out. -/
def statements : List Token → List (List Token)
  | [] => []
  | t :: rest =>
    if t = mark ";" then statements rest
    else if rest.head?.all (· == mark ";") then [t] :: statements rest
    else match statements rest with
      | s :: more => (t :: s) :: more
      | [] => [[t]]

/-- The first statement. -/
def firstStatement (tokens : List Token) : List Token :=
  (statements tokens).headD []

/-- The column or table that a token names, in small letters; a text may stand for it. -/
def name? : Token → Option String
  | word s => some s
  | name s _ => some (Text.asciiLower s)
  | text s => some (Text.asciiLower s)
  | _ => none

end Token

end FluentSql.Sqlite
