import FluentSql.Document.Source

/-!
# Blanks, comments and strings in TOML

A string is read in two steps: its raw body is cut off at the closing quotes, then
the body is checked and its escapes are resolved. Line ends inside a string are
brought to a single line feed.
-/

namespace FluentSql.Toml

/-- The blanks inside a line. -/
def isGap (c : Char) : Bool :=
  c == ' ' || c == '\t'

def skipGap (cs : List Char) : List Char :=
  cs.dropWhile isGap

/-- Characters that may stand in comments and strings as they are: no controls but the
tab. -/
def isPlain (c : Char) : Bool :=
  c == '\t' || (0x20 ≤ c.toNat && c.toNat != 0x7f)

def skipComment : List Char → List Char
  | '#' :: cs => cs.dropWhile isPlain
  | cs => cs

/-- A line feed, perhaps behind a carriage return. -/
def newline? : List Char → Option (List Char)
  | '\n' :: cs => some cs
  | '\r' :: '\n' :: cs => some cs
  | _ => none

/-- The rest of a line that holds nothing more than a comment. -/
def endLine? (cs : List Char) : Option (List Char) :=
  let rest := skipComment (skipGap cs)
  if rest = [] then some [] else newline? rest

/-- Skips blanks, line ends and comments; `comment` tells whether one is open. -/
def skipLines (comment : Bool) : List Char → List Char
  | [] => []
  | c :: cs =>
    if c = '\n' then skipLines false cs
    else if c = '\r' then if cs.head? = some '\n' then skipLines comment cs else c :: cs
    else if comment then if isPlain c then skipLines true cs else c :: cs
    else if isGap c then skipLines false cs
    else if c = '#' then skipLines true cs
    else c :: cs

/-- Cuts a string off at its closing quotes: three of them if `long`, and then up to
two more belong to the body. A character behind a backslash closes nothing. -/
def splitBody (quote : Char) (escapes long : Bool) : List Char → Option (List Char × List Char)
  | [] => none
  | c :: cs =>
    if escapes ∧ c = '\\' then
      match cs with
      | [] => none
      | d :: rest =>
        (splitBody quote escapes long rest).map fun (body, rest) => (c :: d :: body, rest)
    else if c = quote ∧ !long then some ([], cs)
    else if c = quote ∧ cs.take 2 = [quote, quote] then
      let extra := ((cs.drop 2).take 2).takeWhile (· == quote)
      some (extra, cs.drop (2 + extra.length))
    else (splitBody quote escapes long cs).map fun (body, rest) => (c :: body, rest)

/-- The lines of a long literal string. -/
def literalLines : List Char → Option (List Char)
  | [] => some []
  | c :: cs =>
    if c = '\r' then if cs.head? = some '\n' then literalLines cs else none
    else if c = '\n' ∨ isPlain c then (literalLines cs).map (c :: ·)
    else none

/-- Where the reader of a long string stands behind a backslash that ends a line. -/
inductive Fold where
  | outside
  /-- Behind the backslash, before the line end. -/
  | before
  /-- Behind the line end; blanks and further line ends are dropped. -/
  | behind
  deriving DecidableEq

def shortEscape? (c : Char) : Option Char :=
  if c = '"' ∨ c = '\\' then some c
  else if c = 'b' then some '\x08'
  else if c = 't' then some '\t'
  else if c = 'n' then some '\n'
  else if c = 'f' then some '\x0c'
  else if c = 'r' then some '\r'
  else none

def charOf? (n : Nat) : Option Char :=
  if n.isValidChar then some (Char.ofNat n) else none

def push? (c : Option Char) (cs : Option (List Char)) : Option (List Char) :=
  match c, cs with
  | some c, some cs => some (c :: cs)
  | _, _ => none

/-- Resolves the escapes of a body; line ends are allowed if `long`. -/
def unescape (long : Bool) (fold : Fold) : List Char → Option (List Char)
  | [] => if fold = .before then none else some []
  | c :: cs =>
    let atLineEnd := c = '\n' ∨ (c = '\r' ∧ cs.head? = some '\n')
    if fold = .before then
      if isGap c then unescape long .before cs
      else if c = '\n' then unescape long .behind cs
      else if atLineEnd then unescape long .before cs
      else none
    else if fold = .behind ∧ (isGap c ∨ atLineEnd) then unescape long .behind cs
    else if c = '\\' then
      match cs with
      | [] => none
      | 'u' :: a :: b :: c :: d :: rest =>
        push? ((Source.hexUnit? a b c d).bind charOf?) (unescape long .outside rest)
      | 'U' :: a :: b :: c :: d :: e :: f :: g :: h :: rest =>
        let code := match Source.hexUnit? a b c d, Source.hexUnit? e f g h with
          | some high, some low => charOf? (high * 0x10000 + low)
          | _, _ => none
        push? code (unescape long .outside rest)
      | e :: rest =>
        if long ∧ (isGap e ∨ e = '\n' ∨ e = '\r') then unescape long .before (e :: rest)
        else push? (shortEscape? e) (unescape long .outside rest)
    else if long ∧ atLineEnd then
      if c = '\n' then push? (some c) (unescape long .outside cs) else unescape long .outside cs
    else if isPlain c then push? (some c) (unescape long .outside cs)
    else none

/-- The line end right behind opening quotes is no part of a long string. -/
def skipFirstLine (cs : List Char) : List Char :=
  (newline? cs).getD cs

/-- A string of one line, behind its opening quote. -/
def readShort (quote : Char) (cs : List Char) : Option (String × List Char) := do
  let (body, rest) ← splitBody quote (quote == '"') false cs
  let content ← if quote = '"' then unescape false .outside body
    else if body.all isPlain then some body else none
  return (String.ofList content, rest)

/-- A string of several lines, behind its opening quotes. -/
def readLong (quote : Char) (cs : List Char) : Option (String × List Char) := do
  let (body, rest) ← splitBody quote (quote == '"') true (skipFirstLine cs)
  let content ← if quote = '"' then unescape true .outside body else literalLines body
  return (String.ofList content, rest)

/-- A string, behind the first quote. -/
def readString (quote : Char) (cs : List Char) : Option (String × List Char) :=
  if cs.take 2 = [quote, quote] then readLong quote (cs.drop 2) else readShort quote cs

/-- Characters of a key without quotes. -/
def isBare (c : Char) : Bool :=
  ('a' ≤ c && c ≤ 'z') || ('A' ≤ c && c ≤ 'Z') || Integer.isDigit c || c == '-' || c == '_'

/-- One part of a key. -/
def readKeyPart (cs : List Char) : Option (String × List Char) :=
  match cs with
  | [] => none
  | c :: rest =>
    if c = '"' ∨ c = '\'' then readShort c rest
    else
      let name := cs.takeWhile isBare
      if name = [] then none else some (String.ofList name, cs.dropWhile isBare)

/-- Key parts with points between them and the blanks around, at most `limit` parts. -/
def readKey : Nat → List Char → Option (List String × List Char)
  | 0, _ => none
  | limit + 1, cs => do
    let (part, rest) ← readKeyPart (skipGap cs)
    match skipGap rest with
    | '.' :: rest =>
      let (parts, rest) ← readKey limit rest
      return (part :: parts, rest)
    | rest => return ([part], rest)

end FluentSql.Toml
