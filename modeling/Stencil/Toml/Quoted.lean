import Stencil.Text.Search

/-!
# Quoted texts of TOML

Texts stand between double quotes, where a backslash escapes, or between single quotes, where it
does not; three quotes of either kind enclose several lines. Line breaks are line feeds here.

* `unescape?` is what the characters between double quotes stand for.
* `readQuoted?` reads a text that starts with a quote.
-/

namespace Stencil.Toml

/-- Whether a character may stand in a line: no control character but the tab. -/
def isPlain (c : Char) : Bool := c = '\t' || (0x20 ≤ c.toNat && c.toNat ≠ 0x7F)

/-- Whether a character is a space or a tab. -/
def isSpace (c : Char) : Bool := c = ' ' || c = '\t'

/-! ## Escapes -/

/-- The value of a digit in base sixteen. -/
def hexDigit? (c : Char) : Option Nat :=
  if '0' ≤ c ∧ c ≤ '9' then some (c.toNat - '0'.toNat)
  else if 'a' ≤ c ∧ c ≤ 'f' then some (c.toNat - 'a'.toNat + 10)
  else if 'A' ≤ c ∧ c ≤ 'F' then some (c.toNat - 'A'.toNat + 10)
  else none

/-- The character whose code is given by digits in base sixteen. -/
def charOfHex? (digits : List Char) : Option Char := do
  let values ← digits.mapM hexDigit?
  let code := values.foldl (fun n d => 16 * n + d) 0
  if h : code.isValidChar then some (Char.ofNatAux code h) else none

/-- The character that an escape of one letter stands for. -/
def escapedChar? : Char → Option Char
  | 'b' => some '\x08'
  | 't' => some '\t'
  | 'n' => some '\n'
  | 'f' => some '\x0c'
  | 'r' => some '\r'
  | '"' => some '"'
  | '\\' => some '\\'
  | _ => none

/-- Whether only spaces and tabs stand before the next line feed. -/
def isLineEnd (cs : List Char) : Bool := (cs.dropWhile isSpace).head? = some '\n'

/-- What characters between double quotes stand for. A backslash at the end of a line drops the
line break and all blanks after it; `dropping` says that it is about these blanks. -/
def unescape? (dropping : Bool) : List Char → Option (List Char)
  | [] => some []
  | '\\' :: 'u' :: a :: b :: c :: d :: cs => do
    let char ← charOfHex? [a, b, c, d]
    (unescape? false cs).map (char :: ·)
  | '\\' :: 'U' :: a :: b :: c :: d :: e :: f :: g :: h :: cs => do
    let char ← charOfHex? [a, b, c, d, e, f, g, h]
    (unescape? false cs).map (char :: ·)
  | '\\' :: c :: cs =>
    match escapedChar? c with
    | some char => (unescape? false cs).map (char :: ·)
    | none => if isLineEnd (c :: cs) then unescape? true cs else none
  | c :: cs =>
    if c = '\\' then none
    else if dropping && (isSpace c || c = '\n') then unescape? true cs
    else (unescape? false cs).map (c :: ·)

/-! ## Quotes -/

/-- The characters before the closing quote, and what comes after it. Where backslashes escape, the
character after one closes nothing. -/
def upToQuote? (quote : Char) (escapes escaped : Bool) :
    List Char → Option (List Char × List Char)
  | [] => none
  | c :: cs =>
    if !escaped && c = quote then some ([], cs)
    else (upToQuote? quote escapes (escapes && !escaped && c = '\\') cs).map
      fun (inside, rest) => (c :: inside, rest)

/-- The characters before three closing quotes, and what comes after them. Up to two more quotes
directly before them belong to the text; `quotes` have been passed over so far. -/
def upToQuotes? (quote : Char) (escapes escaped : Bool) (quotes : Nat) :
    List Char → Option (List Char × List Char)
  | [] => if 3 ≤ quotes ∧ quotes ≤ 5 then some (List.replicate (quotes - 3) quote, []) else none
  | c :: cs =>
    if !escaped && c = quote then upToQuotes? quote escapes false (quotes + 1) cs
    else if 3 ≤ quotes then
      if quotes ≤ 5 then some (List.replicate (quotes - 3) quote, c :: cs) else none
    else (upToQuotes? quote escapes (escapes && !escaped && c = '\\') 0 cs).map
      fun (inside, rest) => (List.replicate quotes quote ++ c :: inside, rest)

/-- The characters without a line feed at the start. -/
def dropBreak : List Char → List Char
  | '\n' :: cs => cs
  | cs => cs

/-- Reads a text of one line after its opening quote. -/
def readLine? (quote : Char) (cs : List Char) : Option (List Char × List Char) := do
  let (inside, rest) ← upToQuote? quote (quote = '"') false cs
  guard (inside.all isPlain)
  if quote = '"' then (unescape? false inside).map fun text => (text, rest)
  else some (inside, rest)

/-- Reads a text of several lines after its opening quotes. -/
def readLines? (quote : Char) (cs : List Char) : Option (List Char × List Char) := do
  let (inside, rest) ← upToQuotes? quote (quote = '"') false 0 (dropBreak cs)
  guard (inside.all fun c => isPlain c || c = '\n')
  if quote = '"' then (unescape? false inside).map fun text => (text, rest)
  else some (inside, rest)

/-- Reads a text that starts with a quote. -/
def readQuoted? : List Char → Option (List Char × List Char)
  | '"' :: '"' :: '"' :: cs => readLines? '"' cs
  | '\'' :: '\'' :: '\'' :: cs => readLines? '\'' cs
  | '"' :: cs => readLine? '"' cs
  | '\'' :: cs => readLine? '\'' cs
  | _ => none

end Stencil.Toml
