import Stencil.Text.Printable

/-!
# Quoted texts

Two ways to write a text between double quotes.

* `quote` escapes the quote, the backslash and the line feed only: the form that scripts and
  queries read back.
* `expose` shows every unprintable character by its code, for listings meant for people.
-/

namespace Stencil.Text

/-- One character of a quoted literal. -/
def quoteChar (c : Char) : List Char :=
  if c = '"' then ['\\', '"']
  else if c = '\\' then ['\\', '\\']
  else if c = '\n' then ['\\', 'n']
  else [c]

/-- A text as a double-quoted literal. -/
def quote (cs : List Char) : List Char := '"' :: cs.flatMap quoteChar ++ ['"']

/-- The digits of `n` in base sixteen, in lower case. -/
def hexDigits (n : Nat) : List Char := Nat.toDigits 16 n

/-- One character of an exposed text. -/
def exposeChar (c : Char) : List Char :=
  if c = '\x00' then ['\\', '0']
  else if c = '\t' then ['\\', 't']
  else if c = '\r' then ['\\', 'r']
  else if c = '\n' then ['\\', 'n']
  else if c = '"' then ['\\', '"']
  else if c = '\\' then ['\\', '\\']
  else if isPrintable c then [c]
  else ['\\', 'u', '\x7b'] ++ hexDigits c.toNat ++ ['\x7d']

/-- A text between double quotes with every unprintable character shown by its code. -/
def expose (cs : List Char) : List Char := '"' :: cs.flatMap exposeChar ++ ['"']

end Stencil.Text

namespace Stencil

/-- A string as a double-quoted literal. -/
def quoted (s : String) : String := String.ofList (Text.quote s.toList)

/-- A string between double quotes with every unprintable character shown by its code. -/
def exposed (s : String) : String := String.ofList (Text.expose s.toList)

end Stencil
