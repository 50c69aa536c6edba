import CodeGraph.Text.Printable

/-!
# Quoted texts

A quoted text stands between double quotes.  The quote, the backslash, the four
controls with a letter of their own and every character without a visible form are
written as escapes.
-/

namespace CodeGraph.Text

/-- The digits of a number in lower-case hexadecimal, at least one. -/
def hexDigits (number : Nat) : List Char :=
  Nat.toDigits 16 number

/-- How a character is written between quotes. -/
def quotedChar (char : Char) : List Char :=
  if char = '\t' then ['\\', 't']
  else if char = '\r' then ['\\', 'r']
  else if char = '\n' then ['\\', 'n']
  else if char = '\x00' then ['\\', '0']
  else if char = '"' then ['\\', '"']
  else if char = '\\' then ['\\', '\\']
  else if isPrintable char then [char]
  else ['\\', 'u', '\x7b'] ++ hexDigits char.toNat ++ ['\x7d']

/-- The text between double quotes, with escapes. -/
def quoted (text : String) : String :=
  String.ofList ('"' :: text.toList.flatMap quotedChar ++ ['"'])

/-- How a single character is written between single quotes. -/
def quotedSingle (char : Char) : String :=
  let body :=
    if char = '\'' then ['\\', '\'']
    else if char = '"' then ['"']
    else quotedChar char
  String.ofList ('\'' :: body ++ ['\''])

end CodeGraph.Text
