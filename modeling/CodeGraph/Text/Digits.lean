/-!
# Digits

Numbers written in a system of at most sixteen digits, and characters written by their
code.
-/

namespace CodeGraph.Text

/-- The value of a digit, a letter standing for a digit above nine. -/
def digitValue? (char : Char) : Option Nat :=
  if char.isDigit then some (char.toNat - '0'.toNat)
  else if 'a' ≤ char && char ≤ 'f' then some (char.toNat - 'a'.toNat + 10)
  else if 'A' ≤ char && char ≤ 'F' then some (char.toNat - 'A'.toNat + 10)
  else none

/-- The number that digits denote; what is no digit counts as zero. -/
def natOfDigits (base : Nat) (digits : List Char) : Nat :=
  digits.foldl (fun value digit => base * value + (digitValue? digit).getD 0) 0

/-- The number that hexadecimal digits denote, if they all are digits. -/
def hexNumber? (digits : List Char) : Option Nat :=
  if digits.all fun digit => (digitValue? digit).isSome then some (natOfDigits 16 digits)
  else none

/-- The character with a code, if there is one. -/
def charOfCode? (code : Nat) : Option Char :=
  if code.isValidChar then some (Char.ofNat code) else none

end CodeGraph.Text
