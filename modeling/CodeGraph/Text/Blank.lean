/-!
# Blank characters

The white space of Unicode, and cutting it off the two ends of a text.  A trimmed
text neither starts nor ends with a blank, and trimming it again changes nothing.
-/

namespace CodeGraph.Text

/-- The characters with the Unicode property `White_Space`. -/
def isBlank (char : Char) : Bool :=
  let code := char.toNat
  (9 ≤ code && code ≤ 13) || code == 0x20 || code == 0x85 || code == 0xA0 ||
  code == 0x1680 || (0x2000 ≤ code && code ≤ 0x200A) || code == 0x2028 ||
  code == 0x2029 || code == 0x202F || code == 0x205F || code == 0x3000

/-- The characters without the run at the end for which `drop` holds. -/
def dropEndWhile (drop : Char → Bool) (chars : List Char) : List Char :=
  (chars.reverse.dropWhile drop).reverse

/-- The characters without the blanks at their two ends. -/
def trimChars (chars : List Char) : List Char :=
  dropEndWhile isBlank (chars.dropWhile isBlank)

/-- The text without the blanks at its two ends. -/
def trim (text : String) : String :=
  String.ofList (trimChars text.toList)

/-- The pieces of `chars` between the characters for which `isSeparator` holds. -/
def splitChars (isSeparator : Char → Bool) : List Char → List (List Char)
  | [] => [[]]
  | char :: rest =>
      if isSeparator char then [] :: splitChars isSeparator rest
      else
        match splitChars isSeparator rest with
        | [] => [[char]]
        | piece :: pieces => (char :: piece) :: pieces

/-- The words of a text: its longest runs without a blank. -/
def words (chars : List Char) : List (List Char) :=
  (splitChars isBlank chars).filter (! ·.isEmpty)

/-- The text before and after its first occurrence of `char`. -/
def cutAtFirst (char : Char) (chars : List Char) : Option (List Char × List Char) :=
  match chars.dropWhile (· != char) with
  | [] => none
  | _ :: rest => some (chars.takeWhile (· != char), rest)

/-- The text before and after its last occurrence of `char`. -/
def cutAtLast (char : Char) (chars : List Char) : Option (List Char × List Char) :=
  (cutAtFirst char chars.reverse).map fun (after, before) =>
    (before.reverse, after.reverse)

end CodeGraph.Text
