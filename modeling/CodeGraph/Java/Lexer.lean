import CodeGraph.Java.Token
import CodeGraph.Text.Identifier

/-!
# Lexing Java sources

A source is cut from left to right.  Texts in quotes are not single tokens, since
expressions may stand inside them: their quotes are tokens, and so are the brackets
of an expression, while the characters between are dropped.  Closing angle brackets
are always tokens by themselves, so that a shift and the end of nested type
arguments look alike.
-/

namespace CodeGraph.Java.Lexer

/-! ## Lengths of what stands at the front -/

/-- The white space between tokens. -/
def isSpace (char : Char) : Bool := char == ' ' || ('\t' ≤ char && char ≤ '\r')

/-- A letter, an underscore or a dollar sign; the table tells the letters that are not ASCII. -/
def isWordStart (char : Char) : Bool :=
  if char.toNat < 0x80 then char.isAlpha || char == '_' || char == '$'
  else Text.identifierStart.contains char

/-- What may start a word, or carries one on. -/
def isWordPart (char : Char) : Bool :=
  if char.toNat < 0x80 then char.isAlphanum || char == '_' || char == '$'
  else char == '\u00A2' || Text.identifierContinue.contains char

/-- A digit, or an underscore between digits. -/
def isDigitPart (char : Char) : Bool := char.isDigit || char == '_'

/-- A hexadecimal digit, or an underscore between digits. -/
def isHexPart (char : Char) : Bool :=
  isDigitPart char || ('a' ≤ char && char ≤ 'f') || ('A' ≤ char && char ≤ 'F')

/-- A letter after a number that tells its type. -/
def isTypeSuffix (char : Char) : Bool := "lLfFdD".toList.contains char

/-- The length of the run of characters for which `test` holds. -/
def run (test : Char → Bool) (chars : List Char) : Nat := (chars.takeWhile test).length

def exponent (letters : List Char) : List Char → Nat
  | letter :: '+' :: rest | letter :: '-' :: rest =>
      if letters.contains letter && (rest.head?.any Char.isDigit) then
        2 + run isDigitPart rest
      else 0
  | letter :: rest =>
      if letters.contains letter && (rest.head?.any Char.isDigit) then
        1 + run isDigitPart rest
      else 0
  | [] => 0

def typeSuffix (chars : List Char) : Nat := if chars.head?.any isTypeSuffix then 1 else 0

/-- The length of a point and the digits after it. -/
def fraction (digit : Char → Bool) : List Char → Nat
  | '.' :: rest => 1 + run digit rest
  | _ => 0

def number (chars : List Char) : Nat :=
  let (start, digit, letters) : Nat × (Char → Bool) × List Char :=
    match chars with
    | '0' :: 'x' :: _ | '0' :: 'X' :: _ => (2, isHexPart, ['p', 'P'])
    | '0' :: 'b' :: _ | '0' :: 'B' :: _ => (2, isDigitPart, [])
    | _ => (0, isDigitPart, ['e', 'E'])
  let whole := start + run digit (chars.drop start)
  let pointed := whole + fraction digit (chars.drop whole)
  let scaled := pointed + exponent letters (chars.drop pointed)
  scaled + typeSuffix (chars.drop scaled)

/-- The length of a character in quotes after its opening quote. -/
def character? : List Char → Option Nat
  | '\\' :: _ :: rest => (character? rest).map (2 + ·)
  | '\'' :: _ => some 1
  | '\n' :: _ => none
  | _ :: rest => (character? rest).map (1 + ·)
  | [] => none

/-- The length of a comment after its opening, up to an asterisk and a slash. -/
def blockComment? : List Char → Option Nat
  | '*' :: '/' :: _ => some 2
  | _ :: rest => (blockComment? rest).map (1 + ·)
  | [] => none

/-- The characters of a text up to its closing quote or an expression in it.  A
backslash takes the next character with it; a text block ends at three quotes. -/
def textRun (block : Bool) : List Char → Nat
  | '\\' :: '\x7b' :: _ => 0
  | '\\' :: _ :: rest => 2 + textRun block rest
  | '"' :: '"' :: '"' :: _ => 0
  | '"' :: rest => if block then 1 + textRun block rest else 0
  | _ :: rest => 1 + textRun block rest
  | [] => 0

/-- The signs of more than one character, the longest first. -/
def longSigns : List (List Char) :=
  ["...", "<<=", "->", "::", "++", "--", "&&", "||", "==", "!=", "<=", "<<", "+=", "-=",
    "*=", "/=", "&=", "|=", "^=", "%="].map String.toList

def isSign (char : Char) : Bool := "()[]\x7b\x7d<>;,.@=!~?:+-*/&|^%".toList.contains char

def sign? (chars : List Char) : Option Nat :=
  match longSigns.find? (·.isPrefixOf chars) with
  | some long => some long.length
  | none => if chars.head?.any isSign then some 1 else none

/-! ## Cutting -/

inductive PieceSort where
  /-- White space, and the characters of a text. -/
  | skipped
  | comment
  | token (sort : TokenSort)
deriving DecidableEq, Repr

/-- What is open: a brace, or a text with one quote or three. -/
inductive Frame where
  | brace
  | text (block : Bool)
deriving DecidableEq, Repr

/-- What stands at the front of a source: its sort, its length, and what is open
after it. -/
abbrev Front := PieceSort × Nat × List Frame

def textFront (block : Bool) (outer : List Frame) (chars : List Char) : Option Front :=
  match textRun block chars with
  | 0 =>
      match chars with
      | [] => none
      | '\\' :: _ => some (.token .sign, 2, .brace :: .text block :: outer)
      | _ => some (.token .sign, if block then 3 else 1, outer)
  | length => some (.skipped, length, .text block :: outer)

def codeFront (frames : List Frame) : List Char → Option Front
  | [] => none
  | '/' :: '/' :: rest => some (.comment, 2 + run (· != '\n') rest, frames)
  | '/' :: '*' :: rest => (blockComment? rest).map fun length => (.comment, 2 + length, frames)
  | '"' :: '"' :: '"' :: _ => some (.token .sign, 3, .text true :: frames)
  | '"' :: _ => some (.token .sign, 1, .text false :: frames)
  | '\'' :: rest => (character? rest).map fun length => (.token .literal, 1 + length, frames)
  | '\x7b' :: _ => some (.token .sign, 1, .brace :: frames)
  | '\x7d' :: _ => some (.token .sign, 1, frames.tail)
  | first :: rest =>
      let chars := first :: rest
      if isSpace first then some (.skipped, run isSpace chars, frames)
      else if isWordStart first then some (.token .word, run isWordPart chars, frames)
      else if first.isDigit || (first == '.' && rest.head?.any Char.isDigit) then
        some (.token .literal, number chars, frames)
      else (sign? chars).map fun length => (.token .sign, length, frames)

def front (frames : List Frame) (chars : List Char) : Option Front :=
  match frames with
  | .text block :: outer => textFront block outer chars
  | _ => codeFront frames chars

/-- A source that has been cut in part: what is cut off, the newest first, the place
reached, and what is open there. -/
structure Cutting where
  tokens : List Token
  comments : List Span
  place : Nat
  line : Nat
  frames : List Frame

def Cutting.cut (cutting : Cutting) (piece : PieceSort) (taken : List Char)
    (frames : List Frame) : Cutting :=
  let stop := cutting.place + taken.length
  let span : Span := ⟨cutting.place, stop, cutting.line⟩
  let moved :=
    { cutting with place := stop, line := cutting.line + taken.count '\n', frames }
  match piece with
  | .skipped => moved
  | .comment => { moved with comments := span :: cutting.comments }
  | .token sort =>
      { moved with tokens := ⟨sort, String.ofList taken, span⟩ :: cutting.tokens }

/-- Cuts off at most `fuel` pieces; the source must be used up and no text open. -/
def cutAll : Nat → Cutting → List Char → Option Cutting
  | _, cutting, [] => if cutting.frames.all (· == .brace) then some cutting else none
  | 0, _, _ => none
  | fuel + 1, cutting, chars =>
      match front cutting.frames chars with
      | none => none
      | some (piece, length, frames) =>
          cutAll fuel (cutting.cut piece (chars.take length) frames) (chars.drop length)

end Lexer

/-- The tokens and comments of a source, unless some character starts none.  A byte
order mark at the start is skipped. -/
def Tokens.ofChars? (chars : List Char) : Option Tokens :=
  let mark := if chars.head? == some '\uFEFF' then 1 else 0
  (Lexer.cutAll chars.length ⟨[], [], mark, 1, []⟩ (chars.drop mark)).map fun cutting =>
    ⟨cutting.tokens.reverse, cutting.comments.reverse⟩

end CodeGraph.Java
