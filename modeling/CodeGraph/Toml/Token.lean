import CodeGraph.Text.Blank
import CodeGraph.Text.Digits

/-!
# Tokens of TOML

A text is cut from left to right into words, quoted texts, marks, runs of blanks and
ends of lines.  A comment goes to the end of its line and leaves no token: wherever one
may stand, the end of the line may stand too.
-/

namespace CodeGraph.Toml

/-- A token of TOML; a quoted text is decoded. -/
inductive Token where
  | newline
  /-- A run of spaces and tabs; is it a single space? -/
  | blank (single : Bool)
  | mark (char : Char)
  /-- A run of letters, digits, dashes and underscores. -/
  | word (chars : List Char)
  | text (value : String) (multiline : Bool)
deriving DecidableEq, Repr, Inhabited

namespace Lexer

def isMark (char : Char) : Bool := "=.,:+[]\x7b\x7d".toList.contains char

/-- A character of a word, of ASCII only. -/
def isWordPart (char : Char) : Bool := char.isAlphanum || char == '-' || char == '_'

def isSpace (char : Char) : Bool := char == ' ' || char == '\t'

/-- A character that a comment may hold: no control but the tab. -/
def isCommentChar (char : Char) : Bool := char == '\t' || ' ' ≤ char

def isTextChar (char : Char) : Bool := isCommentChar char && char != '\x7f'

/-! ## Quoted texts -/

structure Quoting where
  quote : Char
  /-- Does the text stand between three quotes on each side? -/
  multiline : Bool

inductive Place where
  | inside
  /-- A backslash and a blank have been read, so the line must end. -/
  | lineEnd
  /-- After an escaped end of a line; blanks there do not count. -/
  | indent
deriving DecidableEq, Repr

def charOfHex? (digits : List Char) : Option Char :=
  (Text.hexNumber? digits).bind Text.charOfCode?

/-- The character that a letter after a backslash stands for. -/
def escaped? : Char → Option Char
  | '"' => some '"'
  | '\\' => some '\\'
  | 'b' => some '\x08'
  | 'f' => some '\x0c'
  | 'n' => some '\n'
  | 'r' => some '\r'
  | 't' => some '\t'
  | _ => none

/-- After a quote: if it closes the text, the quotes that still belong to the text and
what follows.  Of five quotes in a row the first two belong to the text. -/
def Quoting.closing? (quoting : Quoting) (rest : List Char) :
    Option (List Char × List Char) :=
  let quotes := (rest.takeWhile (· == quoting.quote)).length
  if !quoting.multiline then some ([], rest)
  else if quotes < 2 then none
  else
    let inside := min 2 (quotes - 2)
    some (List.replicate inside quoting.quote, rest.drop (2 + inside))

def ahead (char : Char) (read : Option (List Char × List Char)) :
    Option (List Char × List Char) :=
  read.map fun (body, rest) => (char :: body, rest)

/-- The rest of a quoted text, and what follows its closing quote. -/
def body (quoting : Quoting) : Place → List Char → Option (List Char × List Char)
  | _, [] => none
  | place, char :: rest =>
      if place ≠ .inside ∧ isSpace char then body quoting place rest
      else if place ≠ .inside ∧ char = '\n' then body quoting .indent rest
      else if place = .lineEnd then none
      else if char = quoting.quote then
        match quoting.closing? rest with
        | some closed => some closed
        | none => ahead char (body quoting .inside rest)
      else if char = '\\' ∧ quoting.quote = '"' then
        match rest with
        | 'u' :: a :: b :: c :: d :: more =>
            match charOfHex? [a, b, c, d] with
            | some meant => ahead meant (body quoting .inside more)
            | none => none
        | 'U' :: a :: b :: c :: d :: e :: f :: g :: h :: more =>
            match charOfHex? [a, b, c, d, e, f, g, h] with
            | some meant => ahead meant (body quoting .inside more)
            | none => none
        | letter :: more =>
            if quoting.multiline ∧ isSpace letter then body quoting .lineEnd more
            else if quoting.multiline ∧ letter = '\n' then body quoting .indent more
            else
              match escaped? letter with
              | some meant => ahead meant (body quoting .inside more)
              | none => none
        | [] => none
      else if isTextChar char ∨ (quoting.multiline ∧ char = '\n') then
        ahead char (body quoting .inside rest)
      else none

/-- A quoted text after its first quote.  The end of a line right after three quotes
does not count. -/
def text? (quote : Char) (rest : List Char) : Option (Token × List Char) :=
  let (multiline, start) : Bool × List Char :=
    match rest with
    | second :: third :: more =>
        if second = quote ∧ third = quote then
          (true, if more.head? = some '\n' then more.tail else more)
        else (false, rest)
    | _ => (false, rest)
  (body ⟨quote, multiline⟩ .inside start).map fun (chars, after) =>
    (.text (String.ofList chars) multiline, after)

/-! ## Tokens -/

/-- The tokens that a text with the given first character starts with, at most one, and
what follows. -/
def step? (char : Char) (rest : List Char) : Option (List Token × List Char) :=
  if char = '\n' then some ([.newline], rest)
  else if isSpace char then
    let more := rest.takeWhile isSpace
    some ([.blank (char = ' ' && more.isEmpty)], rest.dropWhile isSpace)
  else if char = '#' then some ([], rest.dropWhile isCommentChar)
  else if isMark char then some ([.mark char], rest)
  else if isWordPart char then
    some ([.word (char :: rest.takeWhile isWordPart)], rest.dropWhile isWordPart)
  else if char = '"' ∨ char = '\'' then
    (text? char rest).map fun (token, after) => ([token], after)
  else none

/-- The tokens of a text, in at most `fuel` steps. -/
def tokensWithin : Nat → List Char → Option (List Token)
  | _, [] => some []
  | 0, _ :: _ => none
  | fuel + 1, char :: rest =>
      match step? char rest with
      | some (tokens, after) => (tokensWithin fuel after).map (tokens ++ ·)
      | none => none

/-- The text with the ends of all lines written in the same way. -/
def unifyLineEnds : List Char → List Char
  | '\r' :: '\n' :: rest => '\n' :: unifyLineEnds rest
  | char :: rest => char :: unifyLineEnds rest
  | [] => []

/-- The characters without a mark of the byte order in front. -/
def withoutByteOrderMark : List Char → List Char
  | '\uFEFF' :: rest => rest
  | chars => chars

end Lexer

/-- The tokens of a text, if it can be cut.  Every step reads at least one character. -/
def Token.ofText? (text : String) : Option (List Token) :=
  let chars := Lexer.unifyLineEnds (Lexer.withoutByteOrderMark text.toList)
  Lexer.tokensWithin chars.length chars

end CodeGraph.Toml
