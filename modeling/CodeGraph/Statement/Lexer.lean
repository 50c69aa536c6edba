import CodeGraph.Statement.Token

/-!
# Lexing statements

A text is cut from left to right into the longest tokens there are, and the blanks
between them are dropped.  Where no token fits, the fault shows the text from there
up to the first character that no token could go on with.
-/

namespace CodeGraph

/-- Why a text has no tokens. -/
inductive LexFault where
  /-- No token is at the start of `remaining`; `slice` is how far one could go. -/
  | unexpected (slice remaining : List Char)
  /-- An integer without a 64-bit value. -/
  | badNumber (digits : List Char)
deriving DecidableEq, Repr

namespace Lexer

/-- A letter or an underscore, of ASCII only. -/
def isWordStart (char : Char) : Bool := char.isAlpha || char == '_'

/-- A letter, a digit or an underscore, of ASCII only. -/
def isWordPart (char : Char) : Bool := char.isAlphanum || char == '_'

/-- The blanks between tokens. -/
def isSpace (char : Char) : Bool :=
  char == ' ' || char == '\t' || char == '\r' || char == '\n' || char == '\x0c'

def isMark (char : Char) : Bool := "()[]\x7b\x7d:,.=;".toList.contains char

inductive Literal where
  /-- The quote is closed after `body`. -/
  | closed (body rest : List Char)
  /-- The literal cannot go on after `body`. -/
  | broken (body : List Char)
deriving DecidableEq, Repr

namespace Literal

def prepend (chars : List Char) : Literal → Literal
  | closed body rest => closed (chars ++ body) rest
  | broken body => broken (chars ++ body)

/-- The extent of a literal after its opening quote: a backslash takes the next
character with it, which may not be the end of a line. -/
def scan (quote : Char) : List Char → Literal
  | [] => broken []
  | '\\' :: char :: rest =>
      if char = '\n' then broken ['\\'] else (scan quote rest).prepend ['\\', char]
  | char :: rest =>
      if char = quote then closed [] rest
      else if char = '\\' then broken ['\\']
      else (scan quote rest).prepend [char]

end Literal

def unescape : List Char → List Char
  | '\\' :: 'n' :: rest => '\n' :: unescape rest
  | '\\' :: 't' :: rest => '\t' :: unescape rest
  | '\\' :: char :: rest => char :: unescape rest
  | ['\\'] => []
  | char :: rest => char :: unescape rest
  | [] => []

inductive Step where
  /-- A token, and what follows it. -/
  | token (token : Token) (rest : List Char)
  /-- A run of blanks, and what follows it. -/
  | space (rest : List Char)
  | fault (fault : LexFault)

/-- A number: digits with an optional sign, and a fraction if a digit follows the
point. -/
def number (negative : Bool) (chars : List Char) : Step :=
  let whole := chars.takeWhile Char.isDigit
  let rest := chars.dropWhile Char.isDigit
  let integer : Step :=
    let size : Int := Text.natOfDigits 10 whole
    let value := if negative then -size else size
    if PropertyValue.fitsInt64 value then .token (.int (Int64.ofInt value)) rest
    else .fault (.badNumber (if negative then '-' :: whole else whole))
  match rest with
  | '.' :: digit :: more =>
      if digit.isDigit then
        let fraction := (digit :: more).takeWhile Char.isDigit
        let value := Binary64.ofDecimal negative (Text.natOfDigits 10 (whole ++ fraction))
          (-fraction.length)
        .token (.float value) ((digit :: more).dropWhile Char.isDigit)
      else integer
  | _ => integer

/-- A string literal that starts with `quote`. -/
def literal (quote : Char) (rest : List Char) : Step :=
  match Literal.scan quote rest with
  | .closed body after => .token (.text (String.ofList (unescape body))) after
  | .broken body => .fault (.unexpected (quote :: body) (quote :: rest))

/-- A word between back quotes. -/
def quotedWord (rest : List Char) : Step :=
  let body := rest.takeWhile (· != '\x60')
  match rest.dropWhile (· != '\x60') with
  | _ :: after => .token (.word (String.ofList body)) after
  | [] => .fault (.unexpected ('\x60' :: rest) ('\x60' :: rest))

/-- A parameter: a dollar sign and its name. -/
def parameter (rest : List Char) : Step :=
  match rest.takeWhile isWordPart with
  | [] => .fault (.unexpected ['$'] ('$' :: rest))
  | name => .token (.parameter (String.ofList name)) (rest.dropWhile isWordPart)

/-- What starts with a dash: an arrow, a negative number or the dash itself. -/
def dash : List Char → Step
  | '>' :: rest => .token .arrow rest
  | char :: rest =>
      if char.isDigit then number true (char :: rest)
      else .token (.mark '-') (char :: rest)
  | [] => .token (.mark '-') []

/-- What a text with the given first character starts with. -/
def step (char : Char) (rest : List Char) : Step :=
  if isSpace char then .space (rest.dropWhile isSpace)
  else if isMark char then .token (.mark char) rest
  else if isWordStart char then
    .token (.word (String.ofList (char :: rest.takeWhile isWordPart)))
      (rest.dropWhile isWordPart)
  else if char.isDigit then number false (char :: rest)
  else if char = '-' then dash rest
  else if char = '"' || char = '\'' then literal char rest
  else if char = '\x60' then quotedWord rest
  else if char = '$' then parameter rest
  else
    match char, rest with
    | '+', '=' :: after => .token .plusEquals after
    | _, _ => .fault (.unexpected [char] (char :: rest))

/-- The tokens of a text, in at most `fuel` steps. -/
def tokensWithin : Nat → List Char → Except LexFault (List Token)
  | _, [] => .ok []
  | 0, _ :: _ => .ok []
  | fuel + 1, char :: rest =>
      match step char rest with
      | .space after => tokensWithin fuel after
      | .token token after => (tokensWithin fuel after).map (token :: ·)
      | .fault fault => .error fault

end Lexer

/-- The tokens of a text.  Every step reads at least one character. -/
def Token.ofChars (chars : List Char) : Except LexFault (List Token) :=
  Lexer.tokensWithin chars.length chars

def utf8Size (chars : List Char) : Nat :=
  chars.foldl (fun size char => size + char.utf8Size) 0

/-- What is said about a text without tokens. -/
def LexFault.message (text : List Char) : LexFault → String
  | unexpected slice remaining =>
      "unexpected input " ++ Text.quoted (String.ofList slice) ++ " at offset " ++
        toString (utf8Size text - utf8Size remaining)
  | badNumber digits => "bad number " ++ String.ofList digits

end CodeGraph
