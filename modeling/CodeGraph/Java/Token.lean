/-!
# Tokens of Java sources

A source is cut into tokens and comments, and each knows where it stands.  The
characters of a source are counted from 0 and its lines from 1.
-/

namespace CodeGraph.Java

structure Span where
  /-- The number of its first character. -/
  start : Nat
  /-- The number of the character after it. -/
  stop : Nat
  line : Nat
deriving DecidableEq, Repr, Inhabited

inductive TokenSort where
  | word
  /-- A bracket, a separator, an operator, or a quote at either end of a text. -/
  | sign
  | literal
deriving DecidableEq, Repr

structure Token where
  sort : TokenSort
  text : String
  span : Span
deriving DecidableEq, Repr

/-- A source as tokens and, apart from them, comments. -/
structure Tokens where
  tokens : List Token
  comments : List Span
deriving DecidableEq, Repr

namespace Token

/-- The words that are no identifiers wherever they stand. -/
def reservedWords : List String :=
  ["abstract", "assert", "boolean", "break", "byte", "case", "catch", "char", "class",
    "continue", "default", "do", "double", "else", "enum", "extends", "false", "final",
    "finally", "float", "for", "if", "implements", "import", "instanceof", "int",
    "interface", "long", "native", "new", "null", "package", "private", "protected",
    "public", "return", "short", "static", "strictfp", "super", "switch",
    "synchronized", "this", "throw", "throws", "transient", "true", "try", "void",
    "volatile", "while"]

def isIdentifier (token : Token) : Bool :=
  token.sort == .word && !reservedWords.contains token.text

def shows (token : Token) (text : String) : Bool :=
  token.sort != .literal && token.text == text

end Token

end CodeGraph.Java
