import CodeGraph.PropertyValue

/-!
# Tokens of the statement language
-/

namespace CodeGraph

/-- A token of a statement, its value decoded. -/
inductive Token where
  | word (name : String)
  | parameter (name : String)
  | text (value : String)
  | int (value : Int64)
  | float (value : Binary64)
  | mark (char : Char)
  | arrow
  | plusEquals
deriving DecidableEq, Repr, Inhabited

namespace Token

def describe : Token → String
  | word name => "Ident(" ++ Text.quoted name ++ ")"
  | parameter name => "Param(" ++ Text.quoted name ++ ")"
  | text value => "Str(" ++ Text.quoted value ++ ")"
  | int value => "Int(" ++ toString value.toInt ++ ")"
  | float value => "Float(" ++ value.renderMarked ++ ")"
  | mark char => "Punct(" ++ Text.quotedSingle char ++ ")"
  | arrow => "Arrow"
  | plusEquals => "PlusEq"

end Token

end CodeGraph
