import CodeGraph.Proofs.Statement.Parsing

/-!
# Derivations of statements

A derivation of a statement is a tree with a node for every rule of the grammar that is used,
and with the words and values of the statement at its leaves.  It yields the tokens that it
derives, and stands for the clauses of the statement.
-/

namespace CodeGraph

/-- A word that is read as a keyword, in whatever case it is written. -/
structure Keyword (word : String) where
  spelling : String
  same : Grammar.sameWord spelling word = true

def Keyword.token {word : String} (keyword : Keyword word) : Token := .word keyword.spelling

inductive ExpressionTree where
  | parameter (name : String)
  | text (value : String)
  | int (value : Int64)
  | float (value : Binary64)
  | yes (word : Keyword "true")
  | no (word : Keyword "false")
  | null (word : Keyword "null")

namespace ExpressionTree

def token : ExpressionTree → Token
  | parameter name => .parameter name
  | text value => .text value
  | int value => .int value
  | float value => .float value
  | yes word => word.token
  | no word => word.token
  | null word => word.token

def expression : ExpressionTree → Expression
  | parameter name => .parameter name
  | text value => .value (.text value)
  | int value => .value (.int value)
  | float value => .value (.float value)
  | yes _ => .value (.bool true)
  | no _ => .value (.bool false)
  | null _ => .value .null

end ExpressionTree

/-- Trees with commas between them. -/
def Listed.commas {Tree : Type} (yield : Tree → List Token) : Listed Tree → List Token :=
  Listed.yield yield fun tree => .mark ',' :: yield tree

structure PropertyTree where
  key : String
  value : ExpressionTree

namespace PropertyTree

def yield (tree : PropertyTree) : List Token := [.word tree.key, .mark ':', tree.value.token]

def entry (tree : PropertyTree) : String × Expression := (tree.key, tree.value.expression)

end PropertyTree

/-- Properties in curly brackets; the brackets may be empty. -/
structure PropertiesTree where
  entries : Option (Listed PropertyTree)

namespace PropertiesTree

def yield (tree : PropertiesTree) : List Token :=
  .mark '\x7b' :: tree.entries.elim [] (Listed.commas PropertyTree.yield) ++ [.mark '\x7d']

def pattern (tree : PropertiesTree) : PatternProperties :=
  tree.entries.elim [] (Listed.values PropertyTree.entry)

end PropertiesTree

structure NodeTree where
  name : Option String
  label : Option String
  properties : Option PropertiesTree

namespace NodeTree

def yield (tree : NodeTree) : List Token :=
  Token.mark '(' :: tree.name.elim [] (fun name => [Token.word name]) ++
    tree.label.elim [] (fun label => [Token.mark ':', Token.word label]) ++
    tree.properties.elim [] PropertiesTree.yield ++ [Token.mark ')']

def pattern (tree : NodeTree) : NodePattern where
  name := tree.name
  label := tree.label
  properties := tree.properties.elim [] PropertiesTree.pattern

end NodeTree

structure RelationTree where
  name : Option String
  type : String
  properties : Option PropertiesTree

namespace RelationTree

def yield (tree : RelationTree) : List Token :=
  Token.mark '[' :: tree.name.elim [] (fun name => [Token.word name]) ++
    [Token.mark ':', Token.word tree.type] ++
    tree.properties.elim [] PropertiesTree.yield ++ [Token.mark ']']

def pattern (tree : RelationTree) : RelationPattern where
  name := tree.name
  type := tree.type
  properties := tree.properties.elim [] PropertiesTree.pattern

end RelationTree

structure PathTree where
  relation : RelationTree
  target : NodeTree

namespace PathTree

def yield (tree : PathTree) : List Token :=
  .mark '-' :: tree.relation.yield ++ .arrow :: tree.target.yield

def pattern (tree : PathTree) : RelationPattern × NodePattern :=
  (tree.relation.pattern, tree.target.pattern)

end PathTree

structure GraphTree where
  source : NodeTree
  path : Option PathTree

namespace GraphTree

def yield (tree : GraphTree) : List Token :=
  tree.source.yield ++ tree.path.elim [] PathTree.yield

def pattern (tree : GraphTree) : GraphPattern :=
  match tree.path with
  | none => .node tree.source.pattern
  | some path => .path tree.source.pattern path.relation.pattern path.target.pattern

end GraphTree

inductive SetTree where
  | all (name : String) (map : ExpressionTree)
  | one (name key : String) (value : ExpressionTree)

namespace SetTree

def yield : SetTree → List Token
  | all name map => [.word name, .plusEquals, map.token]
  | one name key value => [.word name, .mark '.', .word key, .mark '=', value.token]

def clause : SetTree → Clause
  | all name map => .setAll name map.expression
  | one name key value => .setOne name key value.expression

end SetTree

inductive ClauseTree where
  | merge (word : Keyword "MERGE") (pattern : GraphTree)
  | create (word : Keyword "CREATE") (pattern : GraphTree)
  | select (word : Keyword "MATCH") (nodes : Listed NodeTree)
  | set (word : Keyword "SET") (items : Listed SetTree)
  | delete (detach : Option (Keyword "DETACH")) (word : Keyword "DELETE")
      (names : Listed String)

namespace ClauseTree

def yield : ClauseTree → List Token
  | merge word pattern => word.token :: pattern.yield
  | create word pattern => word.token :: pattern.yield
  | select word nodes => word.token :: nodes.commas NodeTree.yield
  | set word items => word.token :: items.commas SetTree.yield
  | delete detach word names =>
      detach.elim [] (fun detach => [detach.token]) ++
        word.token :: names.commas fun name => [.word name]

def clauses : ClauseTree → List Clause
  | merge _ pattern => [.merge pattern.pattern]
  | create _ pattern => [.create pattern.pattern]
  | select _ nodes => [.select (nodes.values NodeTree.pattern)]
  | set _ items => items.values SetTree.clause
  | delete detach _ names => [.delete (names.values id) detach.isSome]

end ClauseTree

/-- A clause and the semicolons after it. -/
structure EndedClauseTree where
  clause : ClauseTree
  semicolons : Nat

def EndedClauseTree.yield (tree : EndedClauseTree) : List Token :=
  tree.clause.yield ++ List.replicate tree.semicolons (.mark ';')

structure StatementTree where
  semicolons : Nat
  ended : Listed EndedClauseTree

namespace StatementTree

def yield (tree : StatementTree) : List Token :=
  List.replicate tree.semicolons (.mark ';') ++
    tree.ended.yield EndedClauseTree.yield EndedClauseTree.yield

def clauses (tree : StatementTree) : List Clause :=
  (tree.ended.values fun ended => ended.clause.clauses).flatten

end StatementTree

end CodeGraph
