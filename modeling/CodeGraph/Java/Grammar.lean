import CodeGraph.Java.Lexer
import CodeGraph.Java.Phrase

/-!
# The grammar of Java sources

Statements and methods may stand anywhere at the top of a source.  The grammar takes
in more than well-formed sources: it tells constructs apart, and does not check how
operators bind, since a chain of operators means the same here in any nesting.
-/

namespace CodeGraph.Java

inductive Rule where
  | expression
  /-- An expression in front of an arrow, which takes no part of it. -/
  | labelExpression
  | operand
  | labelOperand
  | primary
  | arguments
  | lambda
  | creation
  | text
  | simpleType
  | unannotatedType
  | type
  | typeArguments
  | typeParameters
  | annotationMark
  | elementValue
  | arrayInitializer
  | declarator
  | parameters
  | statement
  | block
  | switch
  | recordPattern
  | localVariable
  | field
  | method
  | declaration
  | classLike
  | classBody
deriving DecidableEq, Repr

namespace Rule

open Phrase

private abbrev RulePhrase := Phrase Rule

private instance : Coe Rule RulePhrase := ⟨Phrase.rule⟩

/-! ## Names and types -/

private def simpleName : RulePhrase := .identifier .identifier

private def nameRole : RulePhrase := .inRole .name simpleName

private def qualifiedName : RulePhrase :=
  extended simpleName [(.qualifiedName, none, all [".", simpleName])]

private def annotated : RulePhrase := many annotationMark

/-- The words in front of a declaration, and its annotations. -/
private def modifiers : RulePhrase :=
  many (any
    [annotationMark, "public", "protected", "private", "abstract", "static", "final",
      "strictfp", "default", "synchronized", "native", "transient", "volatile", "sealed",
      all ["non", "-", "sealed"]])

private def emptyBrackets : RulePhrase := all [annotated, "[", "]"]

private def basicType : RulePhrase :=
  .node .other (any
    ["void", "byte", "short", "int", "long", "char", "float", "double", "boolean"])

private def simpleTypePhrase : RulePhrase :=
  any
    [basicType,
      extended (.identifier .typeName)
        [(.genericType, none, typeArguments),
          (.qualifiedTypeName, none, all [".", annotated, .identifier .typeName])]]

private def wildcard : RulePhrase :=
  .node .other (all
    [annotated, "?", optional (all [any ["extends", "super"], type])])

private def typeArgumentsPhrase : RulePhrase :=
  .node .other (all ["<", optionalList (any [wildcard, type]), ">"])

private def typeParametersPhrase : RulePhrase :=
  let bound : RulePhrase := all ["extends", separatedBy "&" type]
  .node .other (all
    ["<", listOf (all [annotated, .identifier .typeName, optional bound]), ">"])

private def typePhrase : RulePhrase :=
  any [.node .other (all [annotationMark, annotated, unannotatedType]), unannotatedType]

private def typeRole : RulePhrase := .inRole .type unannotatedType

private def typeListPhrase : RulePhrase := .node .typeList (listOf type)

/-! ## Annotations -/

private def elementValuePhrase : RulePhrase :=
  any
    [annotationMark,
      .node .other (braced (all [optionalList elementValue, optional ","])),
      expression]

private def annotationPhrase : RulePhrase :=
  let pair : RulePhrase := .node .other (all [simpleName, "=", elementValue])
  let values : RulePhrase := any [listOf pair, elementValue]
  .node .other (all
    ["@", qualifiedName, optional (.node .other (all ["(", optional values, ")"]))])

/-! ## Variables and parameters -/

private def variableName : RulePhrase := all [nameRole, many emptyBrackets]

private def initializer : RulePhrase := any [arrayInitializer, expression]

private def declaratorPhrase : RulePhrase :=
  .node .variableDeclarator (all [variableName, optional (all ["=", initializer])])

private def arrayInitializerPhrase : RulePhrase :=
  .node .other (braced (all [optionalList initializer, optional ","]))

private def variableList (construct : Construct) : RulePhrase :=
  .node construct (all [modifiers, typeRole, listOf declarator, ";"])

private def parameter : RulePhrase :=
  .node .parameter (all [modifiers, typeRole, variableName])

private def restParameter : RulePhrase :=
  .node .other (all [modifiers, unannotatedType, "...", annotated, declarator])

/-- The object itself as a parameter. -/
private def receiver : RulePhrase :=
  .node .other (all
    [annotated, unannotatedType, many (all [simpleName, "."]), .node .this "this"])

private def parametersPhrase : RulePhrase :=
  let other : RulePhrase := any [parameter, restParameter]
  .node .parameters (all
    ["(", any [all [receiver, many (all [",", other])], optionalList other], ")"])

/-! ## Expressions -/

private def parenthesized : RulePhrase :=
  .node .parenthesized (all ["(", expression, ")"])

private def argumentsPhrase : RulePhrase :=
  .node .other (all ["(", optionalList expression, ")"])

/-- A text, and the expressions in it. -/
private def textPhrase : RulePhrase :=
  let inner : RulePhrase := many (.node .other (all ["\\\x7b", expression, "\x7d"]))
  .node .text (any [all ["\"", inner, "\""], all ["\"\"\"", inner, "\"\"\""]])

private def lambdaPhrase : RulePhrase :=
  let names : RulePhrase := .node .other (all ["(", listOf simpleName, ")"])
  .node .lambda (all
    [any [simpleName, parameters, names], "->", any [block, expression]])

/-- The creation of an instance, without the object that it belongs to. -/
private def creationPhrase : RulePhrase :=
  all
    ["new", annotated, optional (all [typeArguments, annotated]),
      .inRole .type simpleType, arguments, optional classBody]

private def arrayCreation : RulePhrase :=
  let length : RulePhrase := all [annotated, "[", expression, "]"]
  .node .other (all
    ["new", annotated, simpleType,
      any
        [all [emptyBrackets, many emptyBrackets, arrayInitializer],
          all [length, many length, many emptyBrackets]]])

private def referredMethod : RulePhrase :=
  all ["::", optional typeArguments, any ["new", simpleName]]

/-- A call without an object. -/
private def bareCall : RulePhrase := .node .methodInvocation (all [nameRole, arguments])

private def superNode : RulePhrase := .node .super "super"

private def thisNode : RulePhrase := .node .this "this"

private def primaryStart : RulePhrase :=
  any
    [literal, text, thisNode, superNode, parenthesized,
      .node .other (any ["true", "false", "null"]),
      .node .instanceCreation creation, arrayCreation,
      .node .other (all [type, any [all [".", "class"], referredMethod]]),
      bareCall, simpleName]

private def primaryPhrase : RulePhrase :=
  let call : RulePhrase := all [optional typeArguments, nameRole, arguments]
  extended primaryStart
    [(.instanceCreation, none, all [".", creation]),
      (.methodInvocation, some .object, all [".", call]),
      (.methodInvocation, some .object, all [".", superNode, ".", call]),
      (.fieldAccess, some .object, all [".", superNode, ".", .inRole .member simpleName]),
      (.fieldAccess, some .object, all [".", .inRole .member (any [simpleName, thisNode])]),
      (.other, none, all ["[", expression, "]"]),
      (.other, none, referredMethod),
      (.other, none, all [".", text])]

/-- An operand, with casts and signs in front of `inner`. -/
private def operandWith (inner : RulePhrase) (more : List RulePhrase) : RulePhrase :=
  let common : List RulePhrase :=
    [.node .other (all ["(", separatedBy "&" type, ")", inner]),
      switch,
      .node .other (all [any ["+", "-", "!", "~", "++", "--"], inner]),
      extended primary [(.other, none, "++"), (.other, none, "--")]]
  any (more ++ common)

private def binaryOperator : RulePhrase :=
  any
    ["==", "!=", "<=", "&&", "||", "<<=", "<<", "+=", "-=", "*=", "/=", "&=", "|=", "^=",
      "%=", "=", "<", "+", "-", "*", "/", "&", "|", "^", "%",
      all [">", many ">", optional "="]]

private def chainOf (operand : RulePhrase) : RulePhrase :=
  let tested : RulePhrase :=
    any [recordPattern, all [type, optional simpleName]]
  extended operand
    [(.other, none, all ["instanceof", optional "final", tested]),
      (.other, none, all [binaryOperator, operand]),
      (.other, none, all ["?", expression, ":", operand])]

/-! ## Statements -/

private def statementOf (parts : List RulePhrase) : RulePhrase := .node .other (all parts)

private def recordPatternPhrase : RulePhrase :=
  let component : RulePhrase :=
    any [recordPattern, .node .other (any [all [unannotatedType, simpleName], simpleName])]
  .node .other (all
    [simpleType, .node .other (all ["(", optionalList component, ")"])])

private def label : RulePhrase :=
  let guard : RulePhrase := .node .other (all ["when", labelExpression])
  let constants : RulePhrase := listOf (any ["default", labelExpression])
  let typePattern : RulePhrase := .node .other (all [unannotatedType, simpleName])
  .node .other (any
    [all
        ["case",
          any
            [all [recordPattern, optional guard], all [constants, guard],
              all [typePattern, optional guard], constants]],
      "default"])

private def throwStatement : RulePhrase := statementOf ["throw", expression, ";"]

private def expressionStatement : RulePhrase := statementOf [expression, ";"]

private def switchPhrase : RulePhrase :=
  let arm : RulePhrase :=
    .node .other (all [label, "->", any [block, throwStatement, expressionStatement]])
  let labels : RulePhrase := all [label, ":", many (all [label, ":"])]
  let group : RulePhrase := .node .other (all [labels, many statement])
  .node .other (all
    ["switch", parenthesized,
      .node .other (braced (any [all [arm, many arm], many group]))])

private def resource : RulePhrase :=
  .node .other (any
    [all [modifiers, unannotatedType, variableName, "=", expression], primary])

private def tryStatement : RulePhrase :=
  let resources : RulePhrase :=
    .node .other (all ["(", separatedBy ";" resource, optional ";", ")"])
  let caught : RulePhrase :=
    .node .other (all [modifiers, separatedBy "|" unannotatedType, variableName])
  let handler : RulePhrase := .node .other (all ["catch", "(", caught, ")", block])
  statementOf
    ["try", optional resources, block, many handler,
      optional (.node .other (all ["finally", block]))]

private def forEach : RulePhrase :=
  .node .forEach (all
    ["for", "(", modifiers, typeRole, variableName, ":", expression, ")", statement])

private def forStatement : RulePhrase :=
  statementOf
    ["for", "(", any [localVariable, all [optionalList expression, ";"]],
      optional expression, ";", optionalList expression, ")", statement]

private def statementPhrase : RulePhrase :=
  any
    [block,
      ";",
      statementOf ["if", parenthesized, statement, optional (all ["else", statement])],
      statementOf ["while", parenthesized, statement],
      statementOf ["do", statement, "while", parenthesized, ";"],
      forEach,
      forStatement,
      tryStatement,
      switch,
      statementOf ["return", optional expression, ";"],
      throwStatement,
      statementOf ["break", optional simpleName, ";"],
      statementOf ["continue", optional simpleName, ";"],
      statementOf ["assert", expression, optional (all [":", expression]), ";"],
      statementOf ["synchronized", parenthesized, block],
      declaration,
      statementOf ["yield", expression, ";"],
      statementOf [simpleName, ":", statement],
      localVariable,
      expressionStatement]

/-! ## Declarations -/

private def throwsPhrase : RulePhrase := .node .other (all ["throws", listOf type])

private def methodPhrase : RulePhrase :=
  .node .methodDeclaration (all
    [modifiers, optional (all [typeParameters, annotated]), typeRole, nameRole,
      .inRole .parameters parameters, many emptyBrackets, optional throwsPhrase,
      any [.inRole .body block, ";"]])

private def constructorInvocation : RulePhrase :=
  let ownConstructor : RulePhrase := .inRole .constructor (any [thisNode, superNode])
  let outerConstructor : RulePhrase := .inRole .constructor superNode
  .node .constructorInvocation (all
    [any
        [all [optional typeArguments, ownConstructor, arguments],
          all
            [.inRole .object primary, ".", optional typeArguments, outerConstructor,
              arguments]],
      ";"])

private def constructorPhrase : RulePhrase :=
  let body : RulePhrase :=
    .node .block (braced (all [optional constructorInvocation, many statement]))
  .node .constructorDeclaration (all
    [modifiers, optional typeParameters, nameRole, .inRole .parameters parameters,
      optional throwsPhrase, .inRole .body body])

private def compactConstructor : RulePhrase :=
  .node .compactConstructor (all [modifiers, nameRole, .inRole .body block])

private def staticInitializer : RulePhrase :=
  .node .staticInitializer (all ["static", block])

private def implementsPhrase : RulePhrase :=
  .node .superInterfaces (all ["implements", typeListPhrase])

private def extendsInterfaces : RulePhrase :=
  .node .superInterfaces (all ["extends", typeListPhrase])

private def permits : RulePhrase := .node .other (all ["permits", typeListPhrase])

private def classPhrase : RulePhrase :=
  .node .classDeclaration (all
    [modifiers, "class", nameRole, optional typeParameters,
      optional (.node .superclass (all ["extends", type])), optional implementsPhrase,
      optional permits, .inRole .body classBody])

private def classMember : RulePhrase :=
  any
    [";", staticInitializer, block, classLike, method, constructorPhrase,
      compactConstructor, field]

private def interfacePhrase : RulePhrase :=
  let member : RulePhrase := any [";", classLike, method, field]
  .node .interfaceDeclaration (all
    [modifiers, "interface", nameRole, optional typeParameters,
      optional extendsInterfaces, optional permits,
      .inRole .body (.node .classBody (braced (many member)))])

private def recordPhrase : RulePhrase :=
  .node .recordDeclaration (all
    [modifiers, "record", nameRole, optional typeParameters,
      .inRole .parameters parameters, optional implementsPhrase,
      .inRole .body classBody])

private def enumPhrase : RulePhrase :=
  let constant : RulePhrase :=
    .node .other (all
      [modifiers, nameRole, optional arguments, optional (.inRole .body classBody)])
  let members : RulePhrase := .node .enumMembers (all [";", many classMember])
  .node .enumDeclaration (all
    [modifiers, "enum", nameRole, optional implementsPhrase,
      .inRole .body (.node .other
        (braced (all [optionalList constant, optional ",", optional members])))])

private def annotationTypePhrase : RulePhrase :=
  let element : RulePhrase :=
    .node .other (all
      [modifiers, typeRole, nameRole, "(", ")", many emptyBrackets,
        optional (all ["default", elementValue]), ";"])
  .node .annotationTypeDeclaration (all
    [modifiers, "@", "interface", nameRole,
      .inRole .body (.node .classBody
        (braced (many (any [";", classLike, element, field]))))])

private def packagePhrase : RulePhrase :=
  .node .packageDeclaration (all [annotated, "package", qualifiedName, ";"])

private def importPhrase : RulePhrase :=
  .node .importDeclaration (all
    ["import", optional "static", qualifiedName, optional (all [".", "*"]), ";"])

private def modulePhrase : RulePhrase :=
  let names : RulePhrase := listOf qualifiedName
  let directive : RulePhrase :=
    .node .other (any
      [all ["requires", many (any ["transitive", "static"]), qualifiedName, ";"],
        all [any ["exports", "opens"], qualifiedName, optional (all ["to", names]), ";"],
        all ["uses", qualifiedName, ";"],
        all ["provides", qualifiedName, "with", names, ";"]])
  .node .other (all
    [annotated, optional "open", "module", qualifiedName,
      .node .other (braced (many directive))])

/-- What each rule describes. -/
def phrase : Grammar Rule
  | expression => chainOf operand
  | labelExpression => chainOf labelOperand
  | operand => operandWith operand [lambda]
  | labelOperand => operandWith labelOperand []
  | primary => primaryPhrase
  | arguments => argumentsPhrase
  | lambda => lambdaPhrase
  | creation => creationPhrase
  | text => textPhrase
  | simpleType => simpleTypePhrase
  | unannotatedType => extended simpleType [(.other, none, emptyBrackets)]
  | type => typePhrase
  | typeArguments => typeArgumentsPhrase
  | typeParameters => typeParametersPhrase
  | annotationMark => annotationPhrase
  | elementValue => elementValuePhrase
  | arrayInitializer => arrayInitializerPhrase
  | declarator => declaratorPhrase
  | parameters => parametersPhrase
  | statement => statementPhrase
  | block => .node .block (braced (many statement))
  | switch => switchPhrase
  | recordPattern => recordPatternPhrase
  | localVariable => variableList .localVariableDeclaration
  | field => variableList .fieldDeclaration
  | method => methodPhrase
  | declaration => any [modulePhrase, packagePhrase, importPhrase, classLike]
  | classLike =>
      any [classPhrase, recordPhrase, interfacePhrase, annotationTypePhrase, enumPhrase]
  | classBody => .node .classBody (braced (many classMember))

def program : Phrase Rule := many (any [statement, method])

end Rule

/-- The tree of a source, unless it has tokens that the grammar does not take in. -/
def Tree.ofChars? (chars : List Char) : Option Tree := do
  let source ← Tokens.ofChars? chars
  -- between two tokens, fewer than 1000 choices and parts are nested
  let fuel := 1000 * (source.tokens.length + 1)
  let (children, finish) ← Grammar.read Rule.phrase fuel Rule.program ⟨source.tokens, 0⟩
  let span : Span := ⟨0, chars.length, 1⟩
  if finish.tokens.isEmpty then
    some { construct := .program, span, children := weave children source.comments }
  else none

end CodeGraph.Java
