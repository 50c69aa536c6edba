import CodeGraph.Java.Tree

/-!
# Phrases

A phrase describes a run of tokens and the trees that are made of it.  Choices are
ordered: the first choice that can be read is taken, and it is not given up for what
comes later.  Rules, which have names of a type `ρ`, let phrases contain themselves.
-/

namespace CodeGraph.Java

/-- A description of runs of tokens, with rules named by `ρ`. -/
inductive Phrase (ρ : Type) where
  /-- The word or the sign with the given text. -/
  | shows (text : String)
  /-- An identifier. -/
  | identifier (construct : Construct)
  /-- A number or a character. -/
  | literal
  /-- What a rule describes. -/
  | rule (name : ρ)
  /-- One phrase after another. -/
  | all (parts : List (Phrase ρ))
  /-- The first of several phrases that can be read. -/
  | any (choices : List (Phrase ρ))
  /-- A phrase or nothing. -/
  | optional (phrase : Phrase ρ)
  /-- A phrase as often as it can be read. -/
  | many (phrase : Phrase ρ)
  /-- A construct around the trees of a phrase. -/
  | node (construct : Construct) (phrase : Phrase ρ)
  /-- A phrase whose trees have a role. -/
  | inRole (role : Role) (phrase : Phrase ρ)
  /-- A phrase, and then as often as they can be read the extensions; each makes a
  construct around what came before it, in a role if one is given, and its own trees. -/
  | extended (start : Phrase ρ)
      (extensions : List (Construct × Option Role × Phrase ρ))

/-- A rule for each name. -/
abbrev Grammar (ρ : Type) := ρ → Phrase ρ

namespace Phrase

variable {ρ : Type}

instance : Coe String (Phrase ρ) := ⟨shows⟩

/-- Phrases with a separator between them. -/
def separatedBy (separator : String) (item : Phrase ρ) : Phrase ρ :=
  all [item, many (all [shows separator, item])]

/-- Phrases with commas between them. -/
def listOf (item : Phrase ρ) : Phrase ρ := separatedBy "," item

/-- No phrase, or phrases with commas between them. -/
def optionalList (item : Phrase ρ) : Phrase ρ := optional (listOf item)

/-- A phrase between braces. -/
def braced (phrase : Phrase ρ) : Phrase ρ := all ["\x7b", phrase, "\x7d"]

end Phrase

namespace Grammar

/-- The place that reading has reached: the tokens that follow, and where the last
token that was read ends. -/
structure Place where
  tokens : List Token
  reached : Nat

/-- The place after the first of the tokens. -/
def Place.after (token : Token) (rest : List Token) : Place := ⟨rest, token.span.stop⟩

/-- Trees, and the place after them. -/
abbrev Reading := Option (List Tree × Place)

/-- The span from the next token of a place to the last one that was read. -/
def spanBetween (start finish : Place) : Span :=
  match start.tokens with
  | first :: _ => ⟨first.span.start, max first.span.start finish.reached, first.span.line⟩
  | [] => ⟨finish.reached, finish.reached, 0⟩

/-- The span from the first of some trees to the last token that was read. -/
def spanFrom (trees : List Tree) (finish : Place) : Span :=
  match trees with
  | first :: _ => { first.span with stop := finish.reached }
  | [] => ⟨finish.reached, finish.reached, 0⟩

variable {ρ : Type}

mutual

/-- Reads a phrase with rules nested at most `fuel` deep. -/
def read (grammar : Grammar ρ) : Nat → Phrase ρ → Place → Reading
  | 0, _, _ => none
  | fuel + 1, phrase, place =>
      match phrase with
      | .shows text =>
          match place.tokens with
          | token :: rest => if token.shows text then some ([], .after token rest) else none
          | [] => none
      | .identifier construct =>
          match place.tokens with
          | token :: rest =>
              if token.isIdentifier then
                some ([{ construct, span := token.span }], .after token rest)
              else none
          | [] => none
      | .literal =>
          match place.tokens with
          | token :: rest =>
              if token.sort == .literal then
                some ([{ construct := .other, span := token.span }], .after token rest)
              else none
          | [] => none
      | .rule name => read grammar fuel (grammar name) place
      | .all parts => readAll grammar fuel parts place
      | .any choices => readAny grammar fuel choices place
      | .optional phrase => some ((read grammar fuel phrase place).getD ([], place))
      | .many phrase => some (readMany grammar fuel phrase place)
      | .node construct phrase =>
          match read grammar fuel phrase place with
          | some (children, finish) =>
              some ([{ construct, span := spanBetween place finish, children }], finish)
          | none => none
      | .inRole role phrase =>
          match read grammar fuel phrase place with
          | some (trees, finish) => some (trees.map (·.inRole role), finish)
          | none => none
      | .extended start extensions =>
          match read grammar fuel start place with
          | some (trees, finish) => some (extend grammar fuel extensions trees finish)
          | none => none

/-- Reads phrases one after another. -/
def readAll (grammar : Grammar ρ) : Nat → List (Phrase ρ) → Place → Reading
  | 0, _, _ => none
  | _ + 1, [], place => some ([], place)
  | fuel + 1, part :: parts, place =>
      match read grammar fuel part place with
      | none => none
      | some (trees, middle) =>
          match readAll grammar fuel parts middle with
          | none => none
          | some (more, finish) => some (trees ++ more, finish)

/-- Reads the first phrase that can be read. -/
def readAny (grammar : Grammar ρ) : Nat → List (Phrase ρ) → Place → Reading
  | 0, _, _ => none
  | _ + 1, [], _ => none
  | fuel + 1, choice :: choices, place =>
      match read grammar fuel choice place with
      | some reading => some reading
      | none => readAny grammar fuel choices place

def readMany (grammar : Grammar ρ) : Nat → Phrase ρ → Place → List Tree × Place
  | 0, _, place => ([], place)
  | fuel + 1, phrase, place =>
      match read grammar fuel phrase place with
      | none => ([], place)
      | some (trees, middle) =>
          if place.reached < middle.reached then
            let (more, finish) := readMany grammar fuel phrase middle
            (trees ++ more, finish)
          else ([], place)

def extend (grammar : Grammar ρ) : Nat → List (Construct × Option Role × Phrase ρ) →
    List Tree → Place → List Tree × Place
  | 0, _, trees, place => (trees, place)
  | fuel + 1, extensions, trees, place =>
      match readExtension grammar fuel extensions trees place with
      | none => (trees, place)
      | some (longer, finish) => extend grammar fuel extensions longer finish

/-- Reads the first extension that can be read. -/
def readExtension (grammar : Grammar ρ) : Nat → List (Construct × Option Role × Phrase ρ) →
    List Tree → Place → Reading
  | 0, _, _, _ => none
  | _ + 1, [], _, _ => none
  | fuel + 1, (construct, role, phrase) :: extensions, trees, place =>
      match read grammar fuel phrase place with
      | some (more, finish) =>
          let children := trees.map (·.inRole role) ++ more
          some ([{ construct, span := spanFrom trees finish, children }], finish)
      | none => readExtension grammar fuel extensions trees place

end

end Grammar

end CodeGraph.Java
