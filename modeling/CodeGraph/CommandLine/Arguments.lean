/-!
# Arguments

The arguments of a process are options, which start with a dash, and operands.  The
first operand names the command; the options of all commands may stand on both sides of
it.  An option may be given once on each side, and its value stands in the next argument
or, after `=` or right after a letter, in the same one.  After `--` there are only
operands.
-/

namespace CodeGraph.CommandLine

inductive Argument where
  | flag (name : String)
  | option (name value : String)
  | operand (value : String)
deriving DecidableEq, Repr

/-- The options that may be given: flags, and options with a value. -/
structure Grammar where
  flags : List String
  options : List String
  letters : List (Char × String)

namespace Grammar

/-- An option by name.  Only options with a value take one, and they must. -/
def named? (grammar : Grammar) (name : String) (attached : Option String)
    (rest : List String) : Option (Argument × List String) :=
  if grammar.flags.contains name then
    if attached.isNone then some (.flag name, rest) else none
  else if grammar.options.contains name then
    match attached, rest with
    | some value, _ => some (.option name value, rest)
    | none, value :: after =>
        if value.toList.head? == some '-' && value != "-" then none
        else some (.option name value, after)
    | none, [] => none
  else none

/-- The letters after a single dash: flags, and perhaps at the end an option with its
value. -/
def letters? (grammar : Grammar) :
    List Char → List String → Option (List Argument × List String)
  | [], rest => some ([], rest)
  | letter :: letters, rest =>
      match grammar.letters.lookup letter with
      | none => none
      | some name =>
          if grammar.flags.contains name then
            (letters? grammar letters rest).map fun (arguments, after) =>
              (.flag name :: arguments, after)
          else
            let attached : Option String :=
              match letters with
              | [] => none
              | '=' :: value => some (String.ofList value)
              | value => some (String.ofList value)
            (grammar.named? name attached rest).map fun (argument, after) =>
              ([argument], after)

/-- The arguments that the first one makes, and what follows. -/
def first? (grammar : Grammar) (argument : String) (rest : List String) :
    Option (List Argument × List String) :=
  match argument.toList with
  | '-' :: '-' :: name =>
      let attached : Option String :=
        match name.dropWhile (· != '=') with
        | [] => none
        | _ :: value => some (String.ofList value)
      (grammar.named? (String.ofList (name.takeWhile (· != '='))) attached rest).map
        fun (argument, after) => ([argument], after)
  | '-' :: letter :: letters => grammar.letters? (letter :: letters) rest
  | _ => some ([.operand argument], rest)

/-- All arguments, in at most `fuel` steps. -/
def allWithin (grammar : Grammar) : Nat → List String → Option (List Argument)
  | _, [] => some []
  | 0, _ => none
  | fuel + 1, argument :: rest =>
      if argument = "--" then some (rest.map .operand)
      else
        match grammar.first? argument rest with
        | some (read, after) => (allWithin grammar fuel after).map (read ++ ·)
        | none => none

/-- All arguments. -/
def all? (grammar : Grammar) (arguments : List String) : Option (List Argument) :=
  grammar.allWithin arguments.length arguments

/-- The arguments in front of the first operand, that operand, and what follows it, in
at most `fuel` steps. -/
def splitWithin (grammar : Grammar) :
    Nat → List String → Option (List Argument × String × List String)
  | _, [] => none
  | 0, _ => none
  | fuel + 1, argument :: rest =>
      if argument = "--" then none
      else
        match grammar.first? argument rest with
        | some ([.operand command], after) => some ([], command, after)
        | some (read, after) =>
            (splitWithin grammar fuel after).map fun (arguments, command) =>
              (read ++ arguments, command)
        | none => none

/-- The arguments in front of the first operand, that operand, and what follows it. -/
def split? (grammar : Grammar) (arguments : List String) :
    Option (List Argument × String × List String) :=
  grammar.splitWithin arguments.length arguments

end Grammar

/-! ## Looking at arguments -/

def operands (arguments : List Argument) : List String :=
  arguments.filterMap fun
    | .operand value => some value
    | _ => none

def names (arguments : List Argument) : List String :=
  arguments.filterMap fun
    | .flag name => some name
    | .option name _ => some name
    | .operand _ => none

def has (arguments : List Argument) (name : String) : Bool :=
  arguments.contains (.flag name)

def value? (arguments : List Argument) (name : String) : Option String :=
  arguments.findSome? fun
    | .option given value => if given = name then some value else none
    | _ => none

/-- Is no option given twice, and does every path name something? -/
def wellFormed (paths : List String) (arguments : List Argument) : Bool :=
  (names arguments).Nodup && paths.all fun path => value? arguments path != some ""

/-! ## Requests -/

structure Generation where
  root : String
  embedded : Bool
  store : Option String
  url : Option String
  allow : Option String
  block : Option String
  preferAllow : Bool
  preStatements : Option String
  json : Bool
deriving DecidableEq, Repr

inductive Command where
  | generate (options : Generation)
  | check (names : List String)
  | stats (store : Option String)
deriving DecidableEq, Repr

/-- A request: a command, and the path of the settings file. -/
structure Request where
  settingsPath : String
  command : Command
deriving DecidableEq, Repr

namespace Request

/-- The options of every command. -/
def common : Grammar where
  flags := ["verbose"]
  options := ["config"]
  letters := [('v', "verbose"), ('c', "config")]

/-- The options of `generate`. -/
def generation : Grammar :=
  { common with
    flags := ["embedded", "prefer-allow", "json"] ++ common.flags
    options := ["store", "url", "allow", "block", "pre-exec"] ++ common.options }

/-- The options of `stats`. -/
def counting : Grammar := { common with options := "store" :: common.options }

def paths : List String := ["config", "store"]

/-- The generation that arguments describe.  A server and a store exclude each other,
unless the store is only named. -/
def generation? (arguments : List Argument) : Option Generation :=
  let root? : Option String :=
    match operands arguments with
    | [] => some "."
    | [root] => if root.isEmpty then none else some root
    | _ => none
  if has arguments "embedded" && (value? arguments "url").isSome then none
  else
    root?.map fun root =>
      { root
        embedded := has arguments "embedded"
        store := value? arguments "store"
        url := value? arguments "url"
        allow := value? arguments "allow"
        block := value? arguments "block"
        preferAllow := has arguments "prefer-allow"
        preStatements := value? arguments "pre-exec"
        json := has arguments "json" }

/-- The command with a name, and the arguments after it. -/
def command? (name : String) (rest : List String) : Option (Command × List Argument) := do
  match name with
  | "generate" =>
      let arguments ← generation.all? rest
      return (.generate (← generation? arguments), arguments)
  | "check" =>
      let arguments ← common.all? rest
      if (operands arguments).isEmpty then none
      else return (.check (operands arguments), arguments)
  | "stats" =>
      let arguments ← counting.all? rest
      if !(operands arguments).isEmpty then none
      else return (.stats (value? arguments "store"), arguments)
  | _ => none

/-- The request that arguments make, if they make one.  The settings file named after
the command counts before one named in front of it. -/
def ofArguments? (arguments : List String) : Option Request := do
  let (before, name, rest) ← common.split? arguments
  let (command, after) ← command? name rest
  if wellFormed paths before && wellFormed paths after then
    let named := (value? after "config").or (value? before "config")
    return { settingsPath := named.getD "depmap.toml", command }
  else none

end Request

end CodeGraph.CommandLine
