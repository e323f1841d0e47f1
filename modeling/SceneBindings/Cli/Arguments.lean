import SceneBindings.Text.Digit

/-!
The command line. Options may be shortened as long as they stay unambiguous and may carry their
value after an equals sign; after a double dash everything is an argument.
-/

namespace SceneBindings.Cli

/-- What to do with a file that is there. -/
inductive OnConflict where
  | backup
  | overwrite
  | cancel
  | ask
  | skip
  deriving DecidableEq, Repr

inductive Command where
  | register
  | standardize (force : Bool)
  | checkNames
  | library (onConflict : OnConflict)
  | handlers
  | panelHandlers (panels : List String) (onConflict : OnConflict)
  | search (query : String)
  deriving DecidableEq, Repr

structure Invocation where
  config : Option String
  quiet : Bool
  command : Command
  deriving DecidableEq, Repr

/-- Why a command line is not carried out. -/
inductive Stop where
  | badUsage
  | help
  deriving DecidableEq, Repr

def Stop.exitCode : Stop → Nat
  | badUsage => 2
  | help => 0

inductive OptionKind where
  | help
  | flag
  | valued
  deriving DecidableEq, Repr

structure OptionSpec where
  name : String
  kind : OptionKind
  deriving DecidableEq, Repr

def helpOption : OptionSpec := ⟨"--help", .help⟩

/-- The letter of the only short option. -/
def helpLetter : Char := 'h'

/-- An argument as an option parser sees it. -/
inductive Token where
  | argument (s : String)
  | dashes
  | option (spec : OptionSpec) (value : Option String)
  | unknownOption
  /-- No reading is possible. -/
  | faulty
  deriving DecidableEq, Repr

def beforeEquals (s : List Char) : List Char := s.takeWhile (· != '=')

/-- What follows the first equals sign, if there is one. -/
def afterEquals? (s : List Char) : Option String :=
  match s.dropWhile (· != '=') with
  | [] => none
  | _ :: v => some (String.ofList v)

/-- `-1`, `-.5` and the like are arguments. -/
def isNegativeNumber : List Char → Bool
  | '-' :: r =>
    let whole := r.takeWhile Text.isDigit
    match r.dropWhile Text.isDigit with
    | [] => !whole.isEmpty
    | '.' :: part => !part.isEmpty && part.all Text.isDigit
    | _ => false
  | _ => false

/-- The options that a text can stand for. -/
def candidates (specs : List OptionSpec) (s : List Char) : List OptionSpec :=
  match s with
  | '-' :: '-' :: _ => specs.filter fun o => (beforeEquals s).isPrefixOf o.name.toList
  | _ => []

/-- Letters after a dash, of which the first is that of help, stand for so many options. What does
not ask for help again is a value, which help does not take. -/
def shortOption (s : List Char) : Token :=
  let more := if beforeEquals s = [helpLetter] then s.drop 2 else s.drop 1
  .option helpOption
    (if s.length = 1 ∨ (!more.isEmpty ∧ more.all (· == helpLetter)) then none
    else some (String.ofList more))

def classify (specs : List OptionSpec) (arg : String) : Token :=
  let s := arg.toList
  match s with
  | '-' :: rest =>
    if rest.isEmpty then .argument arg
    else if rest.head? = some helpLetter then shortOption rest
    else
      match specs.find? fun o => o.name == arg with
      | some o => .option o none
      | none =>
        match candidates specs s with
        | [o] => .option o (afterEquals? s)
        | _ :: _ => .faulty
        | [] =>
          if isNegativeNumber s || s.contains ' ' then .argument arg
          else .unknownOption
  | _ => .argument arg

/-- The arguments with their readings. After a double dash nothing is an option. -/
def tokens (specs : List OptionSpec) : List String → List Token
  | [] => []
  | a :: as => if a = "--" then .dashes :: as.map .argument else classify specs a :: tokens specs as

/-- The values given to options, in order, and the arguments left. -/
structure Reading where
  values : List (String × String)
  arguments : List String
  /-- Something was given that has no place. -/
  surplus : Bool
  deriving DecidableEq, Repr

def Reading.last? (r : Reading) (name : String) : Option String :=
  (r.values.reverse.find? fun v => v.1 == name).map (·.2)

def Reading.all (r : Reading) (name : String) : List String :=
  (r.values.filter fun v => v.1 == name).map (·.2)

/-- Whether the values of an option are among those that it allows. -/
def allowed (choices : List (String × List String)) (name value : String) : Bool :=
  match choices.find? fun c => c.1 == name with
  | some c => c.2.contains value
  | none => true

def Reading.give (r : Reading) (o : OptionSpec) (value : String) : Reading :=
  { r with values := r.values ++ [(o.name, value)] }

/-- Reads the options and up to `room` arguments. An option may wait for its value. -/
def readTokens (choices : List (String × List String)) (room : Nat) (waiting : Option OptionSpec)
    (r : Reading) : List Token → Except Stop Reading
  | [] => if waiting.isSome then .error .badUsage else .ok r
  | t :: ts =>
    match waiting, t with
    | some o, .argument v =>
      if allowed choices o.name v then readTokens choices room none (r.give o v) ts
      else .error .badUsage
    | some _, _ => .error .badUsage
    | none, .argument a =>
      readTokens choices room none
        (if r.arguments.length < room then { r with arguments := r.arguments ++ [a] }
        else { r with surplus := true }) ts
    | none, .dashes =>
      let fits := if ts.isEmpty then r.arguments.length == 1 else r.arguments.length < room
      readTokens choices room none { r with surplus := r.surplus || !fits } ts
    | none, .unknownOption => readTokens choices room none { r with surplus := true } ts
    | none, .faulty => .error .badUsage
    | none, .option o value =>
      match o.kind, value with
      | .help, none => .error .help
      | .flag, none => readTokens choices room none (r.give o "") ts
      | .valued, some v =>
        if allowed choices o.name v then readTokens choices room none (r.give o v) ts
        else .error .badUsage
      | .valued, none => readTokens choices room (some o) r ts
      | _, _ => .error .badUsage

/-- Reads all arguments of a command. -/
def readAll (specs : List OptionSpec) (choices : List (String × List String)) (room : Nat)
    (args : List String) : Except Stop Reading :=
  let ts := tokens specs args
  if ts.contains .faulty then .error .badUsage
  else
    match readTokens choices room none ⟨[], [], false⟩ ts with
    | .error e => .error e
    | .ok r => if r.arguments.length < room then .error .badUsage else .ok r

def conflictOption : OptionSpec := ⟨"--on-conflict", .valued⟩

def conflictLabels : List (String × OnConflict) :=
  [("backup", .backup), ("overwrite", .overwrite), ("cancel", .cancel), ("ask", .ask),
    ("skip", .skip)]

def onConflict (r : Reading) (default : OnConflict) : OnConflict :=
  match r.last? conflictOption.name with
  | some v => ((conflictLabels.find? fun c => c.1 == v).map (·.2)).getD default
  | none => default

def commands : List String :=
  ["register", "standardize", "check-names", "library", "handlers", "panel-handlers", "search"]

/-- A command from its name and arguments, and whether nothing was left over. -/
def readCommand (name : String) (args : List String) : Except Stop (Command × Bool) :=
  let plain (c : Command) : Except Stop (Command × Bool) :=
    (readAll [helpOption] [] 0 args).map fun r => (c, !r.surplus)
  match name with
  | "register" => plain .register
  | "check-names" => plain .checkNames
  | "handlers" => plain .handlers
  | "standardize" =>
    (readAll [helpOption, ⟨"--force", .flag⟩] [] 0 args).map fun r =>
      (.standardize (r.last? "--force").isSome, !r.surplus)
  | "library" =>
    (readAll [helpOption, conflictOption]
      [(conflictOption.name, ["backup", "overwrite", "cancel", "ask"])] 0 args).map fun r =>
      (.library (onConflict r .ask), !r.surplus)
  | "panel-handlers" =>
    (readAll [helpOption, ⟨"--panel", .valued⟩, conflictOption]
      [(conflictOption.name, ["backup", "overwrite", "cancel", "ask", "skip"])] 0 args).map fun r =>
      (.panelHandlers (r.all "--panel") (onConflict r .skip), !r.surplus)
  | "search" =>
    (readAll [helpOption] [] 1 args).map fun r =>
      (.search (r.arguments.head?.getD ""), !r.surplus)
  | _ => .error .badUsage

def mainOptions : List OptionSpec := [helpOption, ⟨"--config", .valued⟩, ⟨"--quiet", .flag⟩]

/-- What the options before the command have given. -/
structure Preamble where
  config : Option String
  quiet : Bool
  surplus : Bool
  /-- Whether the path of the settings file comes next. -/
  waiting : Bool

/-- Reads the options before the command, and then the command with all that follows it. -/
def readMain (p : Preamble) : List String → Except Stop Invocation
  | [] => .error .badUsage
  | a :: as =>
    match p.waiting, if a = "--" then .faulty else classify mainOptions a with
    | true, .argument v => readMain { p with config := some v, waiting := false } as
    | true, _ => .error .badUsage
    | false, .option o value =>
      match o.kind, value with
      | .help, none => .error .help
      | .flag, none => readMain { p with quiet := true } as
      | .valued, some v => readMain { p with config := some v } as
      | .valued, none => readMain { p with waiting := true } as
      | _, _ => .error .badUsage
    | false, .unknownOption => readMain { p with surplus := true } as
    | false, .argument name =>
      match readCommand name as with
      | .error e => .error e
      | .ok (command, complete) =>
        if complete && !p.surplus then .ok ⟨p.config, p.quiet, command⟩ else .error .badUsage
    | false, _ => .error .badUsage

/-- Reads a command line. A faulty option anywhere stops it before any other is looked at. -/
def readInvocation (args : List String) : Except Stop Invocation :=
  if (tokens mainOptions args).contains .faulty then .error .badUsage
  else readMain ⟨none, false, false, false⟩ args

end SceneBindings.Cli
