import MediaCatalogue.CommandLine.Request

/-! Reading the arguments of the command line, from left to right. -/

namespace MediaCatalogue.CommandLine

inductive Flag where
  | verbose
  | help
  | catalogue
  | limit
  | type
  | json
  | explain
  | all
  | index
  | isGlobal
  | force
  deriving DecidableEq

namespace Flag

def long : Flag → String
  | verbose => "verbose"
  | help => "help"
  | catalogue => "catalogue"
  | limit => "limit"
  | type => "type"
  | json => "json"
  | explain => "explain"
  | all => "all"
  | index => "index"
  | isGlobal => "global"
  | force => "force"

def short? : Flag → Option Char
  | verbose => some 'v'
  | help => some 'h'
  | catalogue => some 'c'
  | limit => some 'n'
  | type => some 't'
  | index => some 'i'
  | _ => none

def takesValue : Flag → Bool
  | catalogue | limit | type | index => true
  | _ => false

end Flag

inductive Command where
  | search
  | remove
  | table
  | operators
  | init
  | config
  | check
  deriving DecidableEq

namespace Command

def all : List Command := [search, remove, table, operators, init, config, check]

def name : Command → String
  | search => "search"
  | remove => "remove"
  | table => "table"
  | operators => "operators"
  | init => "init"
  | config => "config"
  | check => "check"

def about : Command → String
  | search => "Search the catalogue and print matching media"
  | remove => "Remove matching media from the catalogue"
  | table => "Print the truth table of a formula"
  | operators => "List search operators and connectives"
  | init => "Initialize mcat configuration in current directory"
  | config => "Show effective configuration settings"
  | check => "Validate configuration and diagnose issues"

def ofName? (name : String) : Option Command := all.find? (·.name == name)

/-- The flags of a command, besides those of all commands. -/
def ownFlags : Command → List Flag
  | search => [.catalogue, .limit, .type, .json, .explain]
  | remove => [.catalogue, .type, .all, .index]
  | init => [.isGlobal, .force]
  | _ => []

/-- Flags that every command has, and that can also stand in front of it. -/
def commonFlags : List Flag := [.verbose, .help]

def flags (c : Command) : List Flag := c.ownFlags ++ commonFlags

/-- The argument that a command needs besides flags: a query or a formula. -/
def needsText : Command → Bool
  | search | remove | table => true
  | _ => false

end Command

/-! Values of flags -/

/-- A number of 64 bits without a sign, or with a plus. -/
def word? (s : String) : Option UInt64 :=
  let digits := match s.toList with
    | '+' :: cs => cs
    | cs => cs
  let n := digits.foldl (fun n c => 10 * n + (c.toNat - '0'.toNat)) 0
  if !digits.isEmpty && digits.all Char.isDigit && n < UInt64.size then some (UInt64.ofNat n) else none

def type? (s : String) : Option MediaType := (MediaType.ofText s).toOption

/-- Whether a text is a value that a flag can take. -/
def Flag.admits (f : Flag) (value : String) : Bool :=
  match f with
  | .catalogue => value != ""
  | .limit | .index => (word? value).isSome
  | .type => (type? value).isSome
  | _ => false

/-! Gathering -/

/-- What has been read of the arguments of a command. -/
structure Gathered where
  verbosity : Nat
  /-- The flags that are given, with their values. -/
  given : List (Flag × String)
  /-- A flag whose value has to follow. -/
  awaiting : Option Flag
  text : Option String
  /-- Whether all further arguments are texts. -/
  closed : Bool
  deriving DecidableEq

namespace Gathered

def empty : Gathered := ⟨0, [], none, none, false⟩

def has (g : Gathered) (f : Flag) : Bool := g.given.any (·.1 == f)

def value? (g : Gathered) (f : Flag) : Option String := (g.given.find? (·.1 == f)).map (·.2)

/-- Adds a flag with its value, which may be given once. -/
def give (g : Gathered) (f : Flag) (value : String) : Except Stop Gathered :=
  if g.has f || !f.admits value then .error .misuse
  else .ok { g with given := g.given ++ [(f, value)], awaiting := none }

/-- Adds a flag that takes no value. -/
def mark (g : Gathered) (f : Flag) : Except Stop Gathered :=
  if g.awaiting.isSome then .error .misuse
  else if f = .help then .error .help
  else if f = .verbose then .ok { g with verbosity := g.verbosity + 1 }
  else if g.has f then .error .misuse
  else .ok { g with given := g.given ++ [(f, "")] }

/-- Adds a flag that is given with the value, if it has one right behind it. -/
def addFlag (g : Gathered) (f : Flag) (value : Option String) : Except Stop Gathered :=
  if f.takesValue then
    if g.awaiting.isSome then .error .misuse
    else
      match value with
      | some v => g.give f v
      | none => .ok { g with awaiting := some f }
  else if value.isSome then .error .misuse
  else g.mark f

/-- Reads the letters behind a dash. The text behind the letter of a flag with a value is that value. -/
def addLetters (flags : List Flag) (g : Gathered) : List Char → Except Stop Gathered
  | [] => .ok g
  | c :: cs =>
    match flags.find? (·.short? == some c) with
    | none => .error .misuse
    | some f =>
      if f.takesValue then
        match cs with
        | [] => g.addFlag f none
        | '=' :: cs => g.addFlag f (some (String.ofList cs))
        | cs => g.addFlag f (some (String.ofList cs))
      else do addLetters flags (← g.mark f) cs

/-- Reads a word behind two dashes, with a value behind an equals sign. -/
def addWord (flags : List Flag) (g : Gathered) (cs : List Char) : Except Stop Gathered :=
  let name := cs.takeWhile (· != '=')
  match flags.find? (·.long.toList == name) with
  | none => .error .misuse
  | some f =>
    match cs.drop name.length with
    | [] => g.addFlag f none
    | _ :: value => g.addFlag f (some (String.ofList value))

/-- Adds a text: the value of the flag that awaits one, or the argument of the command. -/
def addText (takesText : Bool) (g : Gathered) (s : String) : Except Stop Gathered :=
  match g.awaiting with
  | some f => if g.closed then .error .misuse else g.give f s
  | none =>
    if takesText && g.text.isNone then .ok { g with text := some s } else .error .misuse

def add (flags : List Flag) (takesText : Bool) (g : Gathered) (s : String) :
    Except Stop Gathered :=
  if g.closed then g.addText takesText s
  else
    match s.toList with
    | ['-', '-'] => .ok { g with closed := true }
    | '-' :: '-' :: cs => g.addWord flags cs
    | '-' :: c :: cs => g.addLetters flags (c :: cs)
    | _ => g.addText takesText s

def addAll (flags : List Flag) (takesText : Bool) (g : Gathered) :
    List String → Except Stop Gathered
  | [] => if g.awaiting.isSome then .error .misuse else .ok g
  | s :: ss => do (← g.add flags takesText s).addAll flags takesText ss

end Gathered

/-! Requests -/

def selectionOf (g : Gathered) : Except Stop Selection :=
  match g.has .all, (g.value? .index).bind word? with
  | true, some _ => .error .misuse
  | true, none => .ok .all
  | false, some n => .ok (.numbered n)
  | false, none => .ok .single

/-- The request that a command and what is gathered of its arguments make. -/
def requestOf (c : Command) (g : Gathered) : Except Stop Request :=
  match c, g.text with
  | .search, some query => .ok (.search
    { query, catalogue := g.value? .catalogue, limit := (g.value? .limit).bind word?,
      mediaType := (g.value? .type).bind type?, json := g.has .json, explain := g.has .explain })
  | .remove, some query => do
    return .remove
      { query, catalogue := g.value? .catalogue, mediaType := (g.value? .type).bind type?,
        selection := ← selectionOf g }
  | .table, some formula => .ok (.table formula)
  | .operators, _ => .ok .operators
  | .init, _ => .ok (.init (g.has .isGlobal) (g.has .force))
  | .config, _ => .ok .config
  | .check, _ => .ok .check
  | _, none => .error .misuse

/-- What stands behind `help`: nothing, or a command. -/
def readHelp : List String → Stop
  | [] => .help
  | [name] => if name = "help" ∨ (Command.ofName? name).isSome then .help else .misuse
  | _ => .misuse

/-- Reads the flags in front of a command, and the command. How much to tell is what stands behind the
command, or else in front of it. -/
def readFrom (front : Gathered) : List String → Except Stop Invocation
  | [] => .error .misuse
  | s :: ss =>
    if front.closed then .error .misuse
    else if s = "help" then .error (readHelp ss)
    else
      match Command.ofName? s with
      | some c => do
        let g ← Gathered.empty.addAll c.flags c.needsText ss
        let request ← requestOf c g
        return { verbosity := if g.verbosity = 0 then front.verbosity else g.verbosity, request }
      | none => do readFrom (← front.add Command.commonFlags false s) ss

def readArguments (args : List String) : Except Stop Invocation := readFrom .empty args

/-! Help -/

def listed (name about : String) : String :=
  "  " ++ name.pushn ' ' (10 - name.length) ++ " " ++ about

def helpLines : List String :=
  ["Media catalogue - search films, music and television with logic",
   "",
   "Usage: mcat [-v...] <COMMAND>",
   "",
   "Commands:"] ++
  Command.all.map (fun c => listed c.name c.about) ++
  [listed "help" "Print this message or the help of the given subcommand(s)",
   "",
   "Options:",
   "  -v, --verbose  Increase log verbosity",
   "  -h, --help     Print help"]

end MediaCatalogue.CommandLine
