/-!
The command line: one option for all commands, and commands with options and at most one
positional argument.
-/

namespace EmbeddingIndex

inductive Command
  | init
  | index (records : String) (dir : Option String) (threshold : Option Nat)
  | search (records : Option String) (query : String) (count : Nat) (dir : Option String)
  | inspect (dir : Option String)
  deriving DecidableEq, Repr

structure Invocation where
  config : Option String
  command : Command
  deriving DecidableEq, Repr

/-- Why arguments name no command to run; asking for help or the version is among them. -/
inductive UsageFault
  | help
  | version
  | nothingGiven
  | missingCommand
  | unknownCommand
  | unknownArgument
  | missingArgument
  | emptyValue
  | malformedValue
  | repeatedOption
  | unwantedValue
  deriving DecidableEq, Repr

namespace UsageFault

def name : UsageFault → String
  | help => "DisplayHelp"
  | version => "DisplayVersion"
  | nothingGiven => "DisplayHelpOnMissingArgumentOrSubcommand"
  | missingCommand => "MissingSubcommand"
  | unknownCommand => "InvalidSubcommand"
  | unknownArgument => "UnknownArgument"
  | missingArgument => "MissingRequiredArgument"
  | emptyValue => "InvalidValue"
  | malformedValue => "ValueValidation"
  | repeatedOption => "ArgumentConflict"
  | unwantedValue => "TooManyValues"

def exitCode : UsageFault → Nat
  | help => 0
  | version => 0
  | _ => 2

end UsageFault

namespace CommandLine

inductive Parameter
  | config
  | dir
  | threshold
  | query
  | count
  | records
  deriving DecidableEq, Repr

inductive Request
  | help
  | version
  | option (parameter : Parameter)

inductive Verb
  | init
  | index
  | search
  | inspect
  | help
  deriving DecidableEq, Repr

def Verb.named (name : String) : Option Verb :=
  [("init", init), ("index", index), ("i", index), ("search", search), ("s", search),
    ("inspect", inspect), ("help", help)].lookup name

/-- What may be given at one level: options by their long names and by their letters, a positional
argument, and what has to be given. -/
structure Level where
  long : List (String × Parameter)
  short : List (Char × Parameter)
  positional : Option Parameter
  required : List Parameter

namespace Level

def top : Level := ⟨[("config", .config)], [], none, []⟩

def of : Verb → Level
  | .init => top
  | .help => top
  | .index =>
    ⟨[("config", .config), ("dir", .dir), ("threshold", .threshold)], [], some .records, [.records]⟩
  | .search =>
    ⟨[("config", .config), ("query", .query), ("dir", .dir)], [('q', .query), ('k', .count)],
      some .records, [.query]⟩
  | .inspect => ⟨[("config", .config), ("dir", .dir)], [], none, []⟩

def findLong (l : Level) (name : String) : Option Request :=
  if name = "help" then some .help
  else if name = "version" then some .version
  else (l.long.lookup name).map .option

def findShort (l : Level) (letter : Char) : Option Request :=
  if letter = 'h' then some .help
  else if letter = 'V' then some .version
  else (l.short.lookup letter).map .option

end Level

def natural? (text : String) : Option Nat :=
  let digits := if text.toList.head? = some '+' then text.toList.drop 1 else text.toList
  if digits.isEmpty || !digits.all Char.isDigit then none
  else
    let n := digits.foldl (fun n c => n * 10 + (c.toNat - '0'.toNat)) 0
    if n < 0x10000000000000000 then some n else none

def Parameter.fault? (p : Parameter) (value : String) : Option UsageFault :=
  match p with
  | .query => none
  | .threshold | .count => if (natural? value).isSome then none else some .malformedValue
  | .config | .dir | .records => if value = "" then some .emptyValue else none

/-- Checked values, and the parameter at hand with its value once there is one. A value is checked
only when the next parameter begins or the arguments end. -/
structure Taken where
  given : List (Parameter × String)
  pending : Option (Parameter × Option String)

namespace Taken

def none : Taken := ⟨[], .none⟩

def get? (t : Taken) (p : Parameter) : Option String := t.given.lookup p

def store (t : Taken) (p : Parameter) (value : String) : Except UsageFault Taken :=
  if (t.get? p).isSome then .error .repeatedOption
  else
    match p.fault? value with
    | some fault => .error fault
    | .none => .ok ⟨t.given ++ [(p, value)], .none⟩

def settle (t : Taken) : Except UsageFault Taken :=
  match t.pending with
  | .none => .ok t
  | some (_, .none) => .error .emptyValue
  | some (p, some value) => ({ t with pending := .none } : Taken).store p value

def isWaiting (t : Taken) : Bool :=
  match t.pending with
  | some (_, .none) => true
  | _ => false

def supply (t : Taken) (value : String) : Taken :=
  { t with pending := t.pending.map fun p => (p.1, some value) }

def begin (t : Taken) (p : Parameter) (attached : Option String) : Except UsageFault Taken :=
  match t.settle with
  | .error fault => .error fault
  | .ok t =>
    match attached with
    | some value => t.store p value
    | .none => .ok { t with pending := some (p, .none) }

def request (t : Taken) (r : Request) (attached : Option String) : Except UsageFault Taken :=
  match r with
  | .option p => t.begin p attached
  | .help => if attached.isSome then .error .unwantedValue else t.settle.bind fun _ => .error .help
  | .version =>
    if attached.isSome then .error .unwantedValue else t.settle.bind fun _ => .error .version

end Taken

def splitLong (body : List Char) : String × Option String :=
  let name := body.takeWhile (· ≠ '=')
  match body.drop name.length with
  | [] => (String.ofList name, none)
  | _ :: value => (String.ofList name, some (String.ofList value))

def attachedValue : List Char → Option String
  | [] => none
  | '=' :: value => some (String.ofList value)
  | value => some (String.ofList value)

/-- A letter that takes a value uses up the rest of its argument. Help and version do not return,
so no letter follows another. -/
def readShort (l : Level) (t : Taken) : List Char → Except UsageFault Taken
  | [] => .ok t
  | letter :: rest =>
    match l.findShort letter with
    | none => .error .unknownArgument
    | some (.option p) => t.begin p (attachedValue rest)
    | some r => t.request r none

inductive Shape
  | escape
  | long (name : String) (value : Option String)
  | short (letters : List Char)
  | word

def shapeOf (argument : String) : Shape :=
  match argument.toList with
  | ['-', '-'] => .escape
  | '-' :: '-' :: body => let (name, value) := splitLong body; .long name value
  | '-' :: letter :: rest => .short (letter :: rest)
  | _ => .word

/-- Arguments of a command. Behind a double dash all are positional. -/
def readArguments (l : Level) : Taken → Bool → Bool → List String → Except UsageFault Taken
  | t, _, _, [] => .ok t
  | t, trailing, filled, argument :: rest =>
    let positional := fun (_ : Unit) =>
      match l.positional with
      | some p =>
        if filled then .error .unknownArgument
        else
          match t.settle with
          | .error fault => .error fault
          | .ok t =>
            readArguments l { t with pending := some (p, some argument) } trailing true rest
      | none => .error .unknownArgument
    if trailing then positional ()
    else
      match shapeOf argument with
      | .escape => readArguments l t true filled rest
      | .long name value =>
        match l.findLong name with
        | none => .error .unknownArgument
        | some r =>
          match t.request r value with
          | .error fault => .error fault
          | .ok t => readArguments l t false filled rest
      | .short letters =>
        match readShort l t letters with
        | .error fault => .error fault
        | .ok t => readArguments l t false filled rest
      | .word =>
        if t.isWaiting then readArguments l (t.supply argument) false filled rest else positional ()

def readLevel (l : Level) (arguments : List String) : Except UsageFault Taken :=
  match readArguments l .none false false arguments with
  | .error fault => .error fault
  | .ok t =>
    match t.settle with
    | .error fault => .error fault
    | .ok t =>
      if l.required.all fun p => (t.get? p).isSome then .ok t else .error .missingArgument

def standardCount : Nat := 5

def commandOf (verb : Verb) (t : Taken) : Command :=
  match verb with
  | .init => .init
  | .help => .init
  | .index => .index ((t.get? .records).getD "") (t.get? .dir) ((t.get? .threshold).bind natural?)
  | .search =>
    .search (t.get? .records) ((t.get? .query).getD "")
      (((t.get? .count).bind natural?).getD standardCount) (t.get? .dir)
  | .inspect => .inspect (t.get? .dir)

def helpOn : List String → UsageFault
  | [] => .help
  | [name] => if (Verb.named name).isSome then .help else .unknownCommand
  | _ => .unknownCommand

def finish (t : Taken) (verb : Verb) (arguments : List String) : Except UsageFault Invocation :=
  match readLevel (Level.of verb) arguments with
  | .error fault => .error fault
  | .ok inner =>
    match t.settle with
    | .error fault => .error fault
    | .ok t =>
      let config := match inner.get? .config with
        | some path => some path
        | none => t.get? .config
      .ok ⟨config, commandOf verb inner⟩

def readTop : Taken → Bool → List String → Except UsageFault Invocation
  | t, _, [] =>
    match t.settle with
    | .error fault => .error fault
    | .ok t => .error (if t.given.isEmpty then .nothingGiven else .missingCommand)
  | t, trailing, argument :: rest =>
    let verb := Verb.named argument
    if trailing then .error (if verb.isSome then .unknownArgument else .unknownCommand)
    else
      match (if t.isWaiting then none else verb) with
      | some .help => .error (helpOn rest)
      | some verb => finish t verb rest
      | none =>
        match shapeOf argument with
        | .escape => readTop t true rest
        | .long name value =>
          match Level.top.findLong name with
          | none => .error .unknownArgument
          | some r =>
            match t.request r value with
            | .error fault => .error fault
            | .ok t => readTop t false rest
        | .short letters =>
          match readShort .top t letters with
          | .error fault => .error fault
          | .ok t => readTop t false rest
        | .word => if t.isWaiting then readTop (t.supply argument) false rest else .error .unknownCommand

def parse (arguments : List String) : Except UsageFault Invocation := readTop .none false arguments

end CommandLine

end EmbeddingIndex
