import EventScript.Dictionary
import EventScript.Number.Decimal

/-!
The arguments of the command line. A command may have options that start with two dashes, words in
fixed places, and commands below it; the settings file can be named at every level, and the
innermost mention counts. After a lone double dash only words follow.
-/

namespace EventScript.CommandLine

inductive Arity where
  | once
  | many
  deriving DecidableEq, Repr

structure Level where
  options : List (String × Arity) := []
  places : Option Nat := some 0
  children : List String := []

structure Reading where
  options : Dictionary (List String) := {}
  words : List String := []
  pending : Option (String × Arity × Bool) := none
  wordsOnly : Bool := false

namespace Reading

def values (reading : Reading) (name : String) : List String :=
  (reading.options.get? name).getD []

def value? (reading : Reading) (name : String) : Option String := (reading.values name).head?

def isGiven (reading : Reading) (name : String) : Bool := reading.options.contains name

def addValue (reading : Reading) (name value : String) : Reading :=
  { reading with options := reading.options.put name (reading.values name ++ [value]) }

def settle (reading : Reading) : Option Reading :=
  match reading.pending with
  | some (_, _, false) => none
  | _ => some { reading with pending := none }

end Reading

def splitOption (argument : String) : String × Option String :=
  let chars := argument.toList.drop 2
  let name := String.ofList (chars.takeWhile (· != '='))
  match chars.dropWhile (· != '=') with
  | [] => (name, none)
  | _ :: value => (name, some (String.ofList value))

def readOption (level : Level) (reading : Reading) (argument : String) : Option Reading := do
  let (name, attached) := splitOption argument
  let arity ← level.options.lookup name
  let reading ← reading.settle
  if arity = .once ∧ reading.isGiven name then none
  else
    match attached with
    | some value => some (reading.addValue name value)
    | none => some { reading with pending := some (name, arity, false) }

def readWord (level : Level) (reading : Reading) (word : String) : Option Reading := do
  let reading ← reading.settle
  if level.places.any fun places => decide (places ≤ reading.words.length) then none
  else some { reading with words := reading.words ++ [word] }

def startsWithDashes (argument : String) : Bool := "--".toList.isPrefixOf argument.toList

def isShortOption (argument : String) : Bool :=
  argument.toList.head? == some '-' && decide (1 < argument.length)

/-- Reads the arguments of a level, up to the name of a command below it, which comes with the
arguments after it. -/
def readLevel (level : Level) :
    List String → Reading → Option (Reading × Option (String × List String))
  | [], reading => reading.settle.map fun reading => (reading, none)
  | argument :: rest, reading =>
    if reading.wordsOnly then (readWord level reading argument).bind (readLevel level rest)
    else if reading.pending.isNone && level.children.contains argument then
      some (reading, some (argument, rest))
    else if argument == "--" then readLevel level rest { reading with wordsOnly := true }
    else if startsWithDashes argument then
      (readOption level reading argument).bind (readLevel level rest)
    else if isShortOption argument then none
    else
      match reading.pending with
      | some (name, arity, _) =>
        let pending := if arity = .once then none else some (name, arity, true)
        readLevel level rest { reading.addValue name argument with pending }
      | none => (readWord level reading argument).bind (readLevel level rest)

inductive Target where
  | event (name : String)
  | command (name : String) (words : List String)
  deriving DecidableEq, Repr

inductive Action where
  | check (files : List String)
  | run (scripts : Option String) (target : Target) (ticks : Nat)
  | listStore
  | getStored (key : String)
  | setStored (key value : String)
  | resetStore
  | info (scripts : Option String)
  deriving DecidableEq, Repr

structure Arguments where
  settings : Option String
  action : Action
  deriving DecidableEq, Repr

def readTicks? (content : String) : Option Nat :=
  let digits := match content.toList with
    | '+' :: rest => rest
    | chars => chars
  let number := Number.ofDigits digits
  if !digits.isEmpty && digits.all Char.isDigit && decide (number < 18446744073709551616) then
    some number
  else none

def usualTicks : Nat := 200

def level (options : List (String × Arity)) (places : Option Nat) (children : List String) :
    Level :=
  ⟨("config", .once) :: options, places, children⟩

def rootLevel : Level := level [] (some 0) ["check", "run", "storage", "info"]

def storageLevel : Level := level [] (some 0) ["list", "get", "set", "reset"]

def readLast (level : Level) (arguments : List String) : Option Reading :=
  match readLevel level arguments {} with
  | some (reading, none) => some reading
  | _ => none

def readPath? (reading : Reading) (name : String) : Option (Option String) :=
  match reading.value? name with
  | some "" => none
  | path => some path

def readTarget? (reading : Reading) : Option Target :=
  match reading.value? "event", reading.values "command" with
  | some event, [] => some (.event event)
  | none, name :: words => some (.command name words)
  | _, _ => none

def readRun (arguments : List String) : Option (Reading × Action) := do
  let options := [("scripts", .once), ("event", .once), ("command", .many), ("ticks", .once)]
  let reading ← readLast (level options (some 0) []) arguments
  let scripts ← readPath? reading "scripts"
  let target ← readTarget? reading
  let ticks ← match reading.value? "ticks" with
    | some content => readTicks? content
    | none => some usualTicks
  some (reading, .run scripts target ticks)

def readCheck (arguments : List String) : Option (Reading × Action) := do
  let reading ← readLast (level [] none []) arguments
  if reading.words.isEmpty || reading.words.contains "" then none
  else some (reading, .check reading.words)

def readInfo (arguments : List String) : Option (Reading × Action) := do
  let reading ← readLast (level [("scripts", .once)] (some 0) []) arguments
  let scripts ← readPath? reading "scripts"
  some (reading, .info scripts)

def readStorage (name : String) (arguments : List String) : Option (Reading × Action) := do
  let reading ← readLast (level [] (some 2) []) arguments
  match name, reading.words with
  | "list", [] => some (reading, .listStore)
  | "get", [key] => some (reading, .getStored key)
  | "set", [key, value] => some (reading, .setStored key value)
  | "reset", [] => some (reading, .resetStore)
  | _, _ => none

def settingsPath? : List Reading → Option (Option String)
  | [] => some none
  | reading :: outer =>
    match readPath? reading "config", settingsPath? outer with
    | some path, some outerPath => some (path.or outerPath)
    | _, _ => none

def Arguments.read? (arguments : List String) : Option Arguments := do
  let (root, next) ← readLevel rootLevel arguments {}
  let (name, rest) ← next
  match name with
  | "storage" =>
    let (storage, next) ← readLevel storageLevel rest {}
    let (name, rest) ← next
    let (reading, action) ← readStorage name rest
    some ⟨← settingsPath? [reading, storage, root], action⟩
  | name =>
    let (reading, action) ← match name with
      | "check" => readCheck rest
      | "run" => readRun rest
      | "info" => readInfo rest
      | _ => none
    some ⟨← settingsPath? [reading, root], action⟩

end EventScript.CommandLine
