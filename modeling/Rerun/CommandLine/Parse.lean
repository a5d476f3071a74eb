import Rerun.CommandLine.Refusal
import Rerun.Text.Digits
import Rerun.Text.Similarity

/-! From arguments to a request.  Flags may stand before and after the verb; a value that
is given in both places counts as given after it. -/

namespace Rerun.CommandLine

/-- What is to be done. -/
structure Order where
  verb : Verb
  file : String
  interval : Option Nat
  config : Option String
  json : Bool
  verbose : Bool
deriving DecidableEq, Repr

inductive Request
  | help (topic : Topic)
  | perform (order : Order)
deriving DecidableEq, Repr

/-- An argument that was begun or taken, but not yet looked at. -/
inductive Pending
  | flag (f : Flag) (value : Option String)
  | file (path : String)
deriving DecidableEq, Repr

/-- What was found on one level. -/
structure Found where
  level : Level
  /-- In the order in which they were settled. -/
  given : List Flag := []
  pending : Option Pending := none
  /-- After `--` nothing is a flag. -/
  isPlain : Bool := false
  file : Option String := none
  interval : Option Nat := none
  config : Option String := none
deriving DecidableEq, Repr

/-- Why reading stops. -/
inductive Stop
  | refused (r : Refusal)
  | help (topic : Topic)
deriving DecidableEq, Repr

abbrev Reading := Except Stop

def refuse {α : Type} (r : Refusal) : Reading α := throw (.refused r)

/-- A number of 64 bits, digit by digit. -/
def digitsFrom (total : Nat) : List Char → Except NumberFault Nat
  | [] => .ok total
  | c :: rest =>
      if Digits.isDecimal c then
        let next := total * 10 + (c.toNat - '0'.toNat)
        if Nat.pow 2 64 ≤ next then .error .tooLarge else digitsFrom next rest
      else .error .notDigit

def number (text : String) : Except NumberFault Nat :=
  match text.toList with
  | [] => .error .empty
  | ['+'] => .error .notDigit
  | '+' :: rest => digitsFrom 0 rest
  | chars => digitsFrom 0 chars

namespace Found

def awaitsValue (s : Found) : Bool :=
  match s.pending with
  | some (.flag _ none) => true
  | _ => false

def give (s : Found) (f : Flag) : Reading Found :=
  if s.given.contains f then refuse (.repeated s.level f)
  else .ok { s with given := s.given ++ [f] }

def giveValue (s : Found) (f : Flag) (value : String) : Reading Found := do
  let s ← s.give f
  if f = .interval then
    match number value with
    | .ok n => return { s with interval := some n }
    | .error fault => refuse (.badInterval value fault)
  else if value.isEmpty then refuse (.noValue f.shown)
  else return { s with config := some value }

/-- Looks at what is pending. -/
def settle (s : Found) : Reading Found :=
  let rest := { s with pending := none }
  match s.pending with
  | none => .ok s
  | some (.flag f none) => refuse (.noValue f.shown)
  | some (.flag f (some value)) => rest.giveValue f value
  | some (.file path) =>
      if path.isEmpty then refuse (.noValue fileName) else .ok { rest with file := some path }

/-- A flag without a value. -/
def turnOn (s : Found) (f : Flag) : Reading Found := do
  let s ← s.settle
  if f = .help then throw (.help (.level s.level)) else s.give f

def letters (s : Found) : List Char → Reading Found
  | [] => .ok s
  | c :: rest =>
      match s.level.flags.find? (·.short? == some c) with
      | some f => do letters (← s.turnOn f) rest
      | none =>
          let arg := s!"-{c}"
          let tip := if s.level.isSome then some (Tip.valueAfterDashes arg) else none
          refuse (.unexpected s.level arg [] tip)

/-- A verb that comes later and has a flag like the one that is not known here. -/
def flagElsewhere (name : String) (rest : List String) : Option Tip :=
  let candidates := Verb.all.filterMap fun v =>
    match (Similarity.alike name (Level.flagNames (some v))).getLast? with
    | some flag => if rest.contains v.name then some (rest.idxOf v.name, Tip.flagOf v flag) else none
    | none => none
  ((candidates.mergeSort fun a b => a.1 ≤ b.1).head?).map (·.2)

def unknownFlag (s : Found) (name : String) (rest : List String) : Refusal :=
  let arg := "--" ++ name
  let given (f : Flag) : List Flag := if s.given.contains f then s.given else s.given ++ [f]
  match (Similarity.alike name s.level.flagNames).getLast? with
  | some similar =>
      let flags := ((s.level.flags.find? (·.long == similar)).map given).getD s.given
      .unexpected s.level arg flags (some (.flag similar))
  | none =>
      match s.level with
      | none => .unexpected s.level arg s.given (flagElsewhere name rest)
      | some _ => .unexpected s.level arg s.given (some (.valueAfterDashes arg))

/-- The name of a flag and the value attached to it. -/
def splitFlag (arg : String) : String × Option String :=
  let chars := arg.toList.drop 2
  let name := String.ofList (chars.takeWhile (· != '='))
  match chars.dropWhile (· != '=') with
  | [] => (name, none)
  | _ :: value => (name, some (String.ofList value))

def long (s : Found) (arg : String) (rest : List String) : Reading Found := do
  let (name, value) := splitFlag arg
  match s.level.flags.find? (·.long == name), value with
  | none, _ => refuse (s.unknownFlag name rest)
  | some f, some value =>
      if f.takesValue then (← s.settle).giveValue f value
      else refuse (.unneededValue s.level f value (s.given ++ [f]))
  | some f, none =>
      if f.takesValue then return { ← s.settle with pending := some (.flag f none) }
      else s.turnOn f

def hasFile (s : Found) : Bool :=
  s.file.isSome ||
    match s.pending with
    | some (.file _) => true
    | _ => false

/-- An argument that has no place. -/
def misplaced (s : Found) (arg : String) : Refusal :=
  match s.level with
  | some _ => .unexpected s.level arg [] none
  | none =>
      if s.isPlain && verbNames.contains arg then
        .unexpected none arg [] (some (.withoutDashes arg))
      else
        match Similarity.alike arg verbNames with
        | [] => .unknownVerb (.level none) arg none
        | names => .unknownVerb (.level none) arg (some (.verbs names))

def plain (s : Found) (arg : String) : Reading Found := do
  if s.level.isNone || s.hasFile then refuse (s.misplaced arg)
  else return { ← s.settle with pending := some (.file arg) }

/-- Takes one argument; `rest` is what comes after it. -/
def take (s : Found) (arg : String) (rest : List String) : Reading Found :=
  if s.isPlain then s.plain arg
  else if arg = "--" then .ok { s with isPlain := true }
  else if arg.startsWith "--" then s.long arg rest
  else if arg.startsWith "-" && arg != "-" then s.letters (arg.toList.drop 1)
  else
    match s.pending with
    | some (.flag f none) => .ok { s with pending := some (.flag f (some arg)) }
    | _ => s.plain arg

def takeAll (s : Found) : List String → Reading Found
  | [] => .ok s
  | arg :: rest => do takeAll (← s.take arg rest) rest

end Found

/-- All that comes after a verb. -/
def afterVerb (v : Verb) (args : List String) : Reading Found := do
  let s ← (← ({ level := some v } : Found).takeAll args).settle
  if s.file.isNone then refuse (.noFile v s.given) else return s

/-- The page that a word names. -/
def topicNamed? (name : String) : Option Topic :=
  if name = helpWord then some .help else (Verb.ofName? name).map fun v => .level (some v)

/-- The page that is asked for; below one word there are no more. -/
def helpTopic : List String → Reading Topic
  | [] => .ok (.level none)
  | name :: more =>
      match topicNamed? name, more with
      | none, _ => refuse (.unknownVerb (.level none) name none)
      | some topic, [] => .ok topic
      | some topic, next :: _ => refuse (.unknownVerb topic next none)

/-- Flags before the verb and all that comes after it, as one order. -/
def Order.of (before after : Found) (v : Verb) : Order where
  verb := v
  file := after.file.getD ""
  interval := after.interval
  config := after.config <|> before.config
  json := before.given.contains .json || after.given.contains .json
  verbose := before.given.contains .verbose || after.given.contains .verbose

def withoutVerb (s : Found) : Reading Order := do
  let s ← s.settle
  if s.given.isEmpty then refuse .nothing else refuse .noVerb

def read (s : Found) : List String → Reading Order
  | [] => withoutVerb s
  | arg :: rest => do
      if s.isPlain || s.awaitsValue then read (← s.take arg rest) rest
      else if arg = helpWord then throw (.help (← helpTopic rest))
      else
        match Verb.ofName? arg with
        | none => read (← s.take arg rest) rest
        | some v =>
            let after ← afterVerb v rest
            return .of (← s.settle) after v

def parse (args : List String) : Except Refusal Request :=
  match read { level := none } args with
  | .ok order => .ok (.perform order)
  | .error (.help topic) => .ok (.help topic)
  | .error (.refused r) => .error r

end Rerun.CommandLine
