/-! What can be asked for on the command line, and the help on it. -/

namespace Rerun.CommandLine

def programName : String := "livewat"

inductive Verb
  | watch | run | check
deriving DecidableEq, Repr

namespace Verb

def all : List Verb := [watch, run, check]

def name : Verb → String
  | watch => "watch"
  | run => "run"
  | check => "check"

def about : Verb → String
  | watch => "Re-run the file every time it changes"
  | run => "Assemble and run the file once"
  | check => "Assemble the file without running it"

def ofName? (name : String) : Option Verb := all.find? (·.name == name)

end Verb

inductive Flag
  | interval | config | json | verbose | help
deriving DecidableEq, Repr

namespace Flag

def long : Flag → String
  | interval => "interval"
  | config => "config"
  | json => "json"
  | verbose => "verbose"
  | help => "help"

def short? : Flag → Option Char
  | verbose => some 'v'
  | help => some 'h'
  | _ => none

/-- What its value is called. -/
def valueName? : Flag → Option String
  | interval => some "<INTERVAL>"
  | config => some "<CONFIG>"
  | _ => none

def takesValue (f : Flag) : Bool := f.valueName?.isSome

def about : Flag → String
  | interval => "Polling interval in milliseconds"
  | config => "TOML host configuration"
  | json => "Print outcomes as JSON lines"
  | verbose => "Log every detected change"
  | help => "Print help"

def shown (f : Flag) : String :=
  "--" ++ f.long ++ (f.valueName?.map (" " ++ ·)).getD ""

/-- With the letter, where it has one, in a column of its own. -/
def row (f : Flag) : String :=
  let letter := match f.short? with
    | some c => s!"-{c}, "
    | none => "    "
  letter ++ f.shown

end Flag

/-- Where an argument stands: after a verb, or before any. -/
abbrev Level := Option Verb

def Level.flags : Level → List Flag
  | some .watch => [.interval, .config, .json, .verbose, .help]
  | _ => [.config, .json, .verbose, .help]

def Level.flagNames (l : Level) : List String := l.flags.map Flag.long

/-- The word that asks for help on a verb. -/
def helpWord : String := "help"

def verbNames : List String := Verb.all.map Verb.name ++ [helpWord]

def fileName : String := "<FILE>"

/-! Usage lines -/

def Level.programPart : Level → String
  | none => programName
  | some v => s!"{programName} {v.name}"

/-- What has to follow. -/
def Level.required : Level → String
  | none => "<COMMAND>"
  | some _ => fileName

def Level.usage (l : Level) : String := s!"{l.programPart} [OPTIONS] {l.required}"

/-- A usage line that repeats the flags that were given. -/
def Level.usageWith (l : Level) (given : List Flag) : String :=
  " ".intercalate (l.programPart :: given.map Flag.shown ++ [l.required])

/-- The same, unless none was given. -/
def Level.usageFor (l : Level) (given : List Flag) : String :=
  if given.isEmpty then l.usage else l.usageWith given

/-! Help -/

inductive Topic
  | level (l : Level)
  | help
deriving DecidableEq, Repr

namespace Topic

def helpAbout : String := "Print this message or the help of the given subcommand(s)"

def usage : Topic → String
  | level l => l.usage
  | help => s!"{programName} {helpWord} [COMMAND]..."

/-- Rows of two columns under a heading. -/
def table (heading : String) (rows : List (String × String)) : String :=
  let width := (rows.map fun r => r.1.length).foldl max 0
  let line := fun (left, right) =>
    let gap := "".pushn ' ' (width - left.length + 2)
    s!"  {left}{gap}{right}\n"
  s!"\n{heading}:\n" ++ String.join (rows.map line)

def about : Topic → String
  | level none => "Assemble and run WebAssembly text whenever it changes"
  | level (some v) => v.about
  | help => helpAbout

def flagTable (l : Level) : String := table "Options" (l.flags.map fun f => (f.row, f.about))

def tables : Topic → List String
  | level none =>
      [ table "Commands"
          (Verb.all.map (fun v => (v.name, v.about)) ++ [(helpWord, helpAbout)]),
        flagTable none ]
  | level (some v) => [table "Arguments" [(fileName, "Path to .wat file")], flagTable (some v)]
  | help => [table "Arguments" [("[COMMAND]...", "Print help for the subcommand(s)")]]

def text (t : Topic) : String :=
  s!"{t.about}\n\nUsage: {t.usage}\n" ++ String.join t.tables

end Topic

end Rerun.CommandLine
