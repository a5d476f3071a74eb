import Rerun.CommandLine.Parse
import Rerun.Diagnostic.Report
import Rerun.Settings.Load
import Rerun.Ticker

/-! A command line at work: what it prints, and with what status it ends. -/

namespace Rerun

namespace Console

open CommandLine (Order Request)

/-- What is found at each path. -/
abbrev Files := String → Except ReadError String

structure Ending where
  output : String := ""
  errors : String := ""
  status : UInt32
deriving DecidableEq, Repr

/-- Status of a command line that is refused. -/
def refusedStatus : UInt32 := 2

def indented (text : String) : String := "    " ++ "\n    ".intercalate (text.splitOn "\n")

/-- Ends with an error, and with what lies behind it. -/
def failed (message : String) (cause : Option String) : Ending :=
  let behind := (cause.map fun c => s!"\n\nCaused by:\n{indented c}").getD ""
  { errors := s!"Error: {message}{behind}\n", status := 1 }

/-- A report as it is printed. -/
def printed (settings : Settings) (json : Bool) (id : CycleId) (outcome : Outcome) : String :=
  if json then Outcome.line id outcome ++ "\n"
  else (outcome.render settings.errorPrefix).text ++ "\n"

def printedAll (settings : Settings) (json : Bool) (reports : List (CycleId × Outcome)) :
    String :=
  String.join (reports.map fun (id, outcome) => printed settings json id outcome)

variable {Handle Instance : Type}

/-- Runs a file once: a session of its own reads it, and reports what it starts. -/
def run (setup : Setup Handle Instance) (json : Bool) (files : Files) (path : String) : Ending :=
  let reading := (FileReader.read { path } (files path)).1
  match (Session.detect ({} : Session Instance) reading).1 with
  | none => failed s!"{path} is empty or unreadable" none
  | some cycle =>
      let s := Session.serve setup {} reading
      { output := printedAll setup.settings json s.delivered
        status := if (s.outcome? cycle.id).any Outcome.isOk then 0 else 1 }

def checkedLine (json : Bool) (path : String) (size : Nat) : String :=
  if json then
    Json.object [("bytes", toString size), ("status", Json.string "ok")] ++ "\n"
  else s!"{path}: ok ({size} bytes)\n"

def faultLine (d : Diagnostic) : String :=
  Json.object
    [ ("error", Json.string d.shown), ("kind", Json.string Stage.assembly.name),
      ("status", Json.string "error") ] ++ "\n"

/-- Assembles a text, with no session and no account of the calls. -/
def checkedBinary (assembler : Assembler Handle) (settings : Settings) (text : String) :
    Except Diagnostic ByteArray := do
  let handle ← assembler.parse settings.moduleName text settings.parseOptions
  assembler.encode handle

/-- Assembles a file. -/
def check (assembler : Assembler Handle) (settings : Settings) (json : Bool) (files : Files)
    (path : String) : Ending :=
  match files path with
  | .error e => failed s!"failed to read {path}" (some e.message)
  | .ok text =>
      match checkedBinary assembler settings text with
      | .ok binary => { output := checkedLine json path binary.size, status := 0 }
      | .error d =>
          if json then { output := faultLine d, status := 1 }
          else { errors := d.render path text, status := 1 }

/-- A command line that has been read. -/
inductive Work
  | ended (e : Ending)
  | watching (settings : Settings) (order : Order)

/-- The settings of an order. -/
def settingsOf (files : Files) (order : Order) : Except SettingsError Settings :=
  match order.config with
  | none => .ok {}
  | some path => Settings.ofFile path (files path)

def perform (assembler : Assembler Handle) (sandbox : Sandbox Instance) (files : Files)
    (order : Order) : Work :=
  match settingsOf files order with
  | .error e => .ended (failed e.message (some e.cause))
  | .ok settings =>
      match order.verb with
      | .run => .ended (run ⟨assembler, sandbox, settings⟩ order.json files order.file)
      | .check => .ended (check assembler settings order.json files order.file)
      | .watch =>
          let period := order.interval.getD settings.frameIntervalMs
          .watching { settings with frameIntervalMs := period } order

/-- What arguments lead to. -/
def start (assembler : Assembler Handle) (sandbox : Sandbox Instance) (files : Files)
    (args : List String) : Work :=
  match CommandLine.parse args with
  | .error r => .ended { errors := r.text, status := refusedStatus }
  | .ok (.help topic) => .ended { output := topic.text, status := 0 }
  | .ok (.perform order) => perform assembler sandbox files order

/-- Work that reads files one after another. -/
inductive Plan (α : Type)
  | done (result : α)
  | read (path : String) (next : Except ReadError String → Plan α)

namespace Plan

variable {α : Type}

/-- What it comes to where files are found like this. -/
def result (files : Files) : Plan α → α
  | done result => result
  | read path next => (next (files path)).result files

/-- The paths in the order in which they are read. -/
def paths (files : Files) : Plan α → List String
  | done _ => []
  | read path next => path :: (next (files path)).paths files

end Plan

/-- An order whose settings are known. -/
def planWith (assembler : Assembler Handle) (sandbox : Sandbox Instance) (order : Order)
    (settings : Settings) : Plan Work :=
  let read (ending : Files → Ending) : Plan Work :=
    .read order.file fun found => .done (.ended (ending fun _ => found))
  match order.verb with
  | .run => read fun files => run ⟨assembler, sandbox, settings⟩ order.json files order.file
  | .check => read fun files => check assembler settings order.json files order.file
  | .watch =>
      let period := order.interval.getD settings.frameIntervalMs
      .done (.watching { settings with frameIntervalMs := period } order)

/-- An order is performed step by step: nothing is done before its settings are known. -/
def planFor (assembler : Assembler Handle) (sandbox : Sandbox Instance) (order : Order) :
    Plan Work :=
  match order.config with
  | none => planWith assembler sandbox order {}
  | some path =>
      .read path fun found =>
        match Settings.ofFile path found with
        | .error e => .done (.ended (failed e.message (some e.cause)))
        | .ok settings => planWith assembler sandbox order settings

/-- What arguments lead to, step by step. -/
def plan (assembler : Assembler Handle) (sandbox : Sandbox Instance) (args : List String) :
    Plan Work :=
  match CommandLine.parse args with
  | .error r => .done (.ended { errors := r.text, status := refusedStatus })
  | .ok (.help topic) => .done (.ended { output := topic.text, status := 0 })
  | .ok (.perform order) => planFor assembler sandbox order

/-- The loop after frames with these readings of the file. -/
def watched (setup : Setup Handle Instance) (readings : List (Option String)) :
    Ticker Instance :=
  readings.foldl (Ticker.frame setup) (Ticker.start {})

/-- All that is printed meanwhile. -/
def watch (setup : Setup Handle Instance) (json : Bool) (readings : List (Option String)) :
    String :=
  printedAll setup.settings json (watched setup readings).session.delivered

end Console

end Rerun
