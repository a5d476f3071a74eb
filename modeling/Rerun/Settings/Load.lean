import Rerun.Settings
import Rerun.Source.File
import Rerun.Text.Escaped
import Rerun.Toml.Message
import Rerun.Float.Shortest

/-! Settings from a TOML document: every key must name a setting, and a setting
without a key keeps its default. -/

namespace Rerun

namespace Toml.Node

/-- A float with a point even where it is whole. -/
def floatText (bits : Nat) : String :=
  let text := FloatFormat.double.shown bits
  if FloatFormat.double.isNaN bits || FloatFormat.double.isInfinite bits || text.contains '.'
  then text else text ++ ".0"

/-- How a value of the wrong type is named. -/
def described : Toml.Node → String
  | string text _ => s!"string {Escaped.quote text}"
  | integer value _ => s!"integer `{value}`"
  | float bits _ => s!"floating point `{floatText bits}`"
  | boolean value _ => s!"boolean `{value}`"
  | datetime _ | inlineTable .. | table .. => "map"
  | array .. | tables _ => "sequence"

/-- What a value stands for when only its being empty matters. -/
inductive Content
  | sequence (isEmpty : Bool)
  | map (isEmpty : Bool)
  | scalar (typeName : String)

def content (node : Toml.Node) : Content :=
  match node with
  | array size _ => .sequence (size == 0)
  | tables items => .sequence items.isEmpty
  | inlineTable entries _ _ | table entries _ _ => .map entries.isEmpty
  | other => .scalar (other.typeName?.getD "")

end Toml.Node

namespace Settings

open Toml (Problem Node Key Entries Span)

abbrev Decoder (α : Type) := Node → Except Problem α

def wrongType {α : Type} (expected : String) (node : Node) : Except Problem α :=
  .error ⟨s!"invalid type: {node.described}, expected {expected}", node.span?⟩

def text : Decoder String
  | .string text _ => .ok text
  | node => wrongType "a string" node

def flag : Decoder Bool
  | .boolean value _ => .ok value
  | node => wrongType "a boolean" node

def count : Decoder Nat
  | .integer value span =>
      if value < 0 then
        .error ⟨s!"invalid value: integer `{value}`, expected u64", some span⟩
      else .ok value.toNat
  | node => wrongType "u64" node

def policyNamed (name : String) (span : Option Span) : Except Problem ReportPolicy :=
  match [ReportPolicy.lastCompleted, .latestStarted].find? (·.name == name) with
  | some policy => .ok policy
  | none =>
      .error
        ⟨s!"unknown variant `{name}`, expected `last_completed` or `latest_started`", span⟩

/-- A policy as the only key of a table, over an empty value. -/
def policyKey (entries : Entries) (span : Option Span) : Except Problem ReportPolicy :=
  match entries with
  | [] => .error ⟨"wanted exactly 1 element, found 0 elements", span⟩
  | [(key, node)] => do
      let policy ← policyNamed key.text (some key.span)
      match node.content with
      | .sequence isEmpty =>
          if isEmpty then .ok policy
          else .error ⟨"expected empty array", node.span?⟩
      | .map isEmpty =>
          if isEmpty then .ok policy
          else .error ⟨"expected empty table", node.span?⟩
      | .scalar name => .error ⟨s!"expected table, found {name}", node.span?⟩
  | _ => .error ⟨"wanted exactly 1 element, more than 1 element", span⟩

def policy : Decoder ReportPolicy
  | .string name span => policyNamed name (some span)
  | .inlineTable entries _ span | .table entries _ span => policyKey entries span
  | node => .error ⟨"wanted string or table", node.span?⟩

def fieldNames : List String :=
  ["module_name", "frame_interval_ms", "report_policy", "error_prefix", "validate",
    "fuel_yield_interval"]

def unknownField (key : Key) : Problem :=
  let names := ", ".intercalate (fieldNames.map fun name => s!"`{name}`")
  ⟨s!"unknown field `{key.text}`, expected one of {names}", some key.span⟩

/-- Takes one entry in.  A value without bytes of its own is blamed on its key. -/
def set (s : Settings) (key : Key) (node : Node) : Except Problem Settings :=
  let blame {α : Type} (step : Except Problem α) : Except Problem α :=
    step.mapError fun p => { p with span := p.span <|> some key.span }
  match key.text with
  | "module_name" => blame do return { s with moduleName := ← text node }
  | "frame_interval_ms" => blame do return { s with frameIntervalMs := ← count node }
  | "report_policy" => blame do return { s with reportPolicy := ← policy node }
  | "error_prefix" => blame do return { s with errorPrefix := ← text node }
  | "validate" => blame do return { s with validate := ← flag node }
  | "fuel_yield_interval" => blame do return { s with fuelYieldInterval := ← count node }
  | _ => .error (unknownField key)

def ofEntries (entries : Entries) : Except Problem Settings :=
  entries.foldlM (fun s (key, node) => s.set key node) {}

end Settings

/-- Why there are no settings. -/
inductive SettingsError
  | unreadable (path : String) (error : ReadError)
  | invalid (problem : Toml.Problem) (text : String)

namespace SettingsError

def message : SettingsError → String
  | unreadable path error => s!"failed to read config file {path}: {error.message}"
  | invalid problem text => s!"invalid config: {problem.shown text}"

/-- What lies behind the failure. -/
def cause : SettingsError → String
  | unreadable _ error => error.message
  | invalid problem text => problem.shown text

end SettingsError

namespace Settings

def ofToml (text : String) : Except SettingsError Settings :=
  match Toml.parse text >>= ofEntries with
  | .ok s => .ok s
  | .error problem => .error (.invalid problem text)

/-- Settings from what was found at a path. -/
def ofFile (path : String) (found : Except ReadError String) : Except SettingsError Settings :=
  match found with
  | .error error => .error (.unreadable path error)
  | .ok text => ofToml text

def load (directory : Directory) (path : String) : Except SettingsError Settings :=
  ofFile path (directory.read path)

end Settings

end Rerun
