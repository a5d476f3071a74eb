import Rerun.CommandLine.Verb

/-! Why a command line is refused, and what is said then. -/

namespace Rerun.CommandLine

inductive NumberFault
  | empty | notDigit | tooLarge
deriving DecidableEq, Repr

def NumberFault.message : NumberFault → String
  | empty => "cannot parse integer from empty string"
  | notDigit => "invalid digit found in string"
  | tooLarge => "number too large to fit in target type"

/-- What may have been meant. -/
inductive Tip
  | flag (name : String)
  | flagOf (verb : Verb) (name : String)
  | valueAfterDashes (arg : String)
  | withoutDashes (verb : String)
  | verbs (names : List String)
deriving DecidableEq, Repr

def quoted (s : String) : String := s!"'{s}'"

def Tip.message : Tip → String
  | flag name => s!"a similar argument exists: '--{name}'"
  | flagOf verb name => s!"'{verb.name} --{name}' exists"
  | valueAfterDashes arg => s!"to pass '{arg}' as a value, use '-- {arg}'"
  | withoutDashes verb => s!"subcommand '{verb}' exists; to use it, remove the '--' before it"
  | verbs [name] => s!"a similar subcommand exists: '{name}'"
  | verbs names => "some similar subcommands exist: " ++ ", ".intercalate (names.map quoted)

inductive Refusal
  /-- Nothing was asked for. -/
  | nothing
  /-- Flags were given, but no verb. -/
  | noVerb
  | noFile (verb : Verb) (given : List Flag)
  | unknownVerb (topic : Topic) (name : String) (tip : Option Tip)
  | unexpected (level : Level) (arg : String) (given : List Flag) (tip : Option Tip)
  | noValue (of : String)
  | unneededValue (level : Level) (flag : Flag) (value : String) (given : List Flag)
  | repeated (level : Level) (flag : Flag)
  | badInterval (value : String) (fault : NumberFault)
deriving DecidableEq, Repr

namespace Refusal

def message : Refusal → String
  | nothing => ""
  | noVerb =>
      s!"'{programName}' requires a subcommand but one was not provided\n  [subcommands: "
        ++ ", ".intercalate verbNames ++ "]"
  | noFile _ _ => s!"the following required arguments were not provided:\n  {fileName}"
  | unknownVerb _ name _ => s!"unrecognized subcommand '{name}'"
  | unexpected _ arg _ _ => s!"unexpected argument '{arg}' found"
  | noValue of => s!"a value is required for '{of}' but none was supplied"
  | unneededValue _ flag value _ =>
      s!"unexpected value '{value}' for '{flag.shown}' found; no more were expected"
  | repeated _ flag => s!"the argument '{flag.shown}' cannot be used multiple times"
  | badInterval value fault =>
      s!"invalid value '{value}' for '{Flag.interval.shown}': {fault.message}"

def tip? : Refusal → Option Tip
  | unknownVerb _ _ tip | unexpected _ _ _ tip => tip
  | _ => none

def usage? : Refusal → Option String
  | noVerb => some (Level.usage none)
  | noFile verb given => some (Level.usageWith (some verb) given)
  | unknownVerb topic _ _ => some topic.usage
  | repeated level _ => some level.usage
  | unexpected level _ given _ | unneededValue level _ _ given => some (level.usageFor given)
  | nothing | noValue _ | badInterval _ _ => none

/-- Who asks for nothing is told what there is. -/
def text : Refusal → String
  | nothing => (Topic.level none).text
  | r =>
      let tip := (r.tip?.map fun t => s!"\n\n  tip: {t.message}").getD ""
      let usage := (r.usage?.map fun u => s!"\n\nUsage: {u}").getD ""
      s!"error: {r.message}{tip}{usage}\n\nFor more information, try '--help'.\n"

end Refusal

end Rerun.CommandLine
