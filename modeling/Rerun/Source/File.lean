import Rerun.Log

/-! Files, and a reader that reports changes of readability. -/

namespace Rerun

/-- What failures to read are told apart by. -/
inductive ReadError.Kind
  | missing
  | notADirectory
  | isDirectory
  | notText
  | denied
  /-- What the system tells by a number of its own. -/
  | other (number : Nat)
deriving DecidableEq, Repr

/-- A failure to read.  Two of one kind may differ in their text. -/
structure ReadError where
  kind : ReadError.Kind
  message : String
deriving DecidableEq, Repr

namespace ReadError

def missing : ReadError := ⟨.missing, "No such file or directory (os error 2)"⟩

def notADirectory : ReadError := ⟨.notADirectory, "Not a directory (os error 20)"⟩

def isDirectory : ReadError := ⟨.isDirectory, "Is a directory (os error 21)"⟩

def notText : ReadError := ⟨.notText, "stream did not contain valid UTF-8"⟩

def denied : ReadError := ⟨.denied, "Permission denied (os error 13)"⟩

end ReadError

inductive Entry
  | file (bytes : ByteArray)
  | directory

/-- A working directory: the entries directly inside it. -/
abbrev Directory := List (String × Entry)

namespace Directory

def put (d : Directory) (name : String) (entry : Entry) : Directory :=
  (name, entry) :: d.filter (·.1 != name)

def remove (d : Directory) (name : String) : Directory :=
  d.filter (·.1 != name)

def lookup? (d : Directory) (name : String) : Option Entry :=
  (d.find? (·.1 == name)).map (·.2)

/-- Follows the parts of a relative path. -/
def resolve (d : Directory) : List String → Except ReadError Entry
  | [] => .ok .directory
  | "" :: rest | "." :: rest => resolve d rest
  | name :: rest =>
      match d.lookup? name with
      | none => .error .missing
      | some .directory => if rest.all (fun part => part == "" || part == ".") then .ok .directory else .error .missing
      | some (.file bytes) => if rest.isEmpty then .ok (.file bytes) else .error .notADirectory

/-- The whole text of a file. -/
def read (d : Directory) (path : String) : Except ReadError String :=
  if path.isEmpty then .error .missing
  else
    match d.resolve (path.splitOn "/") with
    | .error e => .error e
    | .ok .directory => .error .isDirectory
    | .ok (.file bytes) =>
        match String.fromUTF8? bytes with
        | none => .error .notText
        | some text => .ok text

end Directory

/-- Reads one file again and again. -/
structure FileReader where
  path : String
  lastError : Option ReadError.Kind := none
deriving DecidableEq, Repr

namespace FileReader

/-- The text, if it can be read.  A record is written where readability changes,
and where one error follows another of a different kind. -/
def read (r : FileReader) (found : Except ReadError String) :
    Option String × List LogRecord × FileReader :=
  match found with
  | .ok text =>
      let log :=
        if r.lastError.isSome then [⟨.info, s!"{r.path} is readable again"⟩] else []
      (some text, log, { r with lastError := none })
  | .error e =>
      let log :=
        if r.lastError = some e.kind then []
        else [⟨.warn, s!"Failed to read {r.path}: {e.message}"⟩]
      (none, log, { r with lastError := some e.kind })

/-- The texts of a file that is found like this, one time after another. -/
def readings (r : FileReader) : List (Except ReadError String) → List (Option String)
  | [] => []
  | found :: rest =>
      let (reading, _, next) := r.read found
      reading :: next.readings rest

end FileReader

end Rerun
