import Rerun.Wasm.Text.Expression
import Rerun.Wasm.Text.Producers

/-! The definitions of a module as they are written, and whole texts. -/

namespace Rerun.Wasm.Text.Parse

/-- Whether `(export "…")` is next, closed right after the string. -/
def atInlineExport : Parse Bool := fun tokens => do
  let (first, _) ← head tokens
  match first.kind with
  | .opening =>
      let rest := tokens.drop 1
      let (word, _) ← head rest
      match word.kind with
      | .keyword "export" =>
          let rest := rest.drop 1
          let (name, _) ← head rest
          match name.kind with
          | .string _ =>
              let (last, _) ← head (rest.drop 1)
              return (isClosing last.kind, tokens)
          | _ => return (false, tokens)
      | _ => return (false, tokens)
  | _ => return (false, tokens)

/-- Whether `(import "…" "…")` is next, closed right after the strings. -/
def atInlineImport : Parse Bool := fun tokens => do
  let kindAt (n : Nat) : Except TextFault TokenKind := return (← head (tokens.drop n)).1.kind
  if !isOpening (← kindAt 0) then return (false, tokens)
  if !((← kindAt 1) matches .keyword "import") then return (false, tokens)
  if !((← kindAt 2) matches .string _) then return (false, tokens)
  if !((← kindAt 3) matches .string _) then return (false, tokens)
  return (isClosing (← kindAt 4), tokens)

def inlineExports : Parse (List String) :=
  whilst atInlineExport (parens do keyword "export"; text)

def origin : Parse Origin := do
  let moduleName ← text
  return ⟨moduleName, ← text⟩

def inlineImport? : Parse (Option Origin) :=
  when? atInlineImport (parens do keyword "import"; origin)

def importField : Parse Field := do
  let offset ← here
  keyword "import"
  let origin ← origin
  parens do
    let word ← keyword?
    match word.bind ExternKind.ofName? with
    | none => unexpected (ExternKind.all.map fun kind => quoted kind.name)
    | some kind =>
        skip
        let naming ← naming
        let zero := Index.number 0 offset
        let plain (type : ExternType Index) : Field :=
          .imported ⟨offset, origin, naming, type, none⟩
        match kind with
        | .func => return .imported ⟨offset, origin, naming, .func zero, some (← typeUse true)⟩
        | .tag => return .imported ⟨offset, origin, naming, .tag zero, some (← typeUse true)⟩
        | .table => return plain (.table (← tableType))
        | .memory => return plain (.memory (← memoryType))
        | .global => return plain (.global (← globalType))

def localClauses : Parse (List Local) := do
  let clauses ← whilst (secondIsKeyword "local") (parens do keyword "local"; parameters true)
  return clauses.flatten

def funcField : Parse Field := do
  let offset ← here
  keyword "func"
  let naming ← naming
  let exports ← inlineExports
  match ← inlineImport? with
  | some origin => return .func offset naming exports (← typeUse true) (.imported origin)
  | none =>
      let use ← typeUse true
      let locals ← localClauses
      return .func offset naming exports use (.defined locals (← expression))

def elemItem : Parse Expression := parens do
  if ← tryKeyword "item" then expression
  else return [← instruction]

/-- What is in a segment of elements; with a type, expressions may stand in it. -/
def elemPayload (type : Option (RefType Index)) : Parse ElemPayload := do
  match type with
  | some type =>
      if ← atOpening then return .expressions type (← untilEnd elemItem)
      else if ← atEnd then return .expressions type []
      else return .functions (← untilEnd index)
  | none =>
      let _ ← tryKeyword "func"
      return .functions (← untilEnd index)

def tableField : Parse Field := do
  let offset ← here
  keyword "table"
  let naming ← naming
  let exports ← inlineExports
  match ← inlineImport? with
  | some origin => return .table offset naming exports (.imported origin (← tableType))
  | none =>
      let isMarked := ["shared", "i32", "i64"].contains ((← keyword?).getD "")
      if (← atRefType) || (isMarked && (← ahead atRefType)) then
        let isShared ← tryKeyword "shared"
        let is64 ← indexWidth
        let element ← refType
        let payload ← parens do
          keyword "elem"
          elemPayload (if ← atOpening then some element else none)
        return .table offset naming exports (.filled is64 isShared element payload)
      else if isMarked || (← atInteger) then
        let type ← tableType
        let initial ← when? (return !(← atEnd)) expression
        return .table offset naming exports (.defined type initial)
      else unexpected [quoted "shared", quoted "i32", quoted "i64", "reftype", "u64"]

/-- One value of a data segment: a string, or numbers of one type. -/
def dataValue : Parse (List UInt8) := do
  if ← atOpening then
    parens do
      let number (p : Parse Nat) (size : Nat) : Parse (List UInt8) := do
        skip
        let ns ← untilEnd p
        return ns.flatMap fun n => (List.range size).map fun i => (n / Nat.pow 256 i % 256).toUInt8
      match ← keyword? with
      | some "i8" => number (signed "i8" 8) 1
      | some "i16" => number (signed "i16" 16) 2
      | some "i32" => number (signed "i32" 32) 4
      | some "i64" => number (signed "i64" 64) 8
      | some "f32" => number (float .single) 4
      | some "f64" => number (float .double) 8
      | some "v128" => number vectorConstant 16
      | _ => unexpected (["i8", "i16", "i32", "i64", "f32", "f64", "v128"].map quoted)
  else bytes

def dataValues : Parse (List UInt8) := return (← untilEnd dataValue).flatten

def atMemoryData : Parse Bool := do
  match (← head).kind with
  | .opening => return true
  | .keyword "i32" | .keyword "i64" => return isOpening (← second)
  | _ => return false

def memoryField : Parse Field := do
  let offset ← here
  keyword "memory"
  let naming ← naming
  let exports ← inlineExports
  match ← inlineImport? with
  | some origin => return .memory offset naming exports (.imported origin (← memoryType))
  | none =>
      if ← atMemoryData then
        let is64 ← indexWidth
        let pageSizeLog2 ← pageSize
        let bytes ← parens do
          keyword "data"
          dataValues
        return .memory offset naming exports (.filled is64 pageSizeLog2 bytes)
      else
        let word ← keyword?
        if (← atInteger) || word == some "i32" || word == some "i64" then
          return .memory offset naming exports (.defined (← memoryType))
        else unexpected (["left paren", "u32", quoted "i32", quoted "i64"])

def globalField : Parse Field := do
  let offset ← here
  keyword "global"
  let naming ← naming
  let exports ← inlineExports
  match ← inlineImport? with
  | some origin => return .global offset naming exports (← globalType) (.imported origin)
  | none =>
      let type ← globalType
      return .global offset naming exports type (.defined (← expression))

def tagField : Parse Field := do
  let offset ← here
  keyword "tag"
  let naming ← naming
  let exports ← inlineExports
  let origin ← inlineImport?
  return .tag offset naming exports (← typeUse true) origin

def exportField : Parse Field := do
  keyword "export"
  let name ← text
  parens do
    match (← keyword?).bind ExternKind.ofName? with
    | none => unexpected (ExternKind.all.map fun kind => quoted kind.name)
    | some kind =>
        skip
        return .exported name kind (← index)

/-- The table or the memory a segment is copied to, where it is written. -/
def segmentTarget (word : String) : Parse (Option Index) := do
  if ← atInteger then return some (← index)
  else when? (secondIsKeyword word) (parens do keyword word; index)

def atSegmentTarget : Parse Bool := do
  if ← atInteger then return true
  else return (← atOpening) && !(← atRefType)

def elemField : Parse Field := do
  keyword "elem"
  let naming ← naming
  let mode ← do
    if ← tryKeyword "declare" then pure SegmentMode.declared
    else if ← atSegmentTarget then
      let table ← segmentTarget "table"
      pure (SegmentMode.active table (← segmentOffset))
    else pure SegmentMode.passive
  let type ← when? atRefType refType
  return .elem naming mode (← elemPayload type)

def atDataNumbers : Parse Bool := do
  match ← second with
  | .keyword word => return ["i8", "i16", "i32", "i64", "f32", "f64", "v128"].contains word
  | _ => return false

def dataField : Parse Field := do
  keyword "data"
  let naming ← naming
  let mode ← do
    if (← atEnd) || ((← head).kind matches .string _) || (← atDataNumbers) then
      pure SegmentMode.passive
    else
      let memory ← segmentTarget "memory"
      pure (SegmentMode.active memory (← segmentOffset))
  return .data naming mode (← dataValues)

def anchors : List (String × Anchor) :=
  [ ("type", .type), ("import", .imports), ("func", .func), ("table", .table),
    ("memory", .memory), ("global", .global), ("export", .exports), ("start", .start),
    ("elem", .elem), ("code", .code), ("data", .data), ("tag", .tag) ]

def anchor : Parse Anchor := do
  match (← keyword?).bind (List.lookup · anchors) with
  | some anchor => skip; return anchor
  | none => fail "expected a valid custom section anchor"

def place : Parse Place := parens do
  if ← tryKeyword "before" then
    if ← tryKeyword "first" then return .first else return .before (← anchor)
  else if ← tryKeyword "after" then
    if ← tryKeyword "last" then return .last else return .after (← anchor)
  else unexpected [quoted "before", quoted "after"]

def customField : Parse Field := do
  skip
  let name ← text
  let place := (← when? atOpening place).getD .last
  return .custom name place (← untilEnd bytes).flatten

def field : Parse Field := do
  match (← head).kind with
  | .keyword "type" => return .types false [← typeDef]
  | .keyword "rec" => skip; return .types true (← whilst (secondIsKeyword "type") (parens typeDef))
  | .keyword "import" => importField
  | .keyword "func" => funcField
  | .keyword "memory" => memoryField
  | .keyword "table" => tableField
  | .keyword "global" => globalField
  | .keyword "export" => exportField
  | .keyword "start" => skip; return .start (← index)
  | .keyword "elem" => elemField
  | .keyword "data" => dataField
  | .keyword "tag" => tagField
  | .annotated "custom" => customField
  | .annotated "producers" => skip; return .custom "producers" .last (← producers).bytes
  | _ => fail "expected valid module field"

def fields : Parse (List Field) := untilEnd (parens field)

/-- What stands in the parentheses of a module. -/
def module : Parse ModuleText := do
  keyword "module"
  let naming ← naming
  if ← tryKeyword "binary" then return ⟨naming, .binary (← untilEnd bytes).flatten⟩
  else return ⟨naming, .fields (← fields)⟩

/-- A core module in a component.  Nothing else that a component can hold is known here: a field
of another kind (an instance, an alias, a type, a function, an import, an export or a component)
is refused as if there were no such field. -/
def componentField : Parse ModuleText := do
  if (← atKeyword "core") && (← secondIsKeyword "module") then
    skip
    skip
    let naming ← naming
    return ⟨naming, .fields (← fields)⟩
  else fail "expected valid component field"

def component : Parse Script := do
  keyword "component"
  let naming ← naming
  if ← tryKeyword "binary" then return .componentBinary (← untilEnd bytes).flatten
  else return .component naming (← untilEnd (parens componentField))

def isStart : Field → Bool
  | .start _ => true
  | _ => false

def checkStarts (m : ModuleText) : Parse Unit := do
  match m.body with
  | .fields fields =>
      if 1 < fields.countP isStart then fail "multiple start sections found"
  | .binary _ => return ()

def scriptBody : Parse Script := do
  if ← secondIsKeyword "module" then
    let m ← parens module
    checkStarts m
    return .module m
  else if ← secondIsKeyword "component" then parens component
  else
    let m : ModuleText := ⟨{}, .fields (← fields)⟩
    checkStarts m
    return .module m

def wholeScript (isMeaningful : Bool) : Parse Script := do
  if !isMeaningful then
    fail "expected at least one module field"
  let script ← scriptBody
  if (← head).kind matches .finish then return script
  else fail "extra tokens remaining after parse"

/-- The module that a text holds. -/
def script (source : String) : Except TextFault Script :=
  (wholeScript (Token.hasMeaning source) (Token.ofText source)).map (·.1)

end Rerun.Wasm.Text.Parse
