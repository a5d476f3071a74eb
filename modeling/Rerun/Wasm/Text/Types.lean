import Rerun.Wasm.Text.Parse

/-! Types as they are written. -/

namespace Rerun.Wasm.Text.Parse

def heapType : Parse (HeapType Index) := do
  if ← atIndex then return .concrete (← index)
  match ← keyword? with
  | some word =>
      match AbstractHeap.ofName? word with
      | some heap => skip; return .abstract heap
      | none => unexpected ["abstract heap type"]
  | none => unexpected ["abstract heap type"]

/-- Whether a reference type is next. -/
def atRefType : Parse Bool := do
  match (← head).kind with
  | .keyword word => return (AbstractHeap.ofReferenceName? word).isSome
  | .opening => secondIsKeyword "ref"
  | _ => return false

def refTypeNames : List String :=
  AbstractHeap.names.map (fun entry => quoted entry.2.2.1) ++ ["left paren"]

def refType : Parse (RefType Index) := do
  match (← head).kind with
  | .keyword word =>
      match AbstractHeap.ofReferenceName? word with
      | some heap => skip; return .ofHeap heap
      | none => unexpected refTypeNames
  | .opening =>
      parens do
        if ← tryKeyword "ref" then
          let nullable ← tryKeyword "null"
          return ⟨nullable, ← heapType⟩
        else unexpected [quoted "ref"]
  | _ => unexpected refTypeNames

def valTypeNames : List String :=
  ["i32", "i64", "f32", "f64", "v128"].map quoted ++ ["reftype"]

def valType : Parse (ValType Index) := do
  match ← keyword? with
  | some "i32" => skip; return .i32
  | some "i64" => skip; return .i64
  | some "f32" => skip; return .f32
  | some "f64" => skip; return .f64
  | some "v128" => skip; return .v128
  | _ => if ← atRefType then return .ref (← refType) else unexpected valTypeNames

/-- Whether a signature is next, that is parameters or results. -/
def atSignature : Parse Bool := do
  if ← atOpening then
    match ← second with
    | .keyword word => return word == "param" || word == "result"
    | _ => return false
  else return false

def parameters (named : Bool) : Parse (List Local) := do
  if ← atEnd then return []
  let naming ← if named then naming else pure {}
  let first : Local := ⟨naming, ← valType⟩
  if naming == {} then
    return first :: (← untilEnd (return ⟨{}, ← valType⟩))
  else return [first]

/-- One clause of a signature, added to what came before. -/
def signatureClause (named : Bool) (s : Signature) : Parse Signature := parens do
  match ← keyword? with
  | some "param" =>
      if !s.results.isEmpty then
        fail "result before parameter (or unexpected token): cannot list params after results"
      skip
      return { s with params := s.params ++ (← parameters named) }
  | some "result" =>
      skip
      return { s with results := s.results ++ (← untilEnd valType) }
  | _ => unexpected [quoted "param", quoted "result"]

def atSignatureClause : Parse Bool := do
  match ← second with
  | .keyword word => return word == "param" || word == "result"
  | _ => return false

def signatureFrom (named : Bool) : Nat → Signature → Parse Signature
  | 0, s => return s
  | fuel + 1, s => do
      if ← atSignatureClause then signatureFrom named fuel (← signatureClause named s)
      else return s

def signature (named : Bool) : Parse Signature := fun tokens =>
  signatureFrom named (tokens.length + 1) ⟨[], []⟩ tokens

def typeUse (named : Bool) : Parse TypeUse := do
  let index ← when? (secondIsKeyword "type") (parens do keyword "type"; index)
  return ⟨index, ← when? atSignature (signature named)⟩

def storageType : Parse (StorageType Index) := do
  if ← tryKeyword "i8" then return .i8
  else if ← tryKeyword "i16" then return .i16
  else return .val (← valType)

def fieldType : Parse (FieldType Index) := do
  if ← secondIsKeyword "mut" then
    parens do
      keyword "mut"
      return ⟨true, ← storageType⟩
  else return ⟨false, ← storageType⟩

/-- Fields of a structure with their names. -/
def structFields : Parse (List (Option Name × FieldType Index)) := do
  let clauses ← untilEnd do
    if ← secondIsKeyword "field" then
      parens do
        keyword "field"
        if ← atEnd then return []
        let name ← name?
        let first := (name, ← fieldType)
        if name.isSome then return [first]
        else return first :: (← untilEnd (return (none, ← fieldType)))
    else return [(none, ← fieldType)]
  return clauses.flatten

def compositeType : Parse (CompositeType Index × List (Option Name)) := do
  match ← keyword? with
  | some "func" => skip; return (.func (← signature true).toFunc, [])
  | some "struct" =>
      skip
      let fields ← structFields
      return (.struct (fields.map (·.2)), fields.map (·.1))
  | some "array" => skip; return (.array (← fieldType), [])
  | _ => unexpected (["func", "struct", "array", "cont"].map quoted)

/-- What stands in the parentheses of a type definition. -/
def subType : Parse (SubType Index × List (Option Name)) := do
  if ← tryKeyword "sub" then
    let isFinal ← tryKeyword "final"
    let parent ← index?
    let (composite, names) ← parens compositeType
    return (⟨isFinal, parent, composite⟩, names)
  else
    let (composite, names) ← compositeType
    return (⟨true, none, composite⟩, names)

def typeDef : Parse TypeDef := do
  keyword "type"
  let naming ← naming
  let (type, names) ← parens subType
  return ⟨naming, type, names⟩

/-- `i64` or `i32`, where one is next. -/
def indexWidth : Parse Bool := do
  if ← tryKeyword "i64" then return true
  else
    let _ ← tryKeyword "i32"
    return false

def limits : Parse Limits := do
  let is64 ← indexWidth
  let minimum ← u64
  let maximum ← when? atInteger u64
  return { is64, minimum, maximum }

/-- The page size of a memory, of which the logarithm is kept. -/
def pageSize : Parse (Option Nat) := do
  if ← secondIsKeyword "pagesize" then
    parens do
      keyword "pagesize"
      let offset ← here
      let n ← u32
      if n.isPowerOfTwo then return some (Nat.log2 n)
      else failAt offset "invalid custom page size: not a power of two"
  else return none

def memoryType : Parse Limits := do
  let limits ← limits
  let isShared ← tryKeyword "shared"
  return { limits with isShared, pageSizeLog2 := ← pageSize }

def tableType : Parse (TableType Index) := do
  let isShared ← tryKeyword "shared"
  let limits ← limits
  return ⟨{ limits with isShared }, ← refType⟩

def globalType : Parse (GlobalType Index) := do
  if (← secondIsKeyword "shared") || (← secondIsKeyword "mut") then
    parens do
      let isShared ← tryKeyword "shared"
      let isMutable ← tryKeyword "mut"
      return ⟨← valType, isMutable, isShared⟩
  else return ⟨← valType, false, false⟩

end Rerun.Wasm.Text.Parse
