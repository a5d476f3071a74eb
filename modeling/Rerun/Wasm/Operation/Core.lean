import Rerun.Wasm.Operation

/-! The instruction set without vectors and atomic accesses. -/

namespace Rerun.Wasm.Operation

def single (name : String) (code : Nat) (op : Op) : Operation := ⟨name, none, code, op⟩

def led (lead : UInt8) (name : String) (code : Nat) (op : Op) : Operation :=
  ⟨name, some lead, code, op⟩

/-- Rows with consecutive codes. -/
def series (head : String) (code : Nat) (items : List (String × Op)) : List Operation :=
  items.mapIdx fun i (name, op) => single (head ++ name) (code + i) op

def control : List Operation :=
  [ single "unreachable" 0x00 .unreachable, single "nop" 0x01 .nop,
    single "block" 0x02 .block, single "loop" 0x03 .loop, single "if" 0x04 .cond,
    single "else" 0x05 .otherwise, single "try" 0x06 .legacyTry,
    single "catch" 0x07 .legacyCatch, single "throw" 0x08 .throw, single "rethrow" 0x09 .rethrow,
    single "throw_ref" 0x0a .throwRef,
    single "end" 0x0b .finish, single "br" 0x0c .br, single "br_if" 0x0d .brIf,
    single "br_table" 0x0e .brTable, single "return" 0x0f .ret, single "call" 0x10 .call,
    single "call_indirect" 0x11 .callIndirect, single "return_call" 0x12 .tailCall,
    single "return_call_indirect" 0x13 .tailCallIndirect, single "call_ref" 0x14 .callRef,
    single "return_call_ref" 0x15 .tailCallRef, single "delegate" 0x18 .delegate,
    single "catch_all" 0x19 .legacyCatchAll, single "drop" 0x1a .drop,
    single "select" 0x1b .select, single "select" 0x1c .selectTyped,
    single "try_table" 0x1f .tryTable, single "br_on_null" 0xd5 .brOnNull,
    single "br_on_non_null" 0xd6 .brOnNonNull ]

def variableAccess : List Operation :=
  [ single "local.get" 0x20 .localGet, single "local.set" 0x21 .localSet,
    single "local.tee" 0x22 .localTee, single "global.get" 0x23 .globalGet,
    single "global.set" 0x24 .globalSet, single "table.get" 0x25 .tableGet,
    single "table.set" 0x26 .tableSet ]

def accesses : List Operation :=
  let part (type : NumType) (bits : Nat) (signed : Bool) : Op := .load (.part type bits signed)
  series "" 0x28
    [ ("i32.load", .load (.whole .i32)), ("i64.load", .load (.whole .i64)),
      ("f32.load", .load (.whole .f32)), ("f64.load", .load (.whole .f64)),
      ("i32.load8_s", part .i32 8 true), ("i32.load8_u", part .i32 8 false),
      ("i32.load16_s", part .i32 16 true), ("i32.load16_u", part .i32 16 false),
      ("i64.load8_s", part .i64 8 true), ("i64.load8_u", part .i64 8 false),
      ("i64.load16_s", part .i64 16 true), ("i64.load16_u", part .i64 16 false),
      ("i64.load32_s", part .i64 32 true), ("i64.load32_u", part .i64 32 false),
      ("i32.store", .store .i32 32), ("i64.store", .store .i64 64),
      ("f32.store", .store .f32 32), ("f64.store", .store .f64 64),
      ("i32.store8", .store .i32 8), ("i32.store16", .store .i32 16),
      ("i64.store8", .store .i64 8), ("i64.store16", .store .i64 16),
      ("i64.store32", .store .i64 32),
      ("memory.size", .memorySize), ("memory.grow", .memoryGrow),
      ("i32.const", .const .i32), ("i64.const", .const .i64),
      ("f32.const", .const .f32), ("f64.const", .const .f64) ]

def intCompares : List (String × IntCompare) :=
  [ ("eq", .eq), ("ne", .ne), ("lt_s", .ltS), ("lt_u", .ltU), ("gt_s", .gtS), ("gt_u", .gtU),
    ("le_s", .leS), ("le_u", .leU), ("ge_s", .geS), ("ge_u", .geU) ]

def floatCompares : List (String × FloatCompare) :=
  [("eq", .eq), ("ne", .ne), ("lt", .lt), ("gt", .gt), ("le", .le), ("ge", .ge)]

def intUnaries : List (String × IntUnary) :=
  [("clz", .clz), ("ctz", .ctz), ("popcnt", .popcnt)]

def intBinaries : List (String × IntBinary) :=
  [ ("add", .add), ("sub", .sub), ("mul", .mul), ("div_s", .divS), ("div_u", .divU),
    ("rem_s", .remS), ("rem_u", .remU), ("and", .and), ("or", .or), ("xor", .xor),
    ("shl", .shl), ("shr_s", .shrS), ("shr_u", .shrU), ("rotl", .rotl), ("rotr", .rotr) ]

def floatUnaries : List (String × FloatUnary) :=
  [ ("abs", .abs), ("neg", .neg), ("ceil", .ceil), ("floor", .floor), ("trunc", .trunc),
    ("nearest", .nearest), ("sqrt", .sqrt) ]

def floatBinaries : List (String × FloatBinary) :=
  [ ("add", .add), ("sub", .sub), ("mul", .mul), ("div", .div), ("min", .min), ("max", .max),
    ("copysign", .copysign) ]

def numbers (items : List (String × α)) (f : α → Numeric) : List (String × Op) :=
  items.map fun (name, a) => (name, .numeric (f a))

def arithmetic : List Operation :=
  series "i32." 0x45 (("eqz", .numeric (.intTest .w32)) :: numbers intCompares (.intCompare .w32))
    ++ series "i64." 0x50
      (("eqz", .numeric (.intTest .w64)) :: numbers intCompares (.intCompare .w64))
    ++ series "f32." 0x5b (numbers floatCompares (.floatCompare .w32))
    ++ series "f64." 0x61 (numbers floatCompares (.floatCompare .w64))
    ++ series "i32." 0x67
      (numbers intUnaries (.intUnary .w32) ++ numbers intBinaries (.intBinary .w32))
    ++ series "i64." 0x79
      (numbers intUnaries (.intUnary .w64) ++ numbers intBinaries (.intBinary .w64))
    ++ series "f32." 0x8b
      (numbers floatUnaries (.floatUnary .w32) ++ numbers floatBinaries (.floatBinary .w32))
    ++ series "f64." 0x99
      (numbers floatUnaries (.floatUnary .w64) ++ numbers floatBinaries (.floatBinary .w64))

def conversions : List Operation :=
  series "" 0xa7 <| numbers
    [ ("i32.wrap_i64", .wrap),
      ("i32.trunc_f32_s", .truncate .w32 .w32 true false),
      ("i32.trunc_f32_u", .truncate .w32 .w32 false false),
      ("i32.trunc_f64_s", .truncate .w32 .w64 true false),
      ("i32.trunc_f64_u", .truncate .w32 .w64 false false),
      ("i64.extend_i32_s", .extend true), ("i64.extend_i32_u", .extend false),
      ("i64.trunc_f32_s", .truncate .w64 .w32 true false),
      ("i64.trunc_f32_u", .truncate .w64 .w32 false false),
      ("i64.trunc_f64_s", .truncate .w64 .w64 true false),
      ("i64.trunc_f64_u", .truncate .w64 .w64 false false),
      ("f32.convert_i32_s", .convert .w32 .w32 true),
      ("f32.convert_i32_u", .convert .w32 .w32 false),
      ("f32.convert_i64_s", .convert .w32 .w64 true),
      ("f32.convert_i64_u", .convert .w32 .w64 false),
      ("f32.demote_f64", .demote),
      ("f64.convert_i32_s", .convert .w64 .w32 true),
      ("f64.convert_i32_u", .convert .w64 .w32 false),
      ("f64.convert_i64_s", .convert .w64 .w64 true),
      ("f64.convert_i64_u", .convert .w64 .w64 false),
      ("f64.promote_f32", .promote),
      ("i32.reinterpret_f32", .reinterpret .f32 .i32),
      ("i64.reinterpret_f64", .reinterpret .f64 .i64),
      ("f32.reinterpret_i32", .reinterpret .i32 .f32),
      ("f64.reinterpret_i64", .reinterpret .i64 .f64),
      ("i32.extend8_s", .intUnary .w32 (.extendSigned 8)),
      ("i32.extend16_s", .intUnary .w32 (.extendSigned 16)),
      ("i64.extend8_s", .intUnary .w64 (.extendSigned 8)),
      ("i64.extend16_s", .intUnary .w64 (.extendSigned 16)),
      ("i64.extend32_s", .intUnary .w64 (.extendSigned 32)) ] id

def references : List Operation :=
  series "" 0xd0
    [ ("ref.null", .refNull), ("ref.is_null", .refIsNull), ("ref.func", .refFunc),
      ("ref.eq", .refEq), ("ref.as_non_null", .refAsNonNull) ]

/-- Rows after the byte 0xfb. -/
def managed : List Operation :=
  let rows : List (String × Op) :=
    [ ("struct.new", .structNew), ("struct.new_default", .structNewDefault),
      ("struct.get", .structGet none), ("struct.get_s", .structGet (some true)),
      ("struct.get_u", .structGet (some false)), ("struct.set", .structSet),
      ("array.new", .arrayNew), ("array.new_default", .arrayNewDefault),
      ("array.new_fixed", .arrayNewFixed), ("array.new_data", .arrayNewData),
      ("array.new_elem", .arrayNewElem), ("array.get", .arrayGet none),
      ("array.get_s", .arrayGet (some true)), ("array.get_u", .arrayGet (some false)),
      ("array.set", .arraySet), ("array.len", .arrayLen), ("array.fill", .arrayFill),
      ("array.copy", .arrayCopy), ("array.init_data", .arrayInitData),
      ("array.init_elem", .arrayInitElem), ("ref.test", .refTest false),
      ("ref.test", .refTest true), ("ref.cast", .refCast false), ("ref.cast", .refCast true),
      ("br_on_cast", .brOnCast false), ("br_on_cast_fail", .brOnCast true),
      ("any.convert_extern", .internalize), ("extern.convert_any", .externalize),
      ("ref.i31", .refI31), ("i31.get_s", .i31Get true), ("i31.get_u", .i31Get false) ]
  rows.mapIdx fun i (name, op) => led 0xfb name i op

/-- Rows after the byte 0xfc. -/
def bulk : List Operation :=
  let saturating (target source : Width) (signed : Bool) : Op :=
    .numeric (.truncate target source signed true)
  let rows : List (String × Op) :=
    [ ("i32.trunc_sat_f32_s", saturating .w32 .w32 true),
      ("i32.trunc_sat_f32_u", saturating .w32 .w32 false),
      ("i32.trunc_sat_f64_s", saturating .w32 .w64 true),
      ("i32.trunc_sat_f64_u", saturating .w32 .w64 false),
      ("i64.trunc_sat_f32_s", saturating .w64 .w32 true),
      ("i64.trunc_sat_f32_u", saturating .w64 .w32 false),
      ("i64.trunc_sat_f64_s", saturating .w64 .w64 true),
      ("i64.trunc_sat_f64_u", saturating .w64 .w64 false),
      ("memory.init", .memoryInit), ("data.drop", .dataDrop), ("memory.copy", .memoryCopy),
      ("memory.fill", .memoryFill), ("table.init", .tableInit), ("elem.drop", .elemDrop),
      ("table.copy", .tableCopy), ("table.grow", .tableGrow), ("table.size", .tableSize),
      ("table.fill", .tableFill) ]
  rows.mapIdx (fun i (name, op) => led 0xfc name i op)
    ++ [ led 0xfc "i64.add128" 0x13 (.wideArithmetic 4), led 0xfc "i64.sub128" 0x14 (.wideArithmetic 4),
      led 0xfc "i64.mul_wide_s" 0x15 (.wideArithmetic 2),
      led 0xfc "i64.mul_wide_u" 0x16 (.wideArithmetic 2) ]

def core : List Operation :=
  control ++ variableAccess ++ accesses ++ arithmetic ++ conversions ++ references ++ managed ++ bulk

end Rerun.Wasm.Operation
