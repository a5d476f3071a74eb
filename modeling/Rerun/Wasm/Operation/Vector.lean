import Rerun.Wasm.Operation.Core

/-! The operations on vectors, which come after the byte 0xfd. -/

namespace Rerun.Wasm.Operation

/-- Rows with consecutive codes after the vector lead byte. -/
def lanes (head : String) (code : Nat) (items : List (String × Op)) : List Operation :=
  items.mapIdx fun i (name, op) => led 0xfd (head ++ name) (code + i) op

def vectors (items : List (String × Vector)) : List (String × Op) :=
  items.map fun (name, v) => (name, .vector v)

def laneCompares (bits : Nat) : List (String × Op) :=
  intCompares.map fun (name, f) => (name, .vector (.binary bits (.compare f)))

def floatLaneCompares (width : Width) : List (String × Op) :=
  floatCompares.map fun (name, f) => (name, .vector (.floatBinary width (.compare f)))

def vectorAccess : List Operation :=
  lanes "v128." 0
    [ ("load", .load (.whole .v128)), ("load8x8_s", .load (.widened 8 true)),
      ("load8x8_u", .load (.widened 8 false)), ("load16x4_s", .load (.widened 16 true)),
      ("load16x4_u", .load (.widened 16 false)), ("load32x2_s", .load (.widened 32 true)),
      ("load32x2_u", .load (.widened 32 false)), ("load8_splat", .load (.splatted 8)),
      ("load16_splat", .load (.splatted 16)), ("load32_splat", .load (.splatted 32)),
      ("load64_splat", .load (.splatted 64)), ("store", .store .v128 128),
      ("const", .const .v128) ]
    ++ lanes "v128." 84
      [ ("load8_lane", .loadLane 8), ("load16_lane", .loadLane 16), ("load32_lane", .loadLane 32),
        ("load64_lane", .loadLane 64), ("store8_lane", .storeLane 8),
        ("store16_lane", .storeLane 16), ("store32_lane", .storeLane 32),
        ("store64_lane", .storeLane 64), ("load32_zero", .load (.zeroExtended 32)),
        ("load64_zero", .load (.zeroExtended 64)) ]

def laneMoves : List Operation :=
  lanes "" 13
    [ ("i8x16.shuffle", .shuffle), ("i8x16.swizzle", .vector .swizzle),
      ("i8x16.splat", .vector (.splat 8 .i32)), ("i16x8.splat", .vector (.splat 16 .i32)),
      ("i32x4.splat", .vector (.splat 32 .i32)), ("i64x2.splat", .vector (.splat 64 .i64)),
      ("f32x4.splat", .vector (.splat 32 .f32)), ("f64x2.splat", .vector (.splat 64 .f64)),
      ("i8x16.extract_lane_s", .extractLane 8 .i32 true),
      ("i8x16.extract_lane_u", .extractLane 8 .i32 false),
      ("i8x16.replace_lane", .replaceLane 8 .i32),
      ("i16x8.extract_lane_s", .extractLane 16 .i32 true),
      ("i16x8.extract_lane_u", .extractLane 16 .i32 false),
      ("i16x8.replace_lane", .replaceLane 16 .i32),
      ("i32x4.extract_lane", .extractLane 32 .i32 false),
      ("i32x4.replace_lane", .replaceLane 32 .i32),
      ("i64x2.extract_lane", .extractLane 64 .i64 false),
      ("i64x2.replace_lane", .replaceLane 64 .i64),
      ("f32x4.extract_lane", .extractLane 32 .f32 false),
      ("f32x4.replace_lane", .replaceLane 32 .f32),
      ("f64x2.extract_lane", .extractLane 64 .f64 false),
      ("f64x2.replace_lane", .replaceLane 64 .f64) ]

def laneComparisons : List Operation :=
  lanes "i8x16." 35 (laneCompares 8) ++ lanes "i16x8." 45 (laneCompares 16)
    ++ lanes "i32x4." 55 (laneCompares 32) ++ lanes "f32x4." 65 (floatLaneCompares .w32)
    ++ lanes "f64x2." 71 (floatLaneCompares .w64)
    ++ lanes "i64x2." 214
      (vectors
        [ ("eq", .binary 64 (.compare .eq)), ("ne", .binary 64 (.compare .ne)),
          ("lt_s", .binary 64 (.compare .ltS)), ("gt_s", .binary 64 (.compare .gtS)),
          ("le_s", .binary 64 (.compare .leS)), ("ge_s", .binary 64 (.compare .geS)) ])

def wholeVector : List Operation :=
  lanes "v128." 77 <| vectors
    [ ("not", .not), ("and", .and), ("andnot", .andnot), ("or", .or), ("xor", .xor),
      ("bitselect", .bitselect), ("any_true", .anyTrue) ]

def shifts (bits : Nat) : List (String × Op) :=
  vectors [("shl", .shift bits .shl), ("shr_s", .shift bits .shrS), ("shr_u", .shift bits .shrU)]

def saturatingSums (bits : Nat) : List (String × Op) :=
  vectors
    [ ("add", .binary bits .add), ("add_sat_s", .binary bits .addSatS),
      ("add_sat_u", .binary bits .addSatU), ("sub", .binary bits .sub),
      ("sub_sat_s", .binary bits .subSatS), ("sub_sat_u", .binary bits .subSatU) ]

def extrema (bits : Nat) : List (String × Op) :=
  vectors
    [ ("min_s", .binary bits .minS), ("min_u", .binary bits .minU),
      ("max_s", .binary bits .maxS), ("max_u", .binary bits .maxU) ]

/-- The four ways to widen the lanes of `bits` of a vector named `source`. -/
def extensions (bits : Nat) (source : String) : List (String × Op) :=
  vectors
    [ ("extend_low_" ++ source ++ "_s", .extend bits false true),
      ("extend_high_" ++ source ++ "_s", .extend bits true true),
      ("extend_low_" ++ source ++ "_u", .extend bits false false),
      ("extend_high_" ++ source ++ "_u", .extend bits true false) ]

def products (bits : Nat) (source : String) : List (String × Op) :=
  vectors
    [ ("extmul_low_" ++ source ++ "_s", .extmul bits false true),
      ("extmul_high_" ++ source ++ "_s", .extmul bits true true),
      ("extmul_low_" ++ source ++ "_u", .extmul bits false false),
      ("extmul_high_" ++ source ++ "_u", .extmul bits true false) ]

def bytes16 : List Operation :=
  lanes "i8x16." 96
      (vectors
        [ ("abs", .unary 8 .abs), ("neg", .unary 8 .neg), ("popcnt", .unary 8 .popcnt),
          ("all_true", .allTrue 8), ("bitmask", .bitmask 8),
          ("narrow_i16x8_s", .narrow 16 true), ("narrow_i16x8_u", .narrow 16 false) ])
    ++ lanes "i8x16." 107 (shifts 8 ++ saturatingSums 8)
    ++ lanes "i8x16." 118 (extrema 8)
    ++ lanes "i8x16." 123 (vectors [("avgr_u", .binary 8 .avgrU)])

def words8 : List Operation :=
  lanes "i16x8." 124
      (vectors
        [ ("extadd_pairwise_i8x16_s", .extaddPairwise 8 true),
          ("extadd_pairwise_i8x16_u", .extaddPairwise 8 false) ])
    ++ lanes "i16x8." 128
      (vectors
        [ ("abs", .unary 16 .abs), ("neg", .unary 16 .neg),
          ("q15mulr_sat_s", .binary 16 .q15mulrSatS), ("all_true", .allTrue 16),
          ("bitmask", .bitmask 16), ("narrow_i32x4_s", .narrow 32 true),
          ("narrow_i32x4_u", .narrow 32 false) ]
        ++ extensions 8 "i8x16" ++ shifts 16 ++ saturatingSums 16)
    ++ lanes "i16x8." 149 (vectors [("mul", .binary 16 .mul)] ++ extrema 16)
    ++ lanes "i16x8." 155 (vectors [("avgr_u", .binary 16 .avgrU)] ++ products 8 "i8x16")

def words4 : List Operation :=
  lanes "i32x4." 126
      (vectors
        [ ("extadd_pairwise_i16x8_s", .extaddPairwise 16 true),
          ("extadd_pairwise_i16x8_u", .extaddPairwise 16 false) ])
    ++ lanes "i32x4." 160 (vectors [("abs", .unary 32 .abs), ("neg", .unary 32 .neg)])
    ++ lanes "i32x4." 163 (vectors [("all_true", .allTrue 32), ("bitmask", .bitmask 32)])
    ++ lanes "i32x4." 167
      (extensions 16 "i16x8" ++ shifts 32 ++ vectors [("add", .binary 32 .add)])
    ++ lanes "i32x4." 177 (vectors [("sub", .binary 32 .sub)])
    ++ lanes "i32x4." 181
      (vectors [("mul", .binary 32 .mul)] ++ extrema 32 ++ vectors [("dot_i16x8_s", .dot)])
    ++ lanes "i32x4." 188 (products 16 "i16x8")

def words2 : List Operation :=
  lanes "i64x2." 192 (vectors [("abs", .unary 64 .abs), ("neg", .unary 64 .neg)])
    ++ lanes "i64x2." 195 (vectors [("all_true", .allTrue 64), ("bitmask", .bitmask 64)])
    ++ lanes "i64x2." 199
      (extensions 32 "i32x4" ++ shifts 64 ++ vectors [("add", .binary 64 .add)])
    ++ lanes "i64x2." 209 (vectors [("sub", .binary 64 .sub)])
    ++ lanes "i64x2." 213 (vectors [("mul", .binary 64 .mul)])
    ++ lanes "i64x2." 220 (products 32 "i32x4")

def floatLaneBinaries (width : Width) : List (String × Op) :=
  vectors
    [ ("add", .floatBinary width (.arithmetic .add)),
      ("sub", .floatBinary width (.arithmetic .sub)),
      ("mul", .floatBinary width (.arithmetic .mul)),
      ("div", .floatBinary width (.arithmetic .div)),
      ("min", .floatBinary width (.arithmetic .min)),
      ("max", .floatBinary width (.arithmetic .max)),
      ("pmin", .floatBinary width .pmin), ("pmax", .floatBinary width .pmax) ]

def floatLanes : List Operation :=
  lanes "" 94
      (vectors [("f32x4.demote_f64x2_zero", .demoteZero), ("f64x2.promote_low_f32x4", .promoteLow)])
    ++ lanes "f32x4." 103
      (vectors
        [ ("ceil", .floatUnary .w32 .ceil), ("floor", .floatUnary .w32 .floor),
          ("trunc", .floatUnary .w32 .trunc), ("nearest", .floatUnary .w32 .nearest) ])
    ++ lanes "f64x2." 116
      (vectors [("ceil", .floatUnary .w64 .ceil), ("floor", .floatUnary .w64 .floor)])
    ++ lanes "f64x2." 122 (vectors [("trunc", .floatUnary .w64 .trunc)])
    ++ lanes "f64x2." 148 (vectors [("nearest", .floatUnary .w64 .nearest)])
    ++ lanes "f32x4." 224
      (vectors [("abs", .floatUnary .w32 .abs), ("neg", .floatUnary .w32 .neg)])
    ++ lanes "f32x4." 227 (vectors [("sqrt", .floatUnary .w32 .sqrt)] ++ floatLaneBinaries .w32)
    ++ lanes "f64x2." 236
      (vectors [("abs", .floatUnary .w64 .abs), ("neg", .floatUnary .w64 .neg)])
    ++ lanes "f64x2." 239 (vectors [("sqrt", .floatUnary .w64 .sqrt)] ++ floatLaneBinaries .w64)
    ++ lanes "" 248
      (vectors
        [ ("i32x4.trunc_sat_f32x4_s", .truncSat32 true),
          ("i32x4.trunc_sat_f32x4_u", .truncSat32 false),
          ("f32x4.convert_i32x4_s", .convert32 true),
          ("f32x4.convert_i32x4_u", .convert32 false),
          ("i32x4.trunc_sat_f64x2_s_zero", .truncSat64Zero true),
          ("i32x4.trunc_sat_f64x2_u_zero", .truncSat64Zero false),
          ("f64x2.convert_low_i32x4_s", .convertLow32 true),
          ("f64x2.convert_low_i32x4_u", .convertLow32 false) ])

/-- Operations whose result is left open within bounds; here it is that of the strict
operation wherever there is one. -/
def relaxed : List Operation :=
  lanes "" 0x100 <| vectors
    [ ("i8x16.relaxed_swizzle", .swizzle),
      ("i32x4.relaxed_trunc_f32x4_s", .truncSat32 true),
      ("i32x4.relaxed_trunc_f32x4_u", .truncSat32 false),
      ("i32x4.relaxed_trunc_f64x2_s_zero", .truncSat64Zero true),
      ("i32x4.relaxed_trunc_f64x2_u_zero", .truncSat64Zero false),
      ("f32x4.relaxed_madd", .relaxedMadd .w32 false),
      ("f32x4.relaxed_nmadd", .relaxedMadd .w32 true),
      ("f64x2.relaxed_madd", .relaxedMadd .w64 false),
      ("f64x2.relaxed_nmadd", .relaxedMadd .w64 true),
      ("i8x16.relaxed_laneselect", .laneselect), ("i16x8.relaxed_laneselect", .laneselect),
      ("i32x4.relaxed_laneselect", .laneselect), ("i64x2.relaxed_laneselect", .laneselect),
      ("f32x4.relaxed_min", .floatBinary .w32 (.arithmetic .min)),
      ("f32x4.relaxed_max", .floatBinary .w32 (.arithmetic .max)),
      ("f64x2.relaxed_min", .floatBinary .w64 (.arithmetic .min)),
      ("f64x2.relaxed_max", .floatBinary .w64 (.arithmetic .max)),
      ("i16x8.relaxed_q15mulr_s", .binary 16 .q15mulrSatS),
      ("i16x8.relaxed_dot_i8x16_i7x16_s", .relaxedDot),
      ("i32x4.relaxed_dot_i8x16_i7x16_add_s", .relaxedDotAdd) ]

def vector : List Operation :=
  vectorAccess ++ laneMoves ++ laneComparisons ++ wholeVector ++ bytes16 ++ words8 ++ words4
    ++ words2 ++ floatLanes ++ relaxed

end Rerun.Wasm.Operation
