import Mathlib.Data.Nat.Digits

/-! Numbers as `basic_json` holds them, and the two conversions between a number and its text:
`strtod`, which the lexer calls for a number with a fraction or an exponent and for an integer
too large for 64 bits, and `to_chars`, with which the serializer writes a `double` (Grisu2, then
`format_buffer`). A `double` here is finite: `json::parse` throws on a number `strtod` takes to
an infinity, and the provider computes no number of its own. -/
namespace Warabi

namespace Json

/-- A finite `double`: its sign bit, its biased exponent field (`2047` would be an infinity or a
NaN) and its fraction field. -/
structure Double where
  negative : Bool
  exponent : Fin 2047
  fraction : Fin (2 ^ 52)
deriving DecidableEq, Repr

/-- A number as `basic_json` stores it: `number_integer_t` (`int64_t`), `number_unsigned_t`
(`uint64_t`) or `number_float_t` (`double`). -/
inductive Number where
  | integer (n : BitVec 64)
  | unsigned (n : UInt64)
  | float (d : Double)
deriving DecidableEq, Repr

def digitChar (d : Nat) : Char := Char.ofNat (48 + d)

def decimal (n : Nat) : List Char :=
  if n = 0 then ['0'] else (Nat.digits 10 n).reverse.map digitChar

def decimalInt (n : Int) : List Char :=
  if n < 0 then '-' :: decimal n.natAbs else decimal n.natAbs

/-! ## `strtod` -/

def digitsValue (ds : List Char) : Nat := ds.foldl (fun acc c => acc * 10 + (c.toNat - 48)) 0

def roundHalfEven (a d : Nat) : Nat :=
  if 2 * (a % d) < d then a / d
  else if d < 2 * (a % d) then a / d + 1
  else if a / d % 2 = 0 then a / d else a / d + 1

def scaleDown (a d : Nat) (q : Int) : Nat × Nat :=
  if 0 ≤ q then (a,d * 2 ^ q.toNat) else (a * 2 ^ (-q).toNat,d)

def atLeastPow2 (a d : Nat) (q : Int) : Bool := (scaleDown a d q).2 ≤ (scaleDown a d q).1

/-- The largest `e < lo + 2^fuel` with `2^e ≤ a / d`, given `2^lo ≤ a / d`, by halving the
interval `fuel` times. -/
def binade (a d : Nat) : (fuel : Nat) → (lo : Int) → Int
  | 0, lo => lo
  | fuel + 1, lo =>
    if atLeastPow2 a d (lo + (2 ^ fuel : Nat)) then binade a d fuel (lo + (2 ^ fuel : Nat)) else binade a d fuel lo

/-- The `double` nearest to `±a / d`, ties to even as in the default rounding mode, or `none`
for an infinity. The significand has 53 bits, taken from the binade of `a / d` (searched in
`[-1022, 1026)`), or fewer below `2^-1022` where the exponent stays at `-1074`; a significand
rounded up to `2^53` moves to the next binade. -/
def roundToDouble (negative : Bool) (a d : Nat) : Option Double :=
  let q := if atLeastPow2 a d (-1022) then binade a d 11 (-1022) - 52 else -1074
  let f := roundHalfEven (scaleDown a d q).1 (scaleDown a d q).2
  let (f,q) := if f = 2 ^ 53 then (2 ^ 52,q + 1) else (f,q)
  let biased := if f < 2 ^ 52 then 0 else (q + 1075).toNat
  if h : biased < 2047 then some ⟨negative,⟨biased,h⟩,⟨f % 2 ^ 52,Nat.mod_lt _ (by decide)⟩⟩ else none

/-- `std::strtod` on a number token whose digits, point dropped, are `digits` and whose exponent,
less the number of fraction digits, is `exponent`: the value rounded. A value of at least
`10^342` is above every `double`, and one below `10^(digits.length + exponent) ≤ 10^-325` is
below half the smallest, so neither needs its power of ten computed. -/
def strtod (negative : Bool) (digits : List Char) (exponent : Int) : Option Double :=
  let mantissa := digitsValue digits
  if mantissa = 0 ∨ (digits.length : Int) + exponent ≤ -325 then roundToDouble negative 0 1
  else if 342 ≤ exponent then none
  else if 0 ≤ exponent then roundToDouble negative (mantissa * 10 ^ exponent.toNat) 1
  else roundToDouble negative mantissa (10 ^ (-exponent).toNat)

set_option exponentiation.threshold 1100 in
example : strtod false "01".data (-1) = some ⟨false,1019,0x999999999999A⟩ := by decide

set_option exponentiation.threshold 1100 in
example : strtod true "17976931348623159".data 292 = none := by decide

/-! ## `to_chars` -/

structure DiyFp where
  f : Nat
  e : Int

namespace DiyFp

def mul (x y : DiyFp) : DiyFp := ⟨(x.f * y.f + 2 ^ 63) / 2 ^ 64,x.e + y.e + 64⟩

def normalize (x : DiyFp) : DiyFp :=
  let shift := (63 - binade x.f 1 6 0).toNat
  ⟨x.f * 2 ^ shift,x.e - shift⟩

def normalizeTo (x : DiyFp) (e : Int) : DiyFp := ⟨x.f * 2 ^ (x.e - e).toNat,e⟩

end DiyFp

/-- `compute_boundaries` of a non-zero `double`: its value `v`, and the midpoints `m-` and `m+`
between it and its neighbours, with `m-` closer when `v` is a power of two above the smallest
binade. `m+` is normalized and `m-` brought to its exponent. -/
def boundaries (d : Double) : DiyFp × DiyFp × DiyFp :=
  let v : DiyFp := if d.exponent.val = 0 then ⟨d.fraction.val,-1074⟩
    else ⟨d.fraction.val + 2 ^ 52,(d.exponent.val : Int) - 1075⟩
  let mMinus : DiyFp := if d.fraction.val = 0 ∧ 1 < d.exponent.val then ⟨4 * v.f - 1,v.e - 2⟩
    else ⟨2 * v.f - 1,v.e - 1⟩
  let wPlus := DiyFp.normalize ⟨2 * v.f + 1,v.e - 1⟩
  (v.normalize,mMinus.normalizeTo wPlus.e,wPlus)

structure CachedPower where
  f : Nat
  e : Int
  k : Int

def cachedPowers : List CachedPower :=
  [CachedPower.mk 0xAB70FE17C79AC6CA (-1060) (-300),CachedPower.mk 0xFF77B1FCBEBCDC4F (-1034) (-292),
   CachedPower.mk 0xBE5691EF416BD60C (-1007) (-284),CachedPower.mk 0x8DD01FAD907FFC3C (-980) (-276),
   CachedPower.mk 0xD3515C2831559A83 (-954) (-268),CachedPower.mk 0x9D71AC8FADA6C9B5 (-927) (-260),
   CachedPower.mk 0xEA9C227723EE8BCB (-901) (-252),CachedPower.mk 0xAECC49914078536D (-874) (-244),
   CachedPower.mk 0x823C12795DB6CE57 (-847) (-236),CachedPower.mk 0xC21094364DFB5637 (-821) (-228),
   CachedPower.mk 0x9096EA6F3848984F (-794) (-220),CachedPower.mk 0xD77485CB25823AC7 (-768) (-212),
   CachedPower.mk 0xA086CFCD97BF97F4 (-741) (-204),CachedPower.mk 0xEF340A98172AACE5 (-715) (-196),
   CachedPower.mk 0xB23867FB2A35B28E (-688) (-188),CachedPower.mk 0x84C8D4DFD2C63F3B (-661) (-180),
   CachedPower.mk 0xC5DD44271AD3CDBA (-635) (-172),CachedPower.mk 0x936B9FCEBB25C996 (-608) (-164),
   CachedPower.mk 0xDBAC6C247D62A584 (-582) (-156),CachedPower.mk 0xA3AB66580D5FDAF6 (-555) (-148),
   CachedPower.mk 0xF3E2F893DEC3F126 (-529) (-140),CachedPower.mk 0xB5B5ADA8AAFF80B8 (-502) (-132),
   CachedPower.mk 0x87625F056C7C4A8B (-475) (-124),CachedPower.mk 0xC9BCFF6034C13053 (-449) (-116),
   CachedPower.mk 0x964E858C91BA2655 (-422) (-108),CachedPower.mk 0xDFF9772470297EBD (-396) (-100),
   CachedPower.mk 0xA6DFBD9FB8E5B88F (-369) (-92),CachedPower.mk 0xF8A95FCF88747D94 (-343) (-84),
   CachedPower.mk 0xB94470938FA89BCF (-316) (-76),CachedPower.mk 0x8A08F0F8BF0F156B (-289) (-68),
   CachedPower.mk 0xCDB02555653131B6 (-263) (-60),CachedPower.mk 0x993FE2C6D07B7FAC (-236) (-52),
   CachedPower.mk 0xE45C10C42A2B3B06 (-210) (-44),CachedPower.mk 0xAA242499697392D3 (-183) (-36),
   CachedPower.mk 0xFD87B5F28300CA0E (-157) (-28),CachedPower.mk 0xBCE5086492111AEB (-130) (-20),
   CachedPower.mk 0x8CBCCC096F5088CC (-103) (-12),CachedPower.mk 0xD1B71758E219652C (-77) (-4),
   CachedPower.mk 0x9C40000000000000 (-50) (4),CachedPower.mk 0xE8D4A51000000000 (-24) (12),
   CachedPower.mk 0xAD78EBC5AC620000 (3) (20),CachedPower.mk 0x813F3978F8940984 (30) (28),
   CachedPower.mk 0xC097CE7BC90715B3 (56) (36),CachedPower.mk 0x8F7E32CE7BEA5C70 (83) (44),
   CachedPower.mk 0xD5D238A4ABE98068 (109) (52),CachedPower.mk 0x9F4F2726179A2245 (136) (60),
   CachedPower.mk 0xED63A231D4C4FB27 (162) (68),CachedPower.mk 0xB0DE65388CC8ADA8 (189) (76),
   CachedPower.mk 0x83C7088E1AAB65DB (216) (84),CachedPower.mk 0xC45D1DF942711D9A (242) (92),
   CachedPower.mk 0x924D692CA61BE758 (269) (100),CachedPower.mk 0xDA01EE641A708DEA (295) (108),
   CachedPower.mk 0xA26DA3999AEF774A (322) (116),CachedPower.mk 0xF209787BB47D6B85 (348) (124),
   CachedPower.mk 0xB454E4A179DD1877 (375) (132),CachedPower.mk 0x865B86925B9BC5C2 (402) (140),
   CachedPower.mk 0xC83553C5C8965D3D (428) (148),CachedPower.mk 0x952AB45CFA97A0B3 (455) (156),
   CachedPower.mk 0xDE469FBD99A05FE3 (481) (164),CachedPower.mk 0xA59BC234DB398C25 (508) (172),
   CachedPower.mk 0xF6C69A72A3989F5C (534) (180),CachedPower.mk 0xB7DCBF5354E9BECE (561) (188),
   CachedPower.mk 0x88FCF317F22241E2 (588) (196),CachedPower.mk 0xCC20CE9BD35C78A5 (614) (204),
   CachedPower.mk 0x98165AF37B2153DF (641) (212),CachedPower.mk 0xE2A0B5DC971F303A (667) (220),
   CachedPower.mk 0xA8D9D1535CE3B396 (694) (228),CachedPower.mk 0xFB9B7CD9A4A7443C (720) (236),
   CachedPower.mk 0xBB764C4CA7A44410 (747) (244),CachedPower.mk 0x8BAB8EEFB6409C1A (774) (252),
   CachedPower.mk 0xD01FEF10A657842C (800) (260),CachedPower.mk 0x9B10A4E5E9913129 (827) (268),
   CachedPower.mk 0xE7109BFBA19C0C9D (853) (276),CachedPower.mk 0xAC2820D9623BF429 (880) (284),
   CachedPower.mk 0x80444B5E7AA7CF85 (907) (292),CachedPower.mk 0xBF21E44003ACDD2D (933) (300),
   CachedPower.mk 0x8E679C2F5E44FF8F (960) (308),CachedPower.mk 0xD433179D9C8CB841 (986) (316),
   CachedPower.mk 0x9E19DB92B4E31BA9 (1013) (324)]

/-- `get_cached_power_for_binary_exponent(e)`: the cached power whose product with `2^e` has its
exponent in `[-60, -32]`; `78913 / 2^18` approximates `log₁₀ 2`, and the divisions truncate as
C's do. -/
def cachedPowerFor (e : Int) : CachedPower :=
  let f := -61 - e
  let k := (f * 78913).tdiv (2 ^ 18) + if 0 < f then 1 else 0
  cachedPowers.getD ((300 + k + 7).tdiv 8).toNat ⟨0,0,0⟩

def findLargestPow10 (n : Nat) : Nat × Nat :=
  if 1000000000 ≤ n then (10,1000000000)
  else if 100000000 ≤ n then (9,100000000)
  else if 10000000 ≤ n then (8,10000000)
  else if 1000000 ≤ n then (7,1000000)
  else if 100000 ≤ n then (6,100000)
  else if 10000 ≤ n then (5,10000)
  else if 1000 ≤ n then (4,1000)
  else if 100 ≤ n then (3,100)
  else if 10 ≤ n then (2,10)
  else (1,1)

/-- `grisu2_round` on the last digit: decremented while that brings the number closer to `w`.
The source asserts the digit never reaches `0` here, so the digit bounds the rounds. The tests
are the source's, in its order, which keeps every subtraction non-negative. -/
def grisu2Round : (digit dist delta rest tenK : Nat) → Nat
  | 0, _, _, _, _ => 0
  | digit + 1, dist, delta, rest, tenK =>
    if rest < dist ∧ tenK ≤ delta - rest ∧ (rest + tenK < dist ∨ rest + tenK - dist < dist - rest) then
      grisu2Round digit dist delta (rest + tenK) tenK
    else digit + 1

/-- The fraction loop of `grisu2_digit_gen`: one more digit of `p2 · 2^-ne` a round, with
`delta` and `dist` scaled by ten, until the rest `p2` is within `delta`. As `delta` is positive
and `p2` below `2^60`, the loop ends within 19 rounds; `fuel` counts them. Answers the digits and
`-m`, the change to the decimal exponent. -/
def fractionDigits (ne : Nat) : (fuel p2 delta dist m : Nat) → List Nat → List Nat × Int
  | 0, _, _, _, m, buffer => (buffer,-m)
  | fuel + 1, p2, delta, dist, m, buffer =>
    let d := p2 * 10 / 2 ^ ne
    let p2 := p2 * 10 % 2 ^ ne
    if p2 ≤ delta * 10 then (buffer ++ [grisu2Round d (dist * 10) (delta * 10) p2 (2 ^ ne)],-(m + 1 : Nat))
    else fractionDigits ne fuel p2 (delta * 10) (dist * 10) (m + 1) (buffer ++ [d])

/-- The integral loop of `grisu2_digit_gen`: `n` digits of `p1` remain and `pow10 = 10^(n-1)`;
it stops once the rest is within `delta`, and otherwise hands over to the fraction loop. -/
def integralDigits (ne p2 delta dist : Nat) : (n p1 pow10 : Nat) → List Nat → List Nat × Int
  | 0, _, _, buffer => fractionDigits ne 20 p2 delta dist 0 buffer
  | n + 1, p1, pow10, buffer =>
    let d := p1 / pow10
    let p1 := p1 % pow10
    let rest := p1 * 2 ^ ne + p2
    if rest ≤ delta then (buffer ++ [grisu2Round d dist delta rest (pow10 * 2 ^ ne)],n)
    else integralDigits ne p2 delta dist n p1 (pow10 / 10) (buffer ++ [d])

/-- `grisu2_digit_gen`: the digits of a number in `[M-, M+]` close to `w`, all three with the
exponent `-ne`, and the change to the decimal exponent. -/
def digitGen (mMinus w mPlus : DiyFp) : List Nat × Int :=
  let ne := (-mPlus.e).toNat
  let (k,pow10) := findLargestPow10 (mPlus.f / 2 ^ ne)
  integralDigits ne (mPlus.f % 2 ^ ne) (mPlus.f - mMinus.f) (mPlus.f - w.f) k (mPlus.f / 2 ^ ne) pow10 []

/-- `grisu2`: the boundaries scaled by the cached power, narrowed by one unit on each side for
the error of the products, then the digits and the decimal exponent. -/
def grisu2 (d : Double) : List Nat × Int :=
  let (v,mMinus,mPlus) := boundaries d
  let cached := cachedPowerFor mPlus.e
  let c : DiyFp := ⟨cached.f,cached.e⟩
  let wMinus := mMinus.mul c
  let wPlus := mPlus.mul c
  let (digits,exponent) := digitGen ⟨wMinus.f + 1,wMinus.e⟩ (v.mul c) ⟨wPlus.f - 1,wPlus.e⟩
  (digits,-cached.k + exponent)

def appendExponent (e : Int) : List Char :=
  (if e < 0 then '-' else '+') :: if e.natAbs < 10 then ['0',digitChar e.natAbs] else decimal e.natAbs

/-- `format_buffer(buf, len, decimal_exponent, -4, 15)` for `digits · 10^exponent`: digits and
zeros then `.0`, the point among the digits, `0.` and zeros then the digits, or the digits in
scientific notation. -/
def formatBuffer (digits : List Nat) (exponent : Int) : List Char :=
  let buf := digits.map digitChar
  let k : Int := digits.length
  let n := k + exponent
  if k ≤ n ∧ n ≤ 15 then buf ++ List.replicate (n - k).toNat '0' ++ ['.','0']
  else if 0 < n ∧ n ≤ 15 then buf.take n.toNat ++ '.' :: buf.drop n.toNat
  else if -4 < n ∧ n ≤ 0 then '0' :: '.' :: List.replicate (-n).toNat '0' ++ buf
  else if k = 1 then buf ++ 'e' :: appendExponent (n - 1)
  else buf.take 1 ++ '.' :: buf.drop 1 ++ 'e' :: appendExponent (n - 1)

def toChars (d : Double) : List Char :=
  (if d.negative then ['-'] else []) ++
    if d.exponent.val = 0 ∧ d.fraction.val = 0 then ['0','.','0'] else formatBuffer (grisu2 d).1 (grisu2 d).2

set_option exponentiation.threshold 1100 in
example : toChars ⟨false,1019,0x999999999999A⟩ = "0.1".data := by decide

set_option exponentiation.threshold 1100 in
example : toChars ⟨false,1003,0⟩ = "9.5367431640625e-07".data := by decide

end Json

end Warabi
