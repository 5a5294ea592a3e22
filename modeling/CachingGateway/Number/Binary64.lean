/-
Binary floating point with fifty-three significant bits, read as exact rationals. Every operation
is the exact rational operation followed by one rounding to the nearest representable value, a tie
going to the even neighbour; overflow gives an infinity and an invalid operation gives NaN.
-/

namespace CachingGateway

def nearestEven (value : Rat) : Int :=
  let below := value.floor
  let rest := value - below
  if rest < 1 / 2 then below
  else if 1 / 2 < rest then below + 1
  else if below % 2 = 0 then below
  else below + 1

def twoPower : Int → Rat
  | .ofNat exponent => (Nat.pow 2 exponent : Rat)
  | .negSucc exponent => mkRat 1 (Nat.pow 2 (exponent + 1))

/-- A double: a NaN, an infinity, the zero below zero, or a rational. -/
inductive Binary64 where
  | nan
  | infinite (negative : Bool)
  | negativeZero
  | finite (value : Rat)
  deriving DecidableEq, Repr

namespace Binary64

/-- The exponent of the greatest power of two that is at most a positive rational. -/
def binade (value : Rat) : Int :=
  let guess : Int := (Nat.log2 value.num.natAbs : Int) - (Nat.log2 value.den : Int)
  if value < twoPower guess then guess - 1 else guess

/-- The exponent of the spacing of doubles at a positive rational. -/
def spacing (value : Rat) : Int :=
  max (binade value - 52) (-1074)

def overflowBound : Rat := twoPower 1024

/-- The nearest point of the double grid to a positive rational, overflow left aside. -/
def nearestOnGrid (value : Rat) : Rat :=
  let unit := spacing value
  (nearestEven (value * twoPower (-unit)) : Rat) * twoPower unit

def ofMagnitude (negative : Bool) (magnitude : Rat) : Binary64 :=
  let rounded := if magnitude = 0 then 0 else nearestOnGrid magnitude
  if overflowBound ≤ rounded then infinite negative
  else if rounded = 0 then (if negative then negativeZero else finite 0)
  else finite (if negative then -rounded else rounded)

/-- Rounds a rational to the nearest double; a zero result keeps the sign of the value. -/
def round (value : Rat) : Binary64 :=
  if value < 0 then ofMagnitude true (-value) else ofMagnitude false value

def ofNat (number : Nat) : Binary64 :=
  round (number : Rat)

def ofInt (number : Int) : Binary64 :=
  round (number : Rat)

def isNegative : Binary64 → Bool
  | nan => false
  | infinite negative => negative
  | negativeZero => true
  | finite value => value < 0

def isFinite : Binary64 → Bool
  | nan => false
  | infinite _ => false
  | negativeZero => true
  | finite _ => true

def toRat? : Binary64 → Option Rat
  | nan => none
  | infinite _ => none
  | negativeZero => some 0
  | finite value => some value

def neg : Binary64 → Binary64
  | nan => nan
  | infinite negative => infinite (!negative)
  | negativeZero => finite 0
  | finite value => if value = 0 then negativeZero else finite (-value)

def signed (negative : Bool) (value : Rat) : Binary64 :=
  if value = 0 then (if negative then negativeZero else finite 0) else round value

def addFinite (left right : Rat) (bothNegativeZero : Bool) : Binary64 :=
  signed bothNegativeZero (left + right)

def add : Binary64 → Binary64 → Binary64
  | nan, _ => nan
  | _, nan => nan
  | infinite left, infinite right => if left = right then infinite left else nan
  | infinite left, _ => infinite left
  | _, infinite right => infinite right
  | negativeZero, negativeZero => negativeZero
  | negativeZero, finite right => addFinite 0 right false
  | finite left, negativeZero => addFinite left 0 false
  | finite left, finite right => addFinite left right false

def sub (left right : Binary64) : Binary64 :=
  add left (neg right)

def mul (left right : Binary64) : Binary64 :=
  let negative := left.isNegative != right.isNegative
  match left, right with
  | nan, _ => nan
  | _, nan => nan
  | infinite _, other =>
    if other = finite 0 ∨ other = negativeZero then nan else infinite negative
  | other, infinite _ =>
    if other = finite 0 ∨ other = negativeZero then nan else infinite negative
  | negativeZero, _ => signed negative 0
  | _, negativeZero => signed negative 0
  | finite first, finite second => signed negative (first * second)

def div (left right : Binary64) : Binary64 :=
  let negative := left.isNegative != right.isNegative
  match left, right with
  | nan, _ => nan
  | _, nan => nan
  | infinite _, infinite _ => nan
  | infinite _, _ => infinite negative
  | _, infinite _ => signed negative 0
  | negativeZero, divisor =>
    if divisor = finite 0 ∨ divisor = negativeZero then nan else signed negative 0
  | finite dividend, negativeZero => if dividend = 0 then nan else infinite negative
  | finite dividend, finite divisor =>
    if divisor = 0 then (if dividend = 0 then nan else infinite negative)
    else signed negative (dividend / divisor)

instance : Add Binary64 := ⟨add⟩
instance : Sub Binary64 := ⟨sub⟩
instance : Mul Binary64 := ⟨mul⟩
instance : Div Binary64 := ⟨div⟩
instance : Neg Binary64 := ⟨neg⟩

/-- The order of doubles; a NaN is on neither side of anything. -/
def less : Binary64 → Binary64 → Bool
  | nan, _ => false
  | _, nan => false
  | infinite left, infinite right => left && !right
  | infinite left, _ => left
  | _, infinite right => !right
  | negativeZero, negativeZero => false
  | negativeZero, finite right => 0 < right
  | finite left, negativeZero => left < 0
  | finite left, finite right => left < right

def same : Binary64 → Binary64 → Bool
  | nan, _ => false
  | negativeZero, finite right => right = 0
  | finite left, negativeZero => left = 0
  | left, right => left = right

def atMost (left right : Binary64) : Bool :=
  less left right || same left right

/-- The smaller of two doubles; a NaN gives way to the other. -/
def minimum (left right : Binary64) : Binary64 :=
  if left = nan then right
  else if right = nan then left
  else if less right left then right
  else left

def signBit : Nat := 0x8000000000000000

def hiddenBit : Nat := 0x10000000000000

/-- The sixty-four bits; there is one NaN, the quiet one. -/
def toBits : Binary64 → Nat
  | nan => 0x7ff8000000000000
  | infinite negative => (if negative then signBit else 0) + 0x7ff0000000000000
  | negativeZero => signBit
  | finite value =>
    if value = 0 then 0
    else
      let magnitude := if value < 0 then -value else value
      let unit := spacing magnitude
      let significand := (magnitude * twoPower (-unit)).floor.toNat
      let exponent := if significand < hiddenBit then 0 else (unit + 1075).toNat
      (if value < 0 then signBit else 0) + exponent * hiddenBit +
        (if significand < hiddenBit then significand else significand - hiddenBit)

def hexBits (value : Binary64) : String :=
  let digits := Nat.toDigits 16 value.toBits
  String.ofList (List.replicate (16 - digits.length) '0' ++ digits)

def roundHalfAway : Binary64 → Binary64
  | finite value =>
    if value < 0 then signed true (-(((-value) + 1 / 2).floor : Rat))
    else signed false (((value + 1 / 2).floor : Int) : Rat)
  | other => other

def clampToNat (limit : Nat) : Binary64 → Nat
  | nan => 0
  | infinite negative => if negative then 0 else limit
  | negativeZero => 0
  | finite value => min limit value.floor.toNat

end Binary64

end CachingGateway
