/-
Decimal notation of doubles. Reading rounds the exact decimal once. Writing takes the fewest
significant digits that read back to the same double, the nearest such decimal, and sets them out
without an exponent.
-/

import CachingGateway.Number.Binary64
import CachingGateway.Text.Ascii

namespace CachingGateway.Decimal

def tenPower : Int → Rat
  | .ofNat exponent => (Nat.pow 10 exponent : Rat)
  | .negSucc exponent => mkRat 1 (Nat.pow 10 (exponent + 1))

/-- The double nearest to `digits · 10 ^ exponent`. Beyond the range of doubles the power is not
computed: the result there is zero or an infinity whatever the digits are. -/
def toBinary64 (negative : Bool) (digits : Nat) (exponent : Int) : Binary64 :=
  let size : Int := (Nat.log2 digits : Int) / 4 + exponent
  let width : Int := (Nat.toDigits 10 digits).length + exponent
  if digits = 0 then (if negative then .negativeZero else .finite 0)
  else if 400 < size then .infinite negative
  else if width < -400 then (if negative then .negativeZero else .finite 0)
  else Binary64.ofMagnitude negative (digits * tenPower exponent)

structure Numeral where
  whole : List Char
  fraction : List Char
  exponent : Int
  deriving DecidableEq, Repr

def exponent? : List Char → Option Int
  | '-' :: digits => (Ascii.number? 10 digits).map fun value => -(value : Int)
  | '+' :: digits => (Ascii.number? 10 digits).map Int.ofNat
  | digits => (Ascii.number? 10 digits).map Int.ofNat

/-- An unsigned numeral: digits, a point among or beside them, an optional exponent. At least one
digit stands before or after the point. -/
def numeral? (text : List Char) : Option Numeral := do
  let whole := text.takeWhile Ascii.isDigit
  let afterWhole := text.dropWhile Ascii.isDigit
  let afterPoint := match afterWhole with
    | '.' :: rest => rest
    | _ => []
  let pointed := afterWhole.head? == some '.'
  let fraction := afterPoint.takeWhile Ascii.isDigit
  let rest := if pointed then afterPoint.dropWhile Ascii.isDigit else afterWhole
  if whole.isEmpty && fraction.isEmpty then none
  else match rest with
    | [] => pure ⟨whole, fraction, 0⟩
    | mark :: digits =>
      if mark = 'e' || mark = 'E' then do
        let exponent ← exponent? digits
        pure ⟨whole, fraction, exponent⟩
      else none

def Numeral.toBinary64 (negative : Bool) (numeral : Numeral) : Binary64 :=
  let digits := (numeral.whole ++ numeral.fraction).foldl
    (fun total digit => total * 10 + (digit.toNat - 48)) 0
  Decimal.toBinary64 negative digits (numeral.exponent - numeral.fraction.length)

def binary64? (text : List Char) : Option Binary64 :=
  let negative := text.head? == some '-'
  let body := match text with
    | '-' :: rest => rest
    | '+' :: rest => rest
    | all => all
  let word := Ascii.lower body
  if word = "inf".toList || word = "infinity".toList then some (.infinite negative)
  else if word = "nan".toList then some .nan
  else (numeral? body).map fun numeral => numeral.toBinary64 negative

/-- The exponent of the greatest power of ten that is at most a positive rational, searched from an
estimate by its binade. -/
def decade (value : Rat) : Int :=
  let estimate : Int := Binary64.binade value * 30103 / 100000
  if value < tenPower estimate then estimate - 1
  else if tenPower (estimate + 1) ≤ value then estimate + 1
  else estimate

/-- The decimal with `count` significant digits nearest to a positive double, if one of the two
neighbours on that grid reads back to it. -/
def withDigits? (value : Rat) (count : Nat) : Option (Nat × Int) :=
  let exponent := decade value - (count : Int) + 1
  let grid := tenPower exponent
  let below := (value / grid).floor
  let readsBack (candidate : Int) : Bool :=
    Binary64.ofMagnitude false ((candidate : Rat) * grid) = .finite value
  let lowFits := readsBack below
  let highFits := readsBack (below + 1)
  let lowGap := value - below * grid
  let highGap := (below + 1 : Int) * grid - value
  if lowFits && (!highFits || lowGap < highGap || (lowGap = highGap && below % 2 = 0)) then
    some (below.toNat, exponent)
  else if highFits then some ((below + 1).toNat, exponent)
  else none

def shortest (value : Rat) : Nat × Int :=
  ((List.range 17).findSome? fun fewer => withDigits? value (fewer + 1)).getD (0, 0)

def positional (digits : Nat) (exponent : Int) : List Char :=
  let text := Nat.toDigits 10 digits
  match exponent with
  | .ofNat zeros => text ++ List.replicate zeros '0'
  | .negSucc less =>
    let places := less + 1
    let padded := List.replicate (places + 1 - text.length) '0' ++ text
    let whole := padded.take (padded.length - places)
    let fraction := padded.drop (padded.length - places)
    let kept := (fraction.reverse.dropWhile (· = '0')).reverse
    if kept.isEmpty then whole else whole ++ '.' :: kept

/-- The shortest text of a double that reads back, never with an exponent. -/
def text : Binary64 → List Char
  | .nan => "NaN".toList
  | .infinite negative => if negative then "-inf".toList else "inf".toList
  | .negativeZero => "-0".toList
  | .finite value =>
    if value = 0 then ['0']
    else if value < 0 then
      let decimal := shortest (-value)
      '-' :: positional decimal.1 decimal.2
    else
      let decimal := shortest value
      positional decimal.1 decimal.2

end CachingGateway.Decimal
