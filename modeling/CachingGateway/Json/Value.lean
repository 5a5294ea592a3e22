/-
JSON values. A number keeps its digits, so that each reader of it decides what fits; an object keeps
its members in order, repeated names included.
-/

import CachingGateway.Number.Binary64
import CachingGateway.Number.Word
import CachingGateway.Text.Ascii

namespace CachingGateway

namespace Json

structure Numeral where
  negative : Bool
  whole : List Char
  fraction : Option (List Char)
  exponent : Option (Bool × List Char)
  deriving DecidableEq, Repr, Inhabited

end Json

/-- A JSON value. A text is absent when its escapes name half of a surrogate pair: such a literal is
well-formed but denotes no text. -/
inductive Json where
  | null
  | bool (value : Bool)
  | number (numeral : Json.Numeral)
  | text (content : Option String)
  | list (elements : List Json)
  | object (members : List (Option String × Json))
  deriving Inhabited

namespace Json

def ofNat (number : Nat) : Json :=
  .number ⟨false, Nat.toDigits 10 number, none, none⟩

def ofInt (number : Int) : Json :=
  .number ⟨number < 0, Nat.toDigits 10 number.natAbs, none, none⟩

def ofText (content : String) : Json :=
  .text (some content)

def ofMembers (members : List (String × Json)) : Json :=
  .object (members.map fun pair => (some pair.1, pair.2))

/-- The last member of a name. -/
def member? (value : Json) (name : String) : Option Json :=
  match value with
  | .object members => (members.reverse.find? fun pair => pair.1 = some name).map Prod.snd
  | _ => none

namespace Numeral

def significandLimit : Nat := Word.greatest64

/-- Appends digits to a significand as long as it fits; what does not fit is left over. -/
def accumulate (significand : Nat) : List Char → Nat × List Char
  | [] => (significand, [])
  | digit :: rest =>
    let next := significand * 10 + (digit.toNat - 48)
    if significandLimit < next then (significand, digit :: rest) else accumulate next rest

def leading (numeral : Numeral) : Nat × List Char :=
  accumulate 0 numeral.whole

/-- The value as a whole number, when it is written as one and fits in sixty-four bits. A minus
before zero makes it a fraction. -/
def integer? (numeral : Numeral) : Option Int :=
  let (significand, overflow) := numeral.leading
  if numeral.fraction.isSome || numeral.exponent.isSome || !overflow.isEmpty then none
  else if numeral.negative then
    if significand = 0 ∨ Word.greatestSigned64 + 1 < significand then none
    else some (-(significand : Int))
  else some significand

def natural? (limit : Nat) (numeral : Numeral) : Option Nat :=
  numeral.integer?.bind fun value =>
    if 0 ≤ value ∧ value ≤ limit then some value.toNat else none

/-- Powers of ten up to this one are divided or multiplied by in a single step. -/
def greatestPower : Nat := 308

/-- Scales a double by a power of ten, each step rounded. Going down takes strides of the greatest
power; going up beyond it, or to an infinity, fails. -/
def scale (fuel : Nat) (value : Binary64) (exponent : Int) : Option Binary64 :=
  if exponent.natAbs ≤ greatestPower then
    let power := Binary64.ofNat (Nat.pow 10 exponent.natAbs)
    if 0 ≤ exponent then
      let product := value * power
      if product.isFinite then some product else none
    else some (value / power)
  else if value = .finite 0 then some value
  else if 0 ≤ exponent then none
  else match fuel with
    | 0 => some (.finite 0)
    | less + 1 =>
      scale less (value / Binary64.ofNat (Nat.pow 10 greatestPower)) (exponent + greatestPower)

/-- The greatest exponent that is read as a number; beyond it only the sign counts. -/
def exponentLimit : Nat := Word.greatestSigned32

def withSign (negative : Bool) (value : Binary64) : Binary64 :=
  if negative then -value else value

/-- The value as a double. The significand and the power of ten are rounded on their own, so the
result can differ from the nearest double in the last place; a value beyond all doubles has none. -/
def binary64? (numeral : Numeral) : Option Binary64 :=
  match numeral.integer? with
  | some value => some (Binary64.ofInt value)
  | none =>
    let (leading, overflow) := numeral.leading
    let fraction := numeral.fraction.getD []
    let (significand, ignored) := accumulate leading fraction
    let shift : Int := (overflow.length : Int) - ((fraction.length - ignored.length : Nat) : Int)
    let scaled (exponent : Int) : Option Binary64 :=
      (scale 40 (Binary64.ofNat significand) exponent).map (withSign numeral.negative)
    match numeral.exponent with
    | none => scaled shift
    | some (below, digits) =>
      let size := digits.foldl (fun total digit => total * 10 + (digit.toNat - 48)) 0
      if exponentLimit < size then
        if significand ≠ 0 ∧ !below then none
        else some (withSign numeral.negative (.finite 0))
      else
        let exponent := if below then shift - size else shift + size
        scaled exponent

end Numeral

end Json

end CachingGateway
