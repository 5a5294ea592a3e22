/-
Numeric hosts. Version four takes one to four numbers, decimal, octal or hexadecimal, the last of
which fills the places left; version six takes eight groups with at most one gap and may end in four
decimal bytes.
-/

import CachingGateway.Number.Word
import CachingGateway.Text.Ascii

namespace CachingGateway.Address

/-- One number of a version-four address; `none` inside when it has too many bits for any. -/
def number? (text : List Char) : Option (Option Nat) :=
  let bounded (value? : Option Nat) : Option (Option Nat) :=
    value?.map fun value => if value ≤ Word.greatest32 then some value else none
  match text with
  | [] => none
  | ['0'] => some (some 0)
  | '0' :: mark :: digits =>
    if mark = 'x' || mark = 'X' then
      if digits.isEmpty then some (some 0) else bounded (Ascii.number? 16 digits)
    else bounded (Ascii.number? 8 (mark :: digits))
  | digits => bounded (Ascii.number? 10 digits)

/-- The parts of a dotted name, a final empty part left out. -/
def parts (host : List Char) : List (List Char) :=
  let all := Ascii.splitAt '.' host
  if all.getLast? = some [] then all.dropLast else all

/-- The last part of a dotted name reads as a number, or would but for its size. -/
def endsInNumber (host : List Char) : Bool :=
  let all := Ascii.splitAt '.' host
  let last := match all.reverse with
    | [] :: before :: _ => before
    | last :: _ => last
    | [] => []
  (!last.isEmpty && last.all Ascii.isDigit) || (number? last).isSome

def assemble? (numbers : List Nat) : Option Nat :=
  match numbers.reverse with
  | [] => none
  | last :: before =>
    if 3 < before.length ∨ before.any (255 < ·) ∨ Nat.pow 256 (4 - before.length) ≤ last then none
    else
      let leading := before.reverse.zipIdx.map fun (number, place) =>
        number * Nat.pow 256 (3 - place)
      some (leading.foldl (· + ·) last)

def four? (host : List Char) : Option Nat :=
  ((parts host).mapM fun part => (number? part).bind id).bind assemble?

def fourText (address : Nat) : List Char :=
  Ascii.joinWith ['.'] ((List.range 4).map fun place =>
    Nat.toDigits 10 (address / Nat.pow 256 (3 - place) % 256))

def decimalByte? (text : List Char) : Option Nat :=
  if 1 < text.length && text.head? = some '0' then none
  else (Ascii.number? 10 text).filter (· < 256)

def embeddedFour? (text : List Char) : Option (List Nat) :=
  match (Ascii.splitAt '.' text).mapM decimalByte? with
  | some [a, b, c, d] => some [a * 256 + b, c * 256 + d]
  | _ => none

def group? (text : List Char) : Option Nat :=
  if 4 < text.length then none else Ascii.number? 16 text

def groups? (mayEndInFour : Bool) : List (List Char) → Option (List Nat)
  | [] => some []
  | [last] =>
    if mayEndInFour && last.contains '.' then embeddedFour? last
    else (group? last).map fun value => [value]
  | text :: rest => do
    let value ← group? text
    let values ← groups? mayEndInFour rest
    pure (value :: values)

def side? (mayEndInFour : Bool) (text : List Char) : Option (List Nat) :=
  if text.isEmpty then some [] else groups? mayEndInFour (Ascii.splitAt ':' text)

def splitAtGap? : List Char → Option (List Char × List Char)
  | [] => none
  | ':' :: ':' :: rest => some ([], rest)
  | character :: rest => (splitAtGap? rest).map fun sides => (character :: sides.1, sides.2)

/-- A version-six address as eight groups. A gap stands for at least one group of zeros. -/
def six? (text : List Char) : Option (List Nat) :=
  match splitAtGap? text with
  | none => (side? true text).filter fun groups => groups.length = 8
  | some (left, right) => do
    let before ← side? false left
    let after ← side? true right
    if before.length + after.length ≤ 7 then
      pure (before ++ List.replicate (8 - before.length - after.length) 0 ++ after)
    else none

/-- The first longest run of zeros in a list of groups, as a place and a length. -/
def longestZeros (place best bestLength : Nat) : List Nat → Nat × Nat
  | [] => (best, bestLength)
  | group :: rest =>
    let run := ((group :: rest).takeWhile (· = 0)).length
    if bestLength < run then longestZeros (place + 1) place run rest
    else longestZeros (place + 1) best bestLength rest

/-- The shortest text of eight groups: the first longest run of at least two zeros is a gap. -/
def sixText (groups : List Nat) : List Char :=
  let shown (part : List Nat) : List Char :=
    Ascii.joinWith [':'] (part.map fun group => Nat.toDigits 16 group)
  let (place, length) := longestZeros 0 0 0 groups
  if length < 2 then shown groups
  else shown (groups.take place) ++ ':' :: ':' :: shown (groups.drop (place + length))

end CachingGateway.Address
