/-
ASCII reading of text held as a list of characters: letter case, digits, splitting at a
separator and trimming. Characters above 127 belong to no class here and keep their case.
-/

namespace CachingGateway.Ascii

def isLetter (character : Char) : Bool :=
  ('a' ≤ character && character ≤ 'z') || ('A' ≤ character && character ≤ 'Z')

def isDigit (character : Char) : Bool :=
  '0' ≤ character && character ≤ '9'

def isAlphanumeric (character : Char) : Bool :=
  isLetter character || isDigit character

def lowerChar (character : Char) : Char :=
  if 'A' ≤ character && character ≤ 'Z' then Char.ofNat (character.toNat + 32) else character

def lower (text : List Char) : List Char :=
  text.map lowerChar

def sameIgnoringCase (left right : List Char) : Bool :=
  lower left == lower right

def digitValue? (base : Nat) (character : Char) : Option Nat :=
  let value? :=
    if isDigit character then some (character.toNat - 48)
    else if 'a' ≤ character && character ≤ 'f' then some (character.toNat - 87)
    else if 'A' ≤ character && character ≤ 'F' then some (character.toNat - 55)
    else none
  value?.filter (· < base)

def number? (base : Nat) (digits : List Char) : Option Nat :=
  if digits.isEmpty then none
  else digits.foldl
    (fun total? digit => do
      let total ← total?
      let value ← digitValue? base digit
      pure (total * base + value))
    (some 0)

/-- Reads an unsigned number with an optional plus sign, at most `limit`. -/
def unsigned? (limit : Nat) (text : List Char) : Option Nat :=
  let digits := match text with
    | '+' :: rest => rest
    | all => all
  (number? 10 digits).filter (· ≤ limit)

/-- The elements between separators; an empty text is one empty element. -/
def splitAt (separator : Char) : List Char → List (List Char)
  | [] => [[]]
  | character :: rest =>
    if character = separator then [] :: splitAt separator rest
    else match splitAt separator rest with
      | [] => [[character]]
      | first :: others => (character :: first) :: others

def splitOnce? (separator : Char) : List Char → Option (List Char × List Char)
  | [] => none
  | character :: rest =>
    if character = separator then some ([], rest)
    else (splitOnce? separator rest).map fun parts => (character :: parts.1, parts.2)

def splitLast? (separator : Char) (text : List Char) : Option (List Char × List Char) :=
  (splitOnce? separator text.reverse).map fun parts => (parts.2.reverse, parts.1.reverse)

def joinWith (separator : List Char) : List (List Char) → List Char
  | [] => []
  | [last] => last
  | first :: others => first ++ separator ++ joinWith separator others

def trimWhile (belongs : Char → Bool) (text : List Char) : List Char :=
  ((text.dropWhile belongs).reverse.dropWhile belongs).reverse

def padded (width number : Nat) : List Char :=
  let digits := Nat.toDigits 10 number
  List.replicate (width - digits.length) '0' ++ digits

def hexDigit (value : Nat) : Char :=
  if value < 10 then Char.ofNat (48 + value) else Char.ofNat (87 + value)

def upperHexDigit (value : Nat) : Char :=
  if value < 10 then Char.ofNat (48 + value) else Char.ofNat (55 + value)

end CachingGateway.Ascii
