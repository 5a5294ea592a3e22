/-
Reading JSON text. Each reader takes what it wants from the front and passes the rest on. The fuel
of the nested readers is the length of the text: every step of theirs consumes a character.
-/

import CachingGateway.Json.Quoted
import CachingGateway.Json.Value

namespace CachingGateway.Json

def isBlank (character : Char) : Bool :=
  character = ' ' || character = '\n' || character = '\t' || character = '\r'

def skipBlank (text : List Char) : List Char :=
  text.dropWhile isBlank

def string? (text : List Char) : Option (Option String × List Char) :=
  (Quoted.units? text).map fun found => ((Quoted.join? found.1).map String.ofList, found.2)

def exponent? (text : List Char) : Option (Option (Bool × List Char) × List Char) :=
  match text with
  | mark :: rest =>
    if mark = 'e' ∨ mark = 'E' then
      let negative := rest.head? = some '-'
      let digitsAndRest := match rest with
        | '-' :: after => after
        | '+' :: after => after
        | after => after
      let digits := digitsAndRest.takeWhile Ascii.isDigit
      if digits.isEmpty then none
      else some (some (negative, digits), digitsAndRest.dropWhile Ascii.isDigit)
    else some (none, text)
  | [] => some (none, text)

def fraction? (text : List Char) : Option (Option (List Char) × List Char) :=
  match text with
  | '.' :: rest =>
    let digits := rest.takeWhile Ascii.isDigit
    if digits.isEmpty then none else some (some digits, rest.dropWhile Ascii.isDigit)
  | _ => some (none, text)

/-- A number. Its whole part is zero or does not begin with zero. -/
def numeral? (text : List Char) : Option (Numeral × List Char) := do
  let negative := text.head? = some '-'
  let unsigned := if negative then text.drop 1 else text
  let whole := unsigned.takeWhile Ascii.isDigit
  if whole.isEmpty || (whole.head? = some '0' && 1 < whole.length) then none
  else do
    let (fraction, afterFraction) ← fraction? (unsigned.dropWhile Ascii.isDigit)
    let (exponent, rest) ← exponent? afterFraction
    pure (⟨negative, whole, fraction, exponent⟩, rest)

def word? (word : String) (text : List Char) : Option (List Char) :=
  let letters := word.toList
  if text.take letters.length = letters then some (text.drop letters.length) else none

mutual

def value? (fuel : Nat) (text : List Char) : Option (Json × List Char) :=
  match fuel with
  | 0 => none
  | less + 1 =>
    match skipBlank text with
    | [] => none
    | '"' :: rest => (string? rest).map fun found => (.text found.1, found.2)
    | '[' :: rest =>
      match skipBlank rest with
      | ']' :: after => some (.list [], after)
      | _ => (elements? less rest).map fun found => (.list found.1, found.2)
    | '{' :: rest =>
      match skipBlank rest with
      | '}' :: after => some (.object [], after)
      | _ => (members? less rest).map fun found => (.object found.1, found.2)
    | 'n' :: rest => (word? "ull" rest).map fun after => (.null, after)
    | 't' :: rest => (word? "rue" rest).map fun after => (.bool true, after)
    | 'f' :: rest => (word? "alse" rest).map fun after => (.bool false, after)
    | other => (numeral? other).map fun found => (.number found.1, found.2)

def elements? (fuel : Nat) (text : List Char) : Option (List Json × List Char) :=
  match fuel with
  | 0 => none
  | less + 1 => do
    let (element, rest) ← value? less text
    match skipBlank rest with
    | ',' :: after => do
      let (elements, behind) ← elements? less after
      pure (element :: elements, behind)
    | ']' :: after => pure ([element], after)
    | _ => none

def members? (fuel : Nat) (text : List Char) :
    Option (List (Option String × Json) × List Char) :=
  match fuel with
  | 0 => none
  | less + 1 =>
    match skipBlank text with
    | '"' :: opened => do
      let (name, afterName) ← string? opened
      match skipBlank afterName with
      | ':' :: afterColon => do
        let (value, rest) ← value? less afterColon
        match skipBlank rest with
        | ',' :: after => do
          let (members, behind) ← members? less after
          pure ((name, value) :: members, behind)
        | '}' :: after => pure ([(name, value)], after)
        | _ => none
      | _ => none
    | _ => none

end

def parse? (text : String) : Option Json :=
  let characters := text.toList
  match value? (characters.length + 1) characters with
  | some (value, rest) => if (skipBlank rest).isEmpty then some value else none
  | none => none

end CachingGateway.Json
