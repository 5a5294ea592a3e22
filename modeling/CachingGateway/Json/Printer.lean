/-
Writing JSON without blanks. A text that denotes nothing is written as an empty one.
-/

import CachingGateway.Json.Quoted
import CachingGateway.Json.Value

namespace CachingGateway.Json

def Numeral.print (numeral : Numeral) : List Char :=
  let sign := if numeral.negative then ['-'] else []
  let fraction := match numeral.fraction with
    | some digits => '.' :: digits
    | none => []
  let exponent := match numeral.exponent with
    | some (negative, digits) => 'e' :: ((if negative then ['-'] else []) ++ digits)
    | none => []
  sign ++ numeral.whole ++ fraction ++ exponent

mutual

def print : Json → List Char
  | .null => "null".toList
  | .bool true => "true".toList
  | .bool false => "false".toList
  | .number numeral => numeral.print
  | .text content => Quoted.quote (content.getD "").toList
  | .list elements => '[' :: printElements elements
  | .object members => '{' :: printMembers members

def printElements : List Json → List Char
  | [] => [']']
  | [last] => print last ++ [']']
  | element :: rest => print element ++ ',' :: printElements rest

def printMembers : List (Option String × Json) → List Char
  | [] => ['}']
  | [(name, value)] => printMember name value ++ ['}']
  | (name, value) :: rest => printMember name value ++ ',' :: printMembers rest

def printMember (name : Option String) (value : Json) : List Char :=
  Quoted.quote (name.getD "").toList ++ ':' :: print value

end

def toText (value : Json) : String :=
  String.ofList (print value)

end CachingGateway.Json
