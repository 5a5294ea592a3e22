/-
The flags of the command line: their words, their letters and how they are shown, and which of them
a mistaken word was most likely meant to be.
-/

import CachingGateway.Text.Similarity

namespace CachingGateway.CommandLine

inductive Flag where
  | config
  | help
  | version
  deriving DecidableEq, Repr

namespace Flag

def all : List Flag := [config, help, version]

def word : Flag → String
  | config => "config"
  | help => "help"
  | version => "version"

def letter : Flag → Char
  | config => 'c'
  | help => 'h'
  | version => 'V'

def shown (flag : Flag) : String :=
  match flag with
  | config => "--config <CONFIG>"
  | help => "--help"
  | version => "--version"

def ofWord? (word : List Char) : Option Flag :=
  all.find? fun flag => flag.word.toList = word

def ofLetter? (letter : Char) : Option Flag :=
  all.find? fun flag => flag.letter = letter

/-- Words are alike above this measure. -/
def likenessBound : Rat := 7 / 10

/-- The flag most like a word, of those that are alike enough; of two equally alike the later. -/
def nearest? (word : List Char) : Option Flag :=
  let likeness (flag : Flag) : Rat := Similarity.jaro word flag.word.toList
  (all.filter fun flag => likenessBound < likeness flag).foldl
    (fun best flag =>
      match best with
      | some earlier => if likeness earlier ≤ likeness flag then some flag else some earlier
      | none => some flag)
    none

end Flag

end CachingGateway.CommandLine
