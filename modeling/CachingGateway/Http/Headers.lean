/-
Header fields of a message: an ordered multimap from case-insensitive names to byte values. Values
of one name keep the order in which they were appended.
-/

import CachingGateway.Text.Octets

namespace CachingGateway

def isTokenChar (character : Char) : Bool :=
  Ascii.isAlphanumeric character || "!#$%&'*+-.^_\x60|~".toList.contains character

/-- A header name: a token in lower case. -/
structure HeaderName where
  text : List Char
  deriving DecidableEq, Repr

namespace HeaderName

def ofText? (text : String) : Option HeaderName :=
  let characters := text.toList
  if characters.isEmpty || 65535 < characters.length || !characters.all isTokenChar then none
  else some ⟨Ascii.lower characters⟩

def ofLiteral (text : String) : HeaderName :=
  ⟨text.toList⟩

end HeaderName

def isHeaderByte (octet : UInt8) : Bool :=
  (32 ≤ octet && octet != 127) || octet == 9

structure HeaderField where
  name : HeaderName
  value : Octets
  deriving DecidableEq, Repr

/-- Header fields in the order in which they were appended. -/
structure Headers where
  fields : List HeaderField
  deriving DecidableEq, Repr, Inhabited

namespace Headers

def empty : Headers := ⟨[]⟩

def values (headers : Headers) (name : HeaderName) : List Octets :=
  (headers.fields.filter fun field => field.name = name).map HeaderField.value

def first? (headers : Headers) (name : HeaderName) : Option Octets :=
  (headers.fields.find? fun field => field.name = name).map HeaderField.value

def firstText? (headers : Headers) (name : HeaderName) : Option (List Char) :=
  (headers.first? name).bind Octets.visible?

def contains (headers : Headers) (name : HeaderName) : Bool :=
  headers.fields.any fun field => field.name = name

def append (headers : Headers) (name : HeaderName) (value : Octets) : Headers :=
  ⟨headers.fields ++ [⟨name, value⟩]⟩

def remove (headers : Headers) (name : HeaderName) : Headers :=
  ⟨headers.fields.filter fun field => field.name ≠ name⟩

def replace (headers : Headers) (name : HeaderName) (value : Octets) : Headers :=
  (headers.remove name).append name value

def removeAll (headers : Headers) (names : List HeaderName) : Headers :=
  names.foldl remove headers

def size (headers : Headers) : Nat :=
  headers.fields.foldr (fun field size => field.name.text.length + field.value.length + size) 0

end Headers

end CachingGateway
