/-
Cache keys. The method, the path, a query that is not empty and the selected header values are
joined into one text; the key is the first half of its digest in hexadecimal.
-/

import CachingGateway.Digest.Sha256
import CachingGateway.Http.Message

namespace CachingGateway

/-- The value of a configured header on a request, under the name as configured. -/
structure VaryValue where
  name : String
  value : String
  deriving DecidableEq, Repr

namespace VaryValue

def ofHeader? (headers : Headers) (configured : String) : Option VaryValue := do
  let name ← HeaderName.ofText? configured
  let value ← headers.firstText? name
  if value.isEmpty then none else pure ⟨configured, String.ofList value⟩

def select (headers : Headers) (configured : List String) : List VaryValue :=
  configured.filterMap (ofHeader? headers)

def text (value : VaryValue) : List Char :=
  value.name.toList ++ ':' :: value.value.toList

end VaryValue

namespace CacheKey

def keptBytes : Nat := 16

def parts (method path query : String) (vary : List VaryValue) : List (List Char) :=
  method.toList :: path.toList ::
    ((if query.isEmpty then [] else [query.toList]) ++ vary.map VaryValue.text)

def text (method path query : String) (vary : List VaryValue) : String :=
  String.ofList (Ascii.joinWith ['|'] (parts method path query vary))

def ofDigest (text : String) : String :=
  String.ofList (Octets.hex ((Sha256.digest (Octets.ofText text)).take keptBytes))

def derive (method path query : String) (vary : List VaryValue) : String :=
  ofDigest (text method path query vary)

def ofRequest (request : Request) (configured : List String) : String :=
  derive request.method.name request.target.path (request.target.query.getD "")
    (VaryValue.select request.headers configured)

end CacheKey

end CachingGateway
