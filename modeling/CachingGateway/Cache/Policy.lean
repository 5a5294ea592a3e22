/-
What may be stored and for how long. Directives of a response are the trimmed elements of all its
control values that are text. A lifetime comes from the first well-formed maximum age, else from a
date of expiry in the future, else from the default.
-/

import CachingGateway.Cache.Entry
import CachingGateway.Digest.Sha256
import CachingGateway.Number.Word
import CachingGateway.Time.HttpDate

namespace CachingGateway.Policy

def cacheControl : HeaderName := HeaderName.ofLiteral "cache-control"
def expires : HeaderName := HeaderName.ofLiteral "expires"

def directives (headers : Headers) : List (List Char) :=
  (((headers.values cacheControl).filterMap Octets.visible?).flatMap (Ascii.splitAt ',')).map
    Blank.trim |>.filter fun directive => !directive.isEmpty

/-- Only reads are ever stored. -/
def isCacheableMethod (method : Method) : Bool :=
  method = Method.get || method = Method.head

def forbids (directive : List Char) : Bool :=
  Ascii.sameIgnoringCase directive "no-store".toList ||
    Ascii.sameIgnoringCase directive "no-cache".toList ||
    Ascii.sameIgnoringCase directive "private".toList

/-- Errors are not stored, a missing resource excepted. -/
def isCacheableStatus (status : Status) : Bool :=
  !status.isServerError && !(status.isClientError && status ≠ Status.notFound)

def isCacheable (method : Method) (status : Status) (headers : Headers) : Bool :=
  isCacheableMethod method && isCacheableStatus status && !(directives headers).any forbids

def maxAge? (directive : List Char) : Option Nat := do
  let (name, value) ← Ascii.splitOnce? '=' directive
  if Ascii.sameIgnoringCase (Blank.trim name) "max-age".toList then
    Ascii.unsigned? Word.greatest64 (Blank.trim value)
  else none

def remaining? (headers : Headers) (now : WallClock) : Option Duration := do
  let text ← headers.firstText? expires
  let moment ← HttpDate.parse? text
  let difference := moment.since (Moment.ofNanoseconds now.nanoseconds)
  if 0 < difference then pure ⟨difference.toNat⟩ else none

def lifetime (headers : Headers) (default : Duration) (now : WallClock) : Duration :=
  match (directives headers).findSome? maxAge? with
  | some seconds => Duration.ofSeconds seconds
  | none => (remaining? headers now).getD default

/-- The entity tag of a body: its digest in quotes. -/
def entityTag (body : Octets) : String :=
  String.ofList ('"' :: (Octets.hex (Sha256.digest body) ++ ['"']))

end CachingGateway.Policy
