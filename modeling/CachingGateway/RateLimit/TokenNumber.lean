/-
The numbers that tokens are counted in. The service counts in doubles; the same limiter over the
rationals is the law that doubles follow up to rounding.
-/

import CachingGateway.Time.Duration

namespace CachingGateway

/-- Arithmetic that a token bucket can be run over. -/
class TokenNumber (number : Type) extends Add number, Sub number, Mul number, Div number where
  ofNat : Nat → number
  ofDuration : Duration → number
  minimum : number → number → number
  atMost : number → number → Bool
  /-- The length nearest to a number of seconds, if there is one. -/
  toDuration? : number → Option Duration

instance : TokenNumber Binary64 where
  ofNat := Binary64.ofNat
  ofDuration := Duration.toBinary64
  minimum := Binary64.minimum
  atMost := Binary64.atMost
  toDuration? := Duration.ofBinary64?

instance : TokenNumber Rat where
  ofNat count := (count : Rat)
  ofDuration := Duration.toRat
  minimum left right := if left ≤ right then left else right
  atMost left right := left ≤ right
  toDuration? := Duration.ofRat?

end CachingGateway
