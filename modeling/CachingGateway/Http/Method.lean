/-
Request methods and response statuses.
-/

import CachingGateway.Http.Headers

namespace CachingGateway

/-- A request method: a case-sensitive token. -/
structure Method where
  name : String
  deriving DecidableEq, Repr

namespace Method

def get : Method := ⟨"GET"⟩
def head : Method := ⟨"HEAD"⟩

def ofText? (text : String) : Option Method :=
  let characters := text.toList
  if characters.isEmpty || !characters.all isTokenChar then none else some ⟨text⟩

end Method

/-- A response status, a number of three digits. -/
structure Status where
  code : Nat
  deriving DecidableEq, Repr, Inhabited

namespace Status

def ok : Status := ⟨200⟩
def notModified : Status := ⟨304⟩
def notFound : Status := ⟨404⟩
def methodNotAllowed : Status := ⟨405⟩
def tooManyRequests : Status := ⟨429⟩
def internalError : Status := ⟨500⟩
def badGateway : Status := ⟨502⟩
def gatewayTimeout : Status := ⟨504⟩

def ofNat? (code : Nat) : Option Status :=
  if 100 ≤ code ∧ code ≤ 999 then some ⟨code⟩ else none

def isClientError (status : Status) : Bool :=
  400 ≤ status.code && status.code < 500

def isServerError (status : Status) : Bool :=
  500 ≤ status.code && status.code < 600

def text (status : Status) : String :=
  toString status.code

end Status

end CachingGateway
