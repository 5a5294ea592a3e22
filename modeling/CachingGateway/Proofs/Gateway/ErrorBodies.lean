/-
What a client reads in the body of a failure: a JSON object with one member, whose value is the message
of the failure, whatever characters are in it.
-/

import CachingGateway.Gateway.Error
import CachingGateway.Proofs.Json.WrittenTexts

namespace CachingGateway.GatewayError

def bodyTelling (message : String) : Octets :=
  Octets.ofText (Json.ofMembers [("error", Json.ofText message)]).toText

/-- What a client reads in a body: its bytes as UTF-8 and their text as JSON. -/
def readBody? (body : Octets) : Option Json :=
  (Octets.utf8? body).bind Json.parse?

theorem readBody?_bodyTelling (message : String) :
    readBody? (bodyTelling message) = some (.object [(some "error", .text (some message))]) := by
  rw [readBody?, bodyTelling, Octets.utf8?_ofText, Option.bind_some]
  exact Json.parse?_toText_of_texts ("error", message) []

/-- The response to a failure tells its message and nothing else, and a client reads this message in its
body. So it does for every message, also one that is not of this list of failures. -/
theorem error_body_tells_message :
    (∀ error : GatewayError, error.response.body = bodyTelling error.message ∧
      readBody? error.response.body =
        some (.object [(some "error", .text (some error.message))])) ∧
      ∀ message : String, readBody? (bodyTelling message) =
        some (.object [(some "error", .text (some message))]) := by
  refine ⟨fun error => ⟨rfl, ?_⟩, readBody?_bodyTelling⟩
  exact readBody?_bodyTelling error.message

end CachingGateway.GatewayError
