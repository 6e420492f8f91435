import ContractBuild.Json.Basic
import ContractBuild.Number.Binary64

/-!
# Requests and replies

What is posted to a remote service, and what comes back.
-/

set_option autoImplicit false

namespace ContractBuild

/-- A request: where it is posted, how long an answer may take, and what is sent. -/
structure Request where
  url : Text
  timeout : Binary64
  body : Json

/-- What comes of a request. -/
inductive Reply
  /-- No answer in time. -/
  | overrun
  /-- The exchange failed, for a reason in words. -/
  | failed (reason : Text)
  /-- The system refused the exchange. -/
  | refused (reason : Text)
  /-- An answer with a status, its wording if there is one, and a body; or, if the body is no
  JSON, the reason why not. -/
  | answered (status : Int) (reason : Option Text) (body : Except Text Json)

end ContractBuild
