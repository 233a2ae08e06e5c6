/-
# HTTP messages, as the two handlers see them

What the handlers read of a request is its method, its query string and its headers; what they do
to the connection is a sequence of calls on `downstream_`.  Such a sequence is ONE response when it
is headers, any number of body pieces, and the end of the message.

`splitNameValuePieces` and `parseQvalues` are proxygen's.
-/
import CallFwd.Dynamic

namespace CallFwd.Http

/-! ## 1. Requests -/

inductive HTTPMethod
  | GET
  | POST
  | other (name : Text)
deriving DecidableEq, Repr

/-- The headers the handlers look at. -/
inductive HTTPHeaderCode
  | contentLength
  | contentType
  | accept
  | other
deriving DecidableEq, Repr

structure HTTPMessage where
  method : HTTPMethod
  query : Text
  headers : List (HTTPHeaderCode × Text)

/-- The functions of proxygen: the names and values of a query string cut at '&' and '=', and the
tokens of an Accept header, the preferred one first. -/
structure Proxygen where
  splitNameValuePieces : Text → List (Text × Text)
  parseQvalues : Text → List Text

/-- `isJsonRequested(accept)`. -/
def isJsonRequested (px : Proxygen) (accept : Text) : Bool :=
  (px.parseQvalues accept).head? == some (Dynamic.text "application/json")

/-- `getSingleOrEmpty(code)`: the value of the only header with this code. -/
def HTTPMessage.getSingleOrEmpty (req : HTTPMessage) (code : HTTPHeaderCode) : Text :=
  match req.headers.filter fun h => decide (h.1 = code) with
  | [h] => h.2
  | _ => []

/-! ## 2. Responses -/

/-- A call on `downstream_`. -/
inductive Sent
  | headers (status : ℕ) (message : String) (contentType : Option String)
  | body (piece : Text)
  | eom
deriving DecidableEq, Repr

/-- `ResponseBuilder(downstream_).status(400, "Bad Request").sendWithEOM()`. -/
def badRequest : List Sent := [.headers 400 "Bad Request" none, .eom]

/-- `ResponseBuilder(downstream_).status(200, "OK").header(..).send()`. -/
def okHeaders (json : Bool) : Sent :=
  .headers 200 "OK" (some (if json then "application/json" else "text/plain"))

/-- The calls make up exactly one response. -/
def IsResponse (out : List Sent) : Prop :=
  ∃ (status : ℕ) (message : String) (contentType : Option String) (pieces : List Text),
    out = .headers status message contentType :: (pieces.map Sent.body ++ [.eom])

/-- The body of what was sent, its pieces put together. -/
def bodyOf (out : List Sent) : Text :=
  out.flatMap fun
    | .body piece => piece
    | _ => []

theorem isResponse_badRequest : IsResponse badRequest :=
  ⟨400, "Bad Request", none, [], rfl⟩

theorem bodyOf_response (h : Sent) (hh : ∀ piece, h ≠ .body piece) (pieces : List Text) :
    bodyOf (h :: (pieces.map Sent.body ++ [.eom])) = pieces.flatten := by
  have hpieces : bodyOf (pieces.map Sent.body) = pieces.flatten := by
    induction pieces with
    | nil => rfl
    | cons p ps ih =>
      rw [List.flatten_cons, ← ih]
      rfl
  cases h with
  | body piece => exact absurd rfl (hh piece)
  | headers | eom =>
    rw [← hpieces]
    simp [bodyOf]

end CallFwd.Http
