import Storefront.Failure
import Storefront.Http.Address
import Storefront.Trace.Carrier

/-!
# Mail over HTTP

Confirmations that are posted to a mail service elsewhere. The address of the service is kept
without slashes at its end. An answer with a status from 200 to 299 means that the confirmation was
sent; every other answer is a failure with the status and the text of the answer, and no answer is a
failure that names the address.
-/

namespace Storefront

/-- The address of a mail service. -/
structure RemoteMail where
  base : String
  deriving DecidableEq

/-- A message to a web service. -/
structure Posting where
  url : String
  fields : HeaderFields
  body : String

namespace RemoteMail

/-- The service at an address. -/
def ofAddress (address : String) : RemoteMail :=
  ⟨String.ofList (Text.dropTail (· == '/') address.toList)⟩

/-- Where confirmations are posted. -/
def endpoint (m : RemoteMail) : String :=
  m.base ++ "/send_order_confirmation"

/-- What is posted for a confirmation on behalf of a context. -/
def posting (m : RemoteMail) (confirmation : Confirmation) (context : Context) : Posting where
  url := m.endpoint
  fields :=
    Carrier.set (inject context HeaderFields.empty) "content-type" "application/json"
  body := confirmation.toJson.text

/-- Why nothing comes back from an address: it cannot be asked, or nobody answers there. -/
def unanswered (url : String) : TransportError :=
  match WebAddress.parse? url with
  | none => .encode "builder error"
  | some address =>
      if address.isSendable then
        .unavailable ("error sending request for url (" ++ address.text ++ ")")
      else .encode ("builder error for url (" ++ address.text ++ ")")

/-- What is asked for at an address, if it can be asked. -/
def target? (url : String) : Option String := do
  let address ← WebAddress.parse? url
  if address.isSendable then some address.target else none

/-- Answers with such a status have no text. -/
def isTextless (status : Nat) : Bool :=
  status = 101 || status = 204 || status = 304

/-- Answers with such a status say that another answer will follow. -/
def isInterim (status : Nat) : Bool :=
  100 ≤ status && status < 200 && status != 101

/-- The text of an answer, without a byte order mark at its start. -/
def answerText (status : Nat) (text : String) : String :=
  if isTextless status then ""
  else
    match text.toList with
    | c :: rest => if c.toNat = 0xFEFF then String.ofList rest else text
    | [] => ""

/-- What the only answer to a posting means. -/
def outcome (url : String) (status : Nat) (text : String) : Except TransportError Unit :=
  if 200 ≤ status ∧ status < 300 then .ok ()
  else if isInterim status then .error (unanswered url)
  else .error (.status status (answerText status text))

end RemoteMail

end Storefront
