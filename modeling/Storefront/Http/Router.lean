import Storefront.Http.Answer
import Storefront.Http.MediaType
import Storefront.Http.Target
import Storefront.Shop.Placement

/-!
# The web interface of a shop

Orders are placed by `POST /orders`; `GET /health` and `GET /metrics` tell how the shop is. A method
that a path does not have is refused with a list of those that it has, and any page of any site may
ask. An order is placed only if its body says that it is JSON, is not too long, and can be read.
-/

namespace Storefront.Http

/-- The body of a message from a customer: any bytes. -/
structure Body where
  bytes : List UInt8

/-- A text is sent as its bytes. -/
instance : Coe String Body where
  coe s := ⟨Text.utf8 s⟩

/-- A message from a customer. -/
structure Ask where
  method : String
  target : String
  fields : HeaderFields
  body : Body

/-- The message that answers it. -/
structure Answer where
  status : Nat
  fields : List (String × String)
  body : String
  deriving DecidableEq

/-- How many bytes a body may have. -/
def maxBody : Nat := 2097152

/-- The wording of what is wrong with the content of a body, after the path to it. The position in
the body, which the answer of the service appends as a line and a column, is left out. -/
def contentMessage (path : List PathStep) (problem : Problem) : String :=
  "Failed to deserialize the JSON body into the target type: " ++
    (if path.isEmpty then "" else PathStep.render path ++ ": ") ++ problem.message

/-- The wording of an error in a body. Why a body is no JSON, and where, is left out. -/
def bodyMessage : DecodeError → String
  | .fault _ | .shape _ => "Failed to parse the request body as JSON"
  | .content path problem => contentMessage path problem

/-- The request in a message, or the wording of why it cannot be read. -/
def readOrder (ask : Ask) : Except String OrderRequest :=
  if !(ask.fields.get? "content-type").any MediaType.isJson then
    .error "Expected request with `Content-Type: application/json`"
  else if maxBody < ask.body.bytes.length then
    .error "Failed to buffer the request body: length limit exceeded"
  else (Decoder.bytes OrderRequest.decoder ask.body.bytes).mapError bodyMessage

/-- An answer with a body of JSON. -/
def jsonAnswer (status : Nat) (body : Json) : Answer :=
  ⟨status, [("content-type", "application/json")], body.text⟩

/-- The answer to an order that was not placed, and the line about it if the customer is not to
blame. -/
def refusal (shop : Shop) (error : ServiceError) : Answer × Shop :=
  let line : LogLine := ⟨.error, "order placement failed",
    [("error", error.message), ("status", Text.decimal error.status)]⟩
  (jsonAnswer error.status error.body, if 500 ≤ error.status then shop.say line else shop)

/-- Place the order of a message on behalf of the context in its header. -/
def placeOrder (shop : Shop) (ask : Ask) : Answer × Shop :=
  match readOrder ask with
  | .error message => refusal shop (.badRequest message)
  | .ok request =>
      match shop.place ⟨extract ask.fields, .none⟩ none request with
      | (some (.ok order), shop) =>
          (jsonAnswer 201 order.toJson,
            shop.say ⟨.info, "order accepted", [("order_id", order.id.text)]⟩)
      | (some (.error error), shop) => refusal shop (.placement error)
      | (none, shop) => (⟨504, [], ""⟩, shop)

/-- That the shop is well, and how many tasks are left. -/
def health (shop : Shop) : Answer × Shop :=
  let shop := shop.reap
  (jsonAnswer 200
    (.obj [("status", .str "ok"), ("pending_background_tasks", .int shop.pending)]), shop)

/-- The metrics, a line for each. -/
def metrics (shop : Shop) : Answer :=
  ⟨200, [("content-type", "text/plain; version=0.0.4; charset=utf-8")],
    String.join (shop.metrics.lines.map (· ++ "\n"))⟩

/-- The methods that a path has, if there is something at the path. -/
def methods? (path : String) : Option (List String) :=
  if path = "/orders" then some ["POST"]
  else if path = "/health" ∨ path = "/metrics" then some ["GET", "HEAD"]
  else none

/-- The field that lists the methods of a path. -/
def allow (methods : List String) : String × String :=
  ("allow", Text.join "," methods)

/-- The answer of a path to a method that it has. -/
def handle (shop : Shop) (ask : Ask) (path : String) : Answer × Shop :=
  if path = "/orders" then placeOrder shop ask
  else if path = "/health" then health shop
  else (metrics shop, shop)

/-- Allow every site to ask. -/
def shared (answer : Answer) : Answer :=
  { answer with fields := ("access-control-allow-origin", "*") :: answer.fields }

/-- The answer to the question what may be asked. -/
def options (path : String) : Answer :=
  ⟨200, [("access-control-allow-methods", "*"), ("access-control-allow-headers", "*")] ++
    ((methods? path).map allow).toList, ""⟩

/-- Answer a message. -/
def answer (shop : Shop) (ask : Ask) : Answer × Shop :=
  let path := targetPath ask.target
  if ask.method = "OPTIONS" then (shared (options path), shop)
  else
    match methods? path with
    | none => (shared ⟨404, [], ""⟩, shop)
    | some methods =>
        if methods.contains ask.method then
          let (answer, shop) := handle shop ask path
          (shared (if ask.method = "HEAD" then { answer with body := "" } else answer), shop)
        else (shared ⟨405, [allow methods], ""⟩, shop)

end Storefront.Http
