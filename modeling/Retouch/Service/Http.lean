import Retouch.Model.Json
import Retouch.Service.Address
import Retouch.Session
import Retouch.Text.Encoding

/-!
# The editor over HTTP

Each operation is a route that takes a JSON body. A request that reaches an operation is answered
with its report, also when the operation has failed.
-/

namespace Retouch

/-- A request that names an element. -/
structure ElementRequest where
  id : { t : Text // t ≠ [] ∧ t.isScalar }

/-- A request to update an element. -/
structure UpdateRequest where
  id : { t : Text // t ≠ [] ∧ t.isScalar }
  updates : Updates

/-- The state of health of the service. -/
structure Health where
  status : Text

/-- The label of identifiers. -/
def idLabel : Label := ⟨"component_id", "componentId"⟩

namespace ElementRequest

/-- Writes a request. -/
def dump (style : Style) (request : ElementRequest) : Value :=
  .record style [(idLabel, .text request.id.1)]

/-- Checks a request. -/
def check : Value → Checked ElementRequest :=
  Check.object fun fields => ElementRequest.mk <$> Check.required fields idLabel Check.nonEmptyText

end ElementRequest

namespace UpdateRequest

/-- Writes a request. -/
def dump (style : Style) (request : UpdateRequest) : Value :=
  .record style [
    (idLabel, .text request.id.1),
    (⟨"class_name", "className"⟩, .ofOption .text request.updates.className),
    (⟨"text_content", "textContent"⟩, .ofOption .text request.updates.textContent)]

/-- Checks a request. -/
def check : Value → Checked UpdateRequest :=
  Check.object fun fields =>
    (fun id className textContent => ⟨id, className, textContent⟩) <$>
      Check.required fields idLabel Check.nonEmptyText <*>
      Check.withDefault fields ⟨"class_name", "className"⟩ none (Check.optional Check.text) <*>
      Check.withDefault fields ⟨"text_content", "textContent"⟩ none (Check.optional Check.text)

end UpdateRequest

namespace Health

/-- Writes a state of health. -/
def dump (health : Health) : Value :=
  .object [("status", .text health.status)]

/-- Checks a state of health. -/
def check : Value → Checked Health :=
  Check.object fun fields => Health.mk <$> Check.withDefault fields (.plain "status") "ok" Check.text

end Health

namespace Http

/-- The body of a request: none, a value, or bytes that should be one. -/
inductive Body where
  | empty
  | value (v : Value)
  | raw (bytes : Bytes)

/-- What the service does. -/
inductive Route where
  | analyze
  | update
  | delete
  | health
  /-- A description of the service. -/
  | documentation
  deriving DecidableEq

/-- The routes and their paths. -/
def routes : List (Text × Route) := [
  ("/openapi.json", .documentation), ("/docs", .documentation), ("/docs/oauth2-redirect", .documentation),
  ("/redoc", .documentation), ("/elements/analyze", .analyze), ("/elements/update", .update),
  ("/elements/delete", .delete), ("/health", .health)]

/-- The methods of a route. -/
def Route.methods : Route → List String
  | .documentation => ["GET", "HEAD"]
  | .health => ["GET"]
  | _ => ["POST"]

/-- The answer to a request. -/
inductive Response where
  | ok (body : Value)
  /-- A description of the service follows. -/
  | documentation
  /-- The body cannot be read at all. -/
  | unreadable
  | unprocessable (issues : List Issue)
  | notFound
  | methodNotAllowed
  /-- The report holds lone surrogates, so that there is no way to send it. -/
  | unsendable (error : Utf8.EncodeError)

/-- The route of exactly this path, with or without a line break after it. -/
def exactRoute? (path : Text) : Option Route :=
  (routes.lookup path).or
    (if path.getLast? = some (CodePoint.ofChar '\n') then routes.lookup path.dropLast else none)

/-- The path with the slashes at its end left out, or with one added if there are none. -/
def otherEnding (path : Text) : Text :=
  if path.getLast? = some (CodePoint.ofChar '/') then trimEnd (fun (c : CodePoint) => c == '/') path
  else path ++ "/"

/-- The route of a path. Slashes at the end of a path are forgiven. -/
def route? (path : Text) : Option Route :=
  (exactRoute? path).or (exactRoute? (otherEnding path))

/-- The step into the body of a request. -/
def inBody : Step := .key "body"

/-- What is wrong with a body. -/
inductive BodyError where
  | unreadable
  | invalid (issues : List Issue)

/-- The value of a body. -/
def readBody : Body → Except BodyError Value
  | .empty | .raw [] => .error (.invalid [⟨.missing, [inBody]⟩])
  | .value v => .ok v
  | .raw bytes =>
    match (Encoding.decode? bytes).map Json.read with
    | some (.ok v) => .ok v
    | some (.error (.unexpected position)) =>
      .error (.invalid [⟨.invalidJson, [inBody, .index position]⟩])
    | _ => .error .unreadable

/-- The request that a body holds. -/
def readRequest (check : Value → Checked α) (body : Body) : Except BodyError α := do
  let checked := match ← readBody body with
    | .object fields => check (.object fields)
    | _ => .fault .attributesType
  (checked.within inBody).toExcept.mapError .invalid

/-- The answer to a request whose body cannot be used. -/
def BodyError.response : BodyError → Response
  | .unreadable => .unreadable
  | .invalid issues => .unprocessable issues

/-- Sends a report. -/
def send (report : Value) : Response :=
  match Json.encodeError? report with
  | some error => .unsendable error
  | none => .ok report

variable {σ : Type} [Store σ]

/-- Answers a request on a route. -/
def answer (editor : Editor) (root : Path) (store : σ) (body : Body) : Route → Response × σ
  | .documentation => (.documentation, store)
  | .health => (.ok (Health.dump ⟨"ok"⟩), store)
  | .analyze =>
    match readRequest ElementRequest.check body with
    | .error error => (error.response, store)
    | .ok request => (send ((editor.analyze store root request.id.1).dump .answer), store)
  | .update =>
    match readRequest UpdateRequest.check body with
    | .error error => (error.response, store)
    | .ok request =>
      let (report, after) := editor.update store root request.id.1 request.updates
      (send (report.dump .answer), after)
  | .delete =>
    match readRequest ElementRequest.check body with
    | .error error => (error.response, store)
    | .ok request =>
      let (report, after) := editor.delete store root request.id.1
      (send (report.dump .answer), after)

/-- Answers a request to an address. -/
def respond (editor : Editor) (root : Path) (store : σ) (method : String) (address : Text) (body : Body) :
    Response × σ :=
  match route? (Address.path address) with
  | none => (.notFound, store)
  | some route =>
    if route.methods.contains method.toUpper then answer editor root store body route
    else (.methodNotAllowed, store)

end Http

end Retouch
