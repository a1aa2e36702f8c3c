import Sift.Json.Encoding
import Sift.Json.Reader
import Sift.Listing.Query
import Sift.Service
import Sift.Text.Bytes

/-!
# The web interface

Requests are answered by path and method. A request with a body is read as JSON and checked, and
all violations are answered at once. The spots of a filter are fetched with one statement and
counted with another; the statements that were run are given with the response. An answer to the
method `HEAD` has no body.
-/

namespace Sift.Api

/-- A target. The path and the fields of the query are decoded; the origin, which tells the scheme,
the host and the port, and the text of the query are as they are sent. -/
structure Target where
  origin : String
  path : String
  queryText : String
  query : List (String × String)
  deriving DecidableEq, Repr

/-- A request. The body is given as it was sent. -/
structure Request where
  method : String
  target : Target
  body : Text.Bytes
  deriving DecidableEq, Repr

/-- The body of a response. -/
inductive Body
  | json (value : Json)
  | text (text : String)
  deriving Inhabited

/-- A response. A redirection tells where to ask. -/
structure Response where
  status : Nat
  body : Body
  location : Option String
  deriving Inhabited

/-- A statement with its parameters. -/
structure Statement where
  sql : String
  parameters : List Int
  deriving DecidableEq, Repr

/-- What a database answers: rows to the listing, and to the count a value, which may be empty. -/
structure Database where
  rows : List Row
  total : Json

/-- The service behind the interface. -/
structure Server where
  settings : Settings
  compiler : Compiler
  /-- The database, when one is configured. -/
  database : Option Database
  /-- The moment that relative dates count from. -/
  now : Moment

/-! ## Responses -/

def Response.ok (value : Json) : Response := ⟨200, .json value, none⟩

/-- A refusal with a detail. -/
def Response.refusal (status : Nat) (detail : Json) : Response :=
  ⟨status, .json (.obj [("detail", detail)]), none⟩

/-- The answer to a request that was understood and could not be served. -/
def Response.failure : Response := ⟨500, .text "Internal Server Error", none⟩

/-- The answer to a request with violations, which are those of its body. -/
def Response.invalid (violations : List Violation) : Response :=
  .refusal 422 (.arr (violations.map fun v => (v.within (.field "body")).toJson))

/-- The answer to a request that should be sent to another path of the same origin. -/
def Response.redirection (target : Target) (path : String) : Response :=
  let query := if target.queryText.isEmpty then "" else "?" ++ target.queryText
  let keeps (c : Char) : Bool := Text.isUnreserved c || ":/%#?=@[]!$&'()*+,;".toList.contains c
  let location := Text.percentEncoded keeps (target.origin ++ path ++ query).toList
  ⟨307, .text "", some (String.ofList location)⟩

/-! ## Routes -/

inductive Route
  | compile
  | compress
  | categories
  | search
  | health
  /-- The pages that document the interface. -/
  | documentation
  deriving DecidableEq, Repr

/-- The route of a path, at whose end one line feed may stand. -/
def Route.ofPath? (path : String) : Option Route :=
  match (path.dropSuffix "\n").toString with
  | "/api/filters/compile" => some compile
  | "/api/filters/compress" => some compress
  | "/api/categories" => some categories
  | "/api/spots/search" => some search
  | "/health" => some health
  | "/openapi.json" | "/docs" | "/docs/oauth2-redirect" | "/redoc" => some documentation
  | _ => none

def Route.methods : Route → List String
  | compile | compress | search => ["POST"]
  | categories | health => ["GET"]
  | documentation => ["GET", "HEAD"]

/-- A path without the slashes at its end. -/
def withoutSlashes (path : String) : String :=
  String.ofList (path.toList.reverse.dropWhile (· == '/')).reverse

/-! ## Bodies -/

/-- The answer to a request without a body. -/
def Response.bodyMissing : Response := .invalid [⟨[], .missing⟩]

/-- The answer to a body that cannot be read for another reason than its syntax. -/
def Response.unreadable : Response := .refusal 400 (.str "There was an error parsing the body")

/-- How many arrays and objects may stand inside each other in a body. -/
def maxDepth : Nat := 960

/-- Checks a value. An answer with violations repeats the values that violate, and only finite
numbers can be repeated; as no request has a number that is not finite, one anywhere in the value is
among them. -/
def checkValue {α : Type} (value : Json) (read : Json → Checked α) : Except Response α :=
  match read value with
  | .valid request => .ok request
  | .invalid vs => .error (if value.isFinite then .invalid (Violation.sorted vs) else .failure)

/-- The request in a body, or the answer to a body without one. -/
def readBody {α : Type} (body : Text.Bytes) (read : Json → Checked α) : Except Response α :=
  if body.isEmpty then .error .bodyMissing
  else match Json.Encoding.decode? body with
  | none => .error .unreadable
  | some text =>
    match Json.parseWithin maxDepth text with
    | .error (.malformed offset) => .error (.invalid [⟨[.index offset], .jsonInvalid⟩])
    | .error .numberTooLong | .error .tooDeep => .error .unreadable
    | .ok .null => .error .bodyMissing
    | .ok value => checkValue value read

/-! ## Answers -/

def compileFilter (server : Server) (request : FilterRequest) : Response :=
  match server.compiler.answer request server.now with
  | .ok descriptor => .ok (descriptor.toJson (server.compiler.pagingTree descriptor))
  | .error _ => .failure

def compressFilter (server : Server) (request : ShorthandRequest) : Response :=
  match server.compiler.shorthand request with
  | .ok tree => .ok (.obj [("tree", .str tree)])
  | .error fault => .refusal 422 (.str fault.message)

def listCategories (server : Server) (query : List (String × String)) : Response :=
  match server.compiler.picker ((query.reverse.lookup "tree").getD "") with
  | .ok nodes => .ok (.arr (Picker.Node.allToJson nodes))
  | .error _ => .failure

def pageSize (settings : Settings) (request : PageRequest) : Int :=
  min (request.pageSize.getD settings.defaultPageSize) Settings.maxPageSize

/-- Lists a page of spots, with the statements that were run. Without a database nothing is run, and
the spots are not counted when a row is none. -/
def searchSpots (server : Server) (request : PageRequest) : Response × List Statement :=
  match server.compiler.answer request.filter server.now, server.database with
  | .error _, _ => (.failure, [])
  | .ok _, none => (.refusal 503 (.str "Spot database not configured."), [])
  | .ok descriptor, some database =>
    let user := request.filter.userId
    let size := pageSize server.settings request
    let dialect := server.settings.dialect
    let listing : Statement :=
      ⟨Listing.searchQuery descriptor dialect, [user, size, request.page * size]⟩
    let count : Statement := ⟨Listing.countQuery descriptor dialect, [user]⟩
    match database.rows.mapM Spot.ofRow, Spot.count database.total with
    | .error _, _ => (.failure, [listing])
    | .ok _, .invalid _ => (.failure, [listing, count])
    | .ok spots, .valid total =>
      (.ok (.obj [("spots", .arr (spots.map (·.toJson))), ("total", .int total),
        ("page", .int request.page), ("page_size", .int size),
        ("paging_tree", .str (server.compiler.pagingTree descriptor))]), [listing, count])

/-- Tells whether the service runs and has a database. -/
def health (databaseOpen : Bool) : Response :=
  .ok (.obj [("status", .str "ok"), ("database", .bool databaseOpen)])

/-- The answer to a body that is read, or the refusal. -/
def answerBody {α β : Type} (body : Text.Bytes) (read : Json → Checked α) (refuse : Response → β)
    (answer : α → β) : β :=
  match readBody body read with
  | .ok request => answer request
  | .error refusal => refuse refusal

/-- Serves a route. The pages of the documentation are left blank. -/
def serve (server : Server) (request : Request) : Route → Response × List Statement
  | .compile => (answerBody request.body (FilterRequest.read .bodyObjectType) id
      (compileFilter server), [])
  | .compress => (answerBody request.body (ShorthandRequest.read .bodyObjectType) id
      (compressFilter server), [])
  | .search => answerBody request.body (PageRequest.read .bodyObjectType) (·, [])
      (searchSpots server)
  | .categories => (listCategories server request.target.query, [])
  | .health => (health server.database.isSome, [])
  | .documentation => (⟨200, .text "", none⟩, [])

/-- Answers a request by its path, with the statements that were run. A path with slashes too many
at its end is redirected. -/
def dispatch (server : Server) (request : Request) : Response × List Statement :=
  match Route.ofPath? request.target.path with
  | some route =>
    if route.methods.contains (Text.upper request.method) then serve server request route
    else (.refusal 405 (.str "Method Not Allowed"), [])
  | none =>
    let path := withoutSlashes request.target.path
    if (Route.ofPath? path).isSome then (.redirection request.target path, [])
    else (.refusal 404 (.str "Not Found"), [])

/-- Answers a request, with the statements that were run. -/
def handle (server : Server) (request : Request) : Response × List Statement :=
  let (response, statements) := dispatch server request
  if Text.upper request.method = "HEAD" then ({ response with body := .text "" }, statements)
  else (response, statements)

end Sift.Api
