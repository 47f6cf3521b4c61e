import QueryFlow.Drawing
import QueryFlow.Json.Read
import QueryFlow.Json.Write
import QueryFlow.Layout.Solver
import QueryFlow.Query.Flow
import QueryFlow.Schema.Load

/-!
The HTTP interface: what the server answers to a request. Queries that cannot be drawn are answered
with the reason and status 200, so that it can be shown in place of the drawing.
-/

namespace QueryFlow.Http

open Form

structure Request where
  method : String
  path : String
  body : String := ""
  deriving Repr, DecidableEq

inductive Content where
  | json (value : Json)
  /-- What is wrong with the body of the request. -/
  | problems (problems : List Problem)
  /-- A page for readers. -/
  | page
  | empty

structure Response where
  status : Nat
  content : Content

/-- How answering fails. -/
inductive Failure where
  | settings (problems : List Problem)
  | document (fault : Layout.DocumentFault)
  | geometry (fault : Layout.GeometryFault)
  | spareBox (problems : List Problem)
  | encoding
  /-- A default value of the known tables cannot be written. -/
  | unwritable
  /-- The answer would hold a number that is not finite. -/
  | notFinite
  /-- The answer would hold half of a character. -/
  | halfCharacter
  /-- The address of the request cannot be one. -/
  | badAddress
  deriving Repr, DecidableEq

/-- The body of a request about a query. -/
structure Inquiry where
  text : String
  dialect : Option String
  tables : Option (List Schema.Table)
  declarations : Option String
  layout : Bool
  /-- Given back in the answer, so that late answers can be told from new ones. -/
  requestId : Option String
  deriving DecidableEq

namespace Inquiry

def ofJson (j : Json) : Checked Inquiry := do
  let fs ← fieldsOf .modelAttributesType j
  ((((((required (.plain "sql") string fs).map Inquiry.mk
    |> (also · (withDefault (.plain "dialect") (optional string) none fs)))
    |> (also · (withDefault ⟨"schema", "schema_tables"⟩
        (optional (list Schema.Table.ofJson)) none fs)))
    |> (also · (withDefault (.plain "ddl") (optional string) none fs)))
    |> (also · (withDefault (.plain "layout") bool true fs)))
    |> (also · (withDefault (.plain "request_id") (optional string) none fs)))

inductive BodyFault where
  | problems (problems : List Problem)
  /-- The body holds a number with more digits than are read. -/
  | digits
  deriving Repr, DecidableEq

/-- The inquiry in the body of a request. A mark of byte order in front of it does not count. -/
def ofBody (body : String) : Except BodyFault Inquiry :=
  let known (x : Checked Inquiry) : Except BodyFault Inquiry :=
    (under (.key "body") x).mapError .problems
  if body.isEmpty then known (refuse .missing)
  else
    let text := match body.toList with
      | c :: r => if c.toNat == 0xFEFF then String.ofList r else body
      | [] => body
    match Json.read text with
    | .error ⟨.digits, _⟩ => .error .digits
    | .error e => known (.error [⟨.jsonInvalid, [.index e.offset]⟩])
    | .ok j => known (ofJson j)

def schema (settings : Checked Settings) (q : Inquiry) : Except LoadFault (List Schema.Table) :=
  match q.tables, givenName? q.declarations with
  | some ts, _ => .ok ts
  | none, some text => Schema.ofScript settings q.dialect text
  | none, none => .ok []

def idField (q : Inquiry) : String × Json := ("request_id", .ofString? q.requestId)

end Inquiry

def detail (status : Nat) (message : String) : Response :=
  ⟨status, .json (.object [("detail", .string message)])⟩

def answer (fields : List (String × Json)) : Response := ⟨200, .json (.object fields)⟩

def withGraph (settings : Checked Settings) (q : Inquiry)
    (respond : Graph → Except Failure Response) : Except Failure Response :=
  match q.schema settings with
  | .error (.schema f) => .ok (detail 422 f.message)
  | .error (.settings ps) => .error (.settings ps)
  | .error .encoding | .error .badPath => .error .encoding
  | .error .unwritable => .error .unwritable
  | .ok tables =>
    match flowOfText settings tables q.dialect q.text with
    | .error ps => .error (.settings ps)
    | .ok (.error f) => .ok (answer [("error", .string f.message), q.idField])
    | .ok (.ok g) => respond g

/-- How many nodes, edges and groups a graph has. -/
def counts (g : Graph) : Json :=
  .object
    [("total_nodes", .int g.nodes.length), ("total_edges", .int g.edges.length),
     ("cte_groups", .int (g.nodes.filter Node.isGroup).length)]

def drawn (q : Inquiry) (g : Graph) (positions : Layout.Positions Float) : Response :=
  answer ((Drawing.ofGraph g positions (some g.lineage)).fields
    ++ [q.idField, ("stats", counts g)])

def visualize (settings : Checked Settings) (solver : Layout.Reply) (q : Inquiry) :
    Except Failure Response :=
  withGraph settings q fun g =>
    if q.layout then
      match (Layout.run settings none solver g).outcome with
      | .ok positions => .ok (drawn q g positions)
      | .error (.solver f) => .ok (detail 500 f.message)
      | .error (.document f) => .error (.document f)
      | .error (.geometry f) => .error (.geometry f)
      | .error (.settings ps) => .error (.settings ps)
      | .error (.spareBox ps) => .error (.spareBox ps)
    else .ok (drawn q g [])

def lineage (settings : Checked Settings) (q : Inquiry) : Except Failure Response :=
  withGraph settings q fun g =>
    .ok (answer [("lineage", .array (g.lineage.map LineageEntry.toJson)), q.idField])

def dialects : Response := answer [("dialects", .ofStrings (Sql.Dialect.all.map (·.name)))]

mutual

def isFinite : Json → Bool
  | .float x => !(x.isNaN || x.isInf)
  | .array js => allFinite js
  | .object fs => fieldsFinite fs
  | _ => true

def allFinite : List Json → Bool
  | [] => true
  | j :: r => isFinite j && allFinite r

def fieldsFinite : List (String × Json) → Bool
  | [] => true
  | (_, j) :: r => isFinite j && fieldsFinite r

end

mutual

/-- No text in a value holds half of a character. -/
def isWhole : Json → Bool
  | .string s => !s.toList.any Json.isStandIn
  | .array js => allWhole js
  | .object fs => fieldsWhole fs
  | _ => true

/-- No text in the items of a list holds half of a character. -/
def allWhole : List Json → Bool
  | [] => true
  | j :: r => isWhole j && allWhole r

/-- No text in the fields of an object, keys included, holds half of a character. -/
def fieldsWhole : List (String × Json) → Bool
  | [] => true
  | (k, j) :: r => !k.toList.any Json.isStandIn && isWhole j && fieldsWhole r

end

/-- The places that the server knows. -/
inductive Route where
  | dialects | visualize | lineage
  /-- A page about the interface for readers. -/
  | page
  deriving Repr, DecidableEq

namespace Route

def ofPath? (path : String) : Option Route :=
  match path with
  | "/api/dialects" => some dialects
  | "/api/visualize" => some visualize
  | "/api/lineage" => some lineage
  | "/docs" | "/docs/oauth2-redirect" | "/openapi.json" | "/redoc" => some page
  | _ => none

def methods : Route → List String
  | dialects => ["GET"]
  | visualize | lineage => ["POST"]
  | page => ["GET", "HEAD"]

end Route

/-- The longest address, in characters. -/
def addressLimit : Nat := 65536

/-- The path of an address: behind a scheme and a host, which do not count, and without a query. -/
def pathOf (address : List Char) : List Char :=
  let plain := address.takeWhile fun c => c != '?' && c != '#'
  let (scheme, rest) := plain.span fun c => c.isAlphanum || c == '+' || c == '.' || c == '-'
  let plain := match scheme, rest with
    | c :: _, ':' :: r => if c.isAlpha then r else plain
    | _, _ => plain
  match plain with
  | '/' :: '/' :: r => r.dropWhile (· != '/')
  | cs => cs

/-- The parts of a path with those of one or two dots carried out: one dot is nothing, and two take
the part in front of them away, but never the start of the path. -/
def withoutDots (parts : List String) : List String :=
  (parts.foldl (fun done p =>
    if p == "." then done
    else if p == ".." then (if done.isEmpty || done == [""] then done else done.drop 1)
    else p :: done) []).reverse

/-- A text with the characters that percent signs and two hexadecimal digits stand for. -/
def decodePercent : Nat → List Char → List Char
  | 0, cs => cs
  | _, [] => []
  | fuel + 1, '%' :: a :: b :: r =>
    match Json.hexDigit? a, Json.hexDigit? b with
    | some x, some y => Char.ofNat (x * 16 + y) :: decodePercent fuel r
    | _, _ => '%' :: decodePercent fuel (a :: b :: r)
  | fuel + 1, c :: r => c :: decodePercent fuel r

/-- The place that an address leads to; none when it is no address. -/
def placeOf? (address : String) : Option (List Char) :=
  let cs := address.toList
  let path := pathOf cs
  if cs.length > addressLimit || cs.any (fun c => c.toNat < 32 || c.toNat == 127)
      || (path == cs && path.head? == some ':') then none
  else
    let whole := String.ofList ('/' :: path.dropWhile (· == '/'))
    let settled := ("/".intercalate (withoutDots (Text.parts '/' whole))).toList
    some (decodePercent settled.length (if settled.isEmpty then ['/'] else settled))

/-- The path with or without a slash at its end: the other one of the two. -/
def otherPath (path : List Char) : List Char :=
  if path.getLast? == some '/' then (path.reverse.dropWhile (· == '/')).reverse else path ++ ['/']

def inquire (r : Request) (respond : Inquiry → Except Failure Response) :
    Except Failure Response :=
  match Inquiry.ofBody r.body with
  | .error (.problems ps) => .ok ⟨422, .problems ps⟩
  | .error .digits => .ok (detail 400 "There was an error parsing the body")
  | .ok q => respond q

def respondAt (settings : Checked Settings) (solver : Layout.Reply) (r : Request) :
    Route → Except Failure Response
  | .dialects => .ok dialects
  | .visualize => inquire r (visualize settings solver)
  | .lineage => inquire r (lineage settings)
  | .page => .ok ⟨200, .page⟩

/-- An answer that can be sent: its numbers are finite, and no text in it holds half of a character.
Where the body of the request writes no half, what stands for one is a character of its own. -/
def sendable (request : Request) (r : Response) : Except Failure Response :=
  match r.content with
  | .json j =>
    if !isFinite j then .error .notFinite
    else if Json.holdsHalfCharacter request.body && !isWhole j then
      .error .halfCharacter
    else .ok r
  | _ => .ok r

/-- The answer to a request whose place is known. -/
def respondTo (settings : Checked Settings) (solver : Layout.Reply) (r : Request)
    (place : List Char) : Except Failure Response :=
  match Route.ofPath? (String.ofList place) with
  | some route =>
    if route.methods.contains (Text.upper r.method) then
      respondAt settings solver r route >>= sendable r
    else .ok (detail 405 "Method Not Allowed")
  | none =>
    if place != ['/'] && (Route.ofPath? (String.ofList (otherPath place))).isSome then
      .ok ⟨307, .empty⟩
    else .ok (detail 404 "Not Found")

/-- The answer to a request. One that only asks about an answer gets it without its content. -/
def handle (settings : Checked Settings) (solver : Layout.Reply) (r : Request) :
    Except Failure Response :=
  match placeOf? r.path with
  | none => .error .badAddress
  | some place =>
    (respondTo settings solver r place).map fun answer =>
      if Text.upper r.method == "HEAD" then { answer with content := .empty } else answer

end QueryFlow.Http
