import InlineDice.Web.Page
import InlineDice.Workbench

namespace InlineDice.Web

/-- What can be requested of a pipeline. -/
inductive Route where
  | page
  | submit
  | processors
  | recognize
  | roll
  | expand
  deriving DecidableEq, Repr

namespace Route

def all : List Route := [page, submit, processors, recognize, roll, expand]

def method : Route → Text
  | page | processors => "GET".toList
  | submit | recognize | roll | expand => "POST".toList

def path : Route → Text
  | page | submit => "/".toList
  | processors => "/processors".toList
  | recognize => "/recognize".toList
  | roll => "/roll".toList
  | expand => "/expand".toList

/-- No two routes have both the same method and the same path. -/
theorem eq_of_method_path {one other : Route} (methods : one.method = other.method)
    (paths : one.path = other.path) : one = other := by
  cases one <;> cases other <;> revert methods paths <;> decide

end Route

/-- What arrives at a server. What the body brings along is for the server to read. -/
structure Request (β : Type) where
  method : Text
  path : Text
  body : β

/-- A request has the method and the path of a route. -/
def Request.IsFor {β : Type} (request : Request β) (route : Route) : Prop :=
  request.method = route.method ∧ request.path = route.path

instance {β : Type} (request : Request β) (route : Route) : Decidable (request.IsFor route) :=
  inferInstanceAs (Decidable (_ ∧ _))

/-- What is answered to a request. Of the answers that a server gives by itself only the status and the
content are known. -/
inductive Response where
  | own (status : Nat) (content : Text)
  | invalid (problems : Text)
  | refused (detail : Text)
  | recognized (dice : Option Text)
  | rolled (report : Text)
  | expanded (document : Expanded)
  | processors (rows : List (Char × Text))
  | page (page : Page)
  deriving DecidableEq

def Response.status : Response → Nat
  | own status _ => status
  | invalid _ | refused _ => 422
  | _ => 200

/-- Where a request leads: to an answer of the server itself, or to a route. -/
inductive Lead where
  | answered (status : Nat) (content : Text)
  | routed (route : Route)
  deriving DecidableEq

/-- What a server makes of requests before a route answers them: where they lead, and what their bodies
bring or what is wrong with these. It may turn a request for a route away, but leads it to no other
one. -/
structure Reader (β : Type) where
  lead : Request β → Lead
  text : β → Except Text Text
  document : β → Except Text (Text × Bool)
  submission : β → Except Text (Text × Bool)
  eq_of_lead : ∀ {request : Request β} {route other : Route},
    request.IsFor route → lead request = .routed other → other = route

variable {σ β : Type} [RandomSource σ]

/-- The answer to dice text that has a fault. -/
def reject (fault : Fault) : Response := .refused fault.message

/-- The page about a text, strict or not, with what was found. -/
def pageOf (p : Pipeline) (environment : Text) (text : Text) (strict : Bool) (finding : Finding) :
    Response :=
  .page ⟨text, strict, finding, p.registry.describe, environment⟩

/-- Answers a request of a route by one pipeline. A body that is not valid is answered without
touching it, and only faults other than those of the dice text are left unanswered. -/
def answer (reader : Reader β) (p : Pipeline) (environment : Text) (body : β) :
    Route → Play σ Response
  | .page => return pageOf p environment [] false .none
  | .processors => return .processors p.registry.describe
  | .recognize =>
    match reader.text body with
    | .error problems => return .invalid problems
    | .ok text => return .recognized (Notation.recognize text)
  | .roll =>
    match reader.text body with
    | .error problems => return .invalid problems
    | .ok text => (do return .rolled (← p.roll text) : Play σ Response).handleDice reject
  | .expand =>
    match reader.document body with
    | .error problems => return .invalid problems
    | .ok (text, strict) =>
      (do return .expanded (← p.expand strict text) : Play σ Response).handleDice reject
  | .submit =>
    match reader.submission body with
    | .error problems => return .invalid problems
    | .ok (text, strict) =>
      Play.handleDice
        (do
          let document ← p.expand strict text
          return pageOf p environment text strict (.result document.text document.replaced))
        fun fault => pageOf p environment text strict (.error fault.message)

/-- Answers any request by one pipeline. -/
def handle (reader : Reader β) (p : Pipeline) (environment : Text) (request : Request β) :
    Play σ Response :=
  match reader.lead request with
  | .answered status content => return .own status content
  | .routed route => answer reader p environment request.body route

/-- Answers a request by the shared pipeline of a workbench. The pipeline is fetched, and so built on
first use, only by requests that lead to a route. -/
def serve (reader : Reader β) (request : Request β) (bench : Workbench σ) :
    Except Fault Response × List Draw × Workbench σ :=
  match reader.lead request with
  | .answered status content => (.ok (.own status content), [], bench)
  | .routed route =>
    let (played, bench) :=
      bench.playShared fun p => answer reader p bench.settings.environment request.body route
    (played.outcome, played.draws, bench)

end InlineDice.Web
