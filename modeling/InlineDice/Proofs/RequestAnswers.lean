import InlineDice.Proofs.RollCourse
import InlineDice.Web.Routes

namespace InlineDice.Web

variable {σ α : Type}

/-- What is answered by how a call ends. Faults of the dice text are told, other faults are not. -/
def conveyed (value : α → Response) (refusal : Text → Response) :
    Except Fault α → Except Fault Response
  | .ok a => .ok (value a)
  | .error fault => if fault.isDice then .ok (refusal fault.message) else .error fault

theorem conveyed_of_isDice {value : α → Response} {refusal : Text → Response} {fault : Fault}
    (dice : fault.isDice = true) :
    conveyed value refusal (.error fault) = .ok (refusal fault.message) := if_pos dice

theorem conveyed_of_not_isDice {value : α → Response} {refusal : Text → Response} {fault : Fault}
    (other : fault.isDice = false) :
    conveyed value refusal (.error fault) = .error fault := by
  simp [conveyed, other]

/-- What is played where no more is done than to answer how a call ended. -/
def relayed (value : α → Response) (refusal : Text → Response) (call : Played σ α) :
    Played σ Response :=
  ⟨conveyed value refusal call.outcome, call.source, call.draws, call.notes⟩

theorem run_handleDice (value : α → Response) (refusal : Text → Response) (call : Play σ α)
    (source : σ) :
    ((do return value (← call) : Play σ Response).handleDice
        fun fault => refusal fault.message).run source =
      relayed value refusal (call.run source) := by
  unfold relayed
  rw [bind_pure_comp]
  rcases ran : call.run source with ⟨fault | a, rest, draws, notes⟩
  · have failed := Play.run_map_of_failed (f := value) ran
    rw [Play.run] at failed
    simp only [Play.run, Play.handleDice, failed]
    cases dice : fault.isDice with
    | true => rw [conveyed_of_isDice dice, if_pos rfl]
    | false => rw [conveyed_of_not_isDice dice, if_neg Bool.false_ne_true]
  · have worked := Play.run_map_of_run (f := value) ran
    rw [Play.run] at worked
    simp only [Play.run, Play.handleDice, worked]
    rfl

section

variable {β : Type} [RandomSource σ] {reader : Reader β} {p : Pipeline} {environment : Text}
  {request : Request β}

theorem handle_of_lead {route : Route} (led : reader.lead request = .routed route) :
    (handle reader p environment request : Play σ Response) =
      answer reader p environment request.body route := by
  unfold handle
  rw [led]

theorem handle_of_answered {status : Nat} {content : Text}
    (led : reader.lead request = .answered status content) :
    (handle reader p environment request : Play σ Response) = pure (.own status content) := by
  unfold handle
  rw [led]

theorem run_recognize (led : reader.lead request = .routed .recognize) {text : Text}
    (valid : reader.text request.body = .ok text) (source : σ) :
    (handle reader p environment request).run source =
      ⟨.ok (.recognized (Notation.recognize text)), source, [], []⟩ := by
  rw [handle_of_lead led, answer, valid]
  rfl

theorem run_roll (led : reader.lead request = .routed .roll) {text : Text}
    (valid : reader.text request.body = .ok text) (source : σ) :
    (handle reader p environment request).run source =
      relayed .rolled .refused ((p.roll text).run source) := by
  rw [handle_of_lead led, answer, valid]
  exact run_handleDice _ .refused (p.roll text) source

theorem run_expand (led : reader.lead request = .routed .expand) {text : Text} {strict : Bool}
    (valid : reader.document request.body = .ok (text, strict)) (source : σ) :
    (handle reader p environment request).run source =
      relayed .expanded .refused ((p.expand strict text).run source) := by
  rw [handle_of_lead led, answer, valid]
  exact run_handleDice _ .refused (p.expand strict text) source

theorem run_submit (led : reader.lead request = .routed .submit) {text : Text} {strict : Bool}
    (valid : reader.submission request.body = .ok (text, strict)) (source : σ) :
    (handle reader p environment request).run source =
      relayed
        (fun document => pageOf p environment text strict (.result document.text document.replaced))
        (fun message => pageOf p environment text strict (.error message))
        ((p.expand strict text).run source) := by
  rw [handle_of_lead led, answer, valid]
  exact run_handleDice _ (fun message => pageOf p environment text strict (.error message))
    (p.expand strict text) source

end

/-- The text among the fields of a body. -/
def textField (fields : List (Text × Text)) : Except Text Text :=
  match fields.lookup "text".toList with
  | some text => .ok text
  | none => .error "Field required".toList

/-- The text among the fields of a body, and whether it is meant strictly. -/
def textFields (fields : List (Text × Text)) : Except Text (Text × Bool) :=
  (textField fields).map fun text => (text, fields.lookup "strict".toList = some "true".toList)

/-- A server that goes by the exact method and path, and takes bodies for fields with a name each. -/
def fieldReader : Reader (List (Text × Text)) where
  lead request :=
    match Route.all.find? (request.IsFor ·) with
    | some route => .routed route
    | none => .answered 404 "Not Found".toList
  text := textField
  document := textFields
  submission := textFields
  eq_of_lead := by
    intro request route other fits led
    split at led
    · next routed =>
      cases led
      have alike : request.IsFor other := by simpa using List.find?_some routed
      exact Route.eq_of_method_path (alike.1.symm.trans fits.1) (alike.2.symm.trans fits.2)
    · cases led

namespace Page

variable {page : Page}

end Page

end InlineDice.Web
