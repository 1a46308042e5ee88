import InlineDice.Proofs.RequestAnswers

namespace InlineDice.Web

/-- Reads a shown text back: each of the five entities is the character that it stands for. -/
def unescape : Text → Text
  | '&' :: 'a' :: 'm' :: 'p' :: ';' :: rest => '&' :: unescape rest
  | '&' :: 'l' :: 't' :: ';' :: rest => '<' :: unescape rest
  | '&' :: 'g' :: 't' :: ';' :: rest => '>' :: unescape rest
  | '&' :: '#' :: '3' :: '9' :: ';' :: rest => '\'' :: unescape rest
  | '&' :: '#' :: '3' :: '4' :: ';' :: rest => '"' :: unescape rest
  | c :: rest => c :: unescape rest
  | [] => []

/-- What tells markup from text: the characters of tags, and those around attributes. -/
def delimiters : List Char := ['<', '>', '\'', '"']

theorem escapeChar_of_plain {c : Char} (plain : c ∉ '&' :: delimiters) : escapeChar c = [c] := by
  simp only [delimiters, List.mem_cons, List.not_mem_nil, or_false, not_or] at plain
  obtain ⟨amp, lt, gt, apostrophe, quote⟩ := plain
  rw [escapeChar, if_neg amp, if_neg lt, if_neg gt, if_neg apostrophe, if_neg quote]

theorem unescape_escapeChar (c : Char) (rest : Text) :
    unescape (escapeChar c ++ rest) = c :: unescape rest := by
  by_cases special : c ∈ '&' :: delimiters
  · simp only [delimiters, List.mem_cons, List.not_mem_nil, or_false] at special
    rcases special with rfl | rfl | rfl | rfl | rfl <;> simp [escapeChar, unescape]
  · rw [escapeChar_of_plain special, List.singleton_append, unescape]
    -- A character that is no ampersand begins no entity.
    all_goals
      rintro _ rfl
      simp at special

theorem unescape_escape (s : Text) : unescape (escape s) = s := by
  induction s with
  | nil => rfl
  | cons c s ih =>
    have shown : escape (c :: s) = escapeChar c ++ escape s := rfl
    rw [shown, unescape_escapeChar, ih]

theorem not_mem_delimiters_of_mem_escape {s : Text} : ∀ c ∈ escape s, c ∉ delimiters := by
  have entities : ∀ c ∈ '&' :: delimiters, ∀ d ∈ escapeChar c, d ∉ delimiters := by
    simp [delimiters, escapeChar]
  intro d member
  obtain ⟨c, -, inChar⟩ := List.mem_flatMap.mp member
  by_cases special : c ∈ '&' :: delimiters
  · exact entities c special d inChar
  · rw [escapeChar_of_plain special, List.mem_singleton] at inChar
    rw [inChar]
    exact fun among => special (List.mem_cons_of_mem _ among)

/-! ## The template of a page -/

/-- Fills the holes of a template, in order. -/
def fillHoles : List (Option String) → List Text → Text
  | [], _ => []
  | some markup :: slots, texts => markup.toList ++ fillHoles slots texts
  | none :: slots, [] => fillHoles slots []
  | none :: slots, text :: texts => text ++ fillHoles slots texts

namespace Piece

/-- The place of a piece in a template: its markup, or a hole. -/
def slot : Piece → Option String
  | markup s => some s
  | shown _ => none

def text? : Piece → Option Text
  | markup _ => none
  | shown s => some s

/-- Rendering pieces is to fill their template with the escaped texts among them. -/
theorem flatMap_render (pieces : List Piece) :
    pieces.flatMap render = fillHoles (pieces.map slot) ((pieces.filterMap text?).map escape) := by
  induction pieces with
  | nil => rfl
  | cons piece pieces ih =>
    rw [List.flatMap_cons, ih]
    cases piece <;> rfl

theorem count_slot (pieces : List Piece) :
    (pieces.map slot).count none = (pieces.filterMap text?).length := by
  induction pieces with
  | nil => rfl
  | cons piece pieces ih =>
    cases piece with
    | markup s =>
      rw [List.map_cons, List.filterMap_cons_none rfl, ← ih]
      exact List.count_cons_of_ne (Option.some_ne_none s)
    | shown s =>
      have isText : text? (shown s) = some s := rfl
      rw [List.map_cons, List.filterMap_cons_some isText, List.length_cons, ← ih]
      exact List.count_cons_self

end Piece

/-- Texts without characters of a kind leave those of the template alone. -/
theorem filter_fillHoles {kind : Char → Bool} (slots : List (Option String)) {texts : List Text}
    (free : ∀ text ∈ texts, ∀ c ∈ text, kind c = false) :
    (fillHoles slots texts).filter kind = (fillHoles slots []).filter kind := by
  induction slots generalizing texts with
  | nil => rfl
  | cons slot slots ih =>
    cases slot with
    | some markup => rw [fillHoles, fillHoles, List.filter_append, List.filter_append, ih free]
    | none =>
      cases texts with
      | nil => rfl
      | cons text texts =>
        obtain ⟨first, later⟩ := List.forall_mem_cons.mp free
        have none : text.filter kind = [] := List.filter_eq_nil_iff.mpr (by simpa using first)
        rw [fillHoles, fillHoles, List.filter_append, none, List.nil_append, ih later]

namespace Finding

/-- Whether a page tells of nothing, of an error or of a result. -/
inductive Kind where
  | none
  | error
  | result
  deriving DecidableEq

def kind : Finding → Kind
  | none => .none
  | error _ => .error
  | result .. => .result

def texts : Finding → List Text
  | none => []
  | error message => [message]
  | result text replaced => [counted replaced "line".toList, text]

/-- What a page tells of how the expansion of its text ended. -/
def ofOutcome : Except Fault Expanded → Finding
  | .ok document => .result document.text document.replaced
  | .error fault => .error fault.message

def Kind.blank : Kind → Finding
  | .none => .none
  | .error => .error []
  | .result => .result [] 0

end Finding

namespace Page

/-- All that the markup of a page depends on. -/
structure Shape where
  strict : Bool
  finding : Finding.Kind
  processors : Nat
  deriving DecidableEq

def shape (page : Page) : Shape := ⟨page.strict, page.finding.kind, page.processors.length⟩

/-- The texts that a page shows, in order. -/
def texts (page : Page) : List Text :=
  page.text :: page.finding.texts ++ page.processors.flatMap (fun row => [[row.1], row.2]) ++
    [page.environment]

/-- A page of a shape without texts. -/
def Shape.blank (shape : Shape) : Page :=
  ⟨[], shape.strict, shape.finding.blank, List.replicate shape.processors (' ', []), []⟩

/-- The markup of all pages of a shape, with a hole for each text. -/
def Shape.template (shape : Shape) : List (Option String) := shape.blank.pieces.map Piece.slot

theorem Shape.shape_blank (shape : Shape) : shape.blank.shape = shape := by
  obtain ⟨strict, finding, processors⟩ := shape
  cases finding <;> simp [Shape.blank, Page.shape, Finding.Kind.blank, Finding.kind]

theorem slots_congr {page other : Page} (same : page.shape = other.shape) :
    page.pieces.map Piece.slot = other.pieces.map Piece.slot := by
  obtain ⟨text, strict, finding, processors, environment⟩ := page
  obtain ⟨text', strict', finding', processors', environment'⟩ := other
  simp only [Page.shape, Shape.mk.injEq] at same
  obtain ⟨rfl, kind, length⟩ := same
  have findings : (findingPieces finding).map Piece.slot =
      (findingPieces finding').map Piece.slot := by
    cases finding <;> cases finding' <;> first | rfl | cases kind
  have rows : ∀ rows : List (Char × Text), (rows.flatMap processorPieces).map Piece.slot =
      (List.replicate rows.length ((processorPieces (' ', [])).map Piece.slot)).flatten := by
    intro rows
    induction rows with
    | nil => rfl
    | cons row rows ih =>
      rw [List.flatMap_cons, List.map_append, ih, List.length_cons, List.replicate_succ,
        List.flatten_cons]
      rfl
  simp only [pieces, List.map_append, findings, rows, length]
  rfl

theorem filterMap_text? (page : Page) : page.pieces.filterMap Piece.text? = page.texts := by
  have findings : (findingPieces page.finding).filterMap Piece.text? = page.finding.texts := by
    cases page.finding <;> rfl
  have rows : (page.processors.flatMap processorPieces).filterMap Piece.text? =
      page.processors.flatMap fun row => [[row.1], row.2] := by
    rw [List.filterMap_flatMap]
    rfl
  simp only [pieces, texts, List.filterMap_append, findings, rows, List.append_assoc]
  rfl

/-- A page is the template of its shape, filled with its escaped texts. -/
theorem render_eq_fillHoles (page : Page) :
    page.render = fillHoles page.shape.template (page.texts.map escape) ∧
      page.shape.template.count none = page.texts.length := by
  have slots : page.shape.template = page.pieces.map Piece.slot :=
    slots_congr (Shape.shape_blank page.shape)
  rw [render, Piece.flatMap_render, slots, Piece.count_slot, filterMap_text?]
  exact ⟨rfl, rfl⟩

/-- Characters of markup come from the template only, so pages of one shape have the same. -/
theorem filter_render_congr {page other : Page} (same : page.shape = other.shape)
    {kind : Char → Bool} (marks : ∀ c, kind c = true → c ∈ delimiters) :
    page.render.filter kind = other.render.filter kind := by
  have free : ∀ page : Page, ∀ text ∈ page.texts.map escape, ∀ c ∈ text, kind c = false := by
    intro page text member c inText
    obtain ⟨s, -, rfl⟩ := List.mem_map.mp member
    by_contra mark
    exact not_mem_delimiters_of_mem_escape c inText (marks c (Bool.eq_true_of_not_eq_false mark))
  rw [(render_eq_fillHoles page).1, (render_eq_fillHoles other).1, same,
    filter_fillHoles _ (free page), filter_fillHoles _ (free other)]

end Page

section

variable {σ : Type} {p : Pipeline} {environment : Text} {page : Page}

theorem relayed_ne_page {α : Type} {value : α → Response} (other : ∀ a, value a ≠ .page page)
    {call : Played σ α} : (relayed value .refused call).outcome ≠ .ok (.page page) := by
  unfold relayed conveyed
  split
  · next a ended => exact fun same => other a (Except.ok.inj same)
  · split <;> simp

theorem relayed_eq_page_iff {text : Text} {strict : Bool} {call : Played σ Expanded} :
    (relayed
        (fun document => pageOf p environment text strict (.result document.text document.replaced))
        (fun message => pageOf p environment text strict (.error message)) call).outcome =
        .ok (.page page) ↔
      (∀ fault, call.outcome = .error fault → fault.isDice = true) ∧
        ⟨text, strict, .ofOutcome call.outcome, p.registry.describe, environment⟩ = page := by
  unfold relayed
  rcases call with ⟨fault | document, source, draws, notes⟩
  · cases dice : fault.isDice with
    | true => simp [conveyed_of_isDice dice, pageOf, Finding.ofOutcome, dice]
    | false => simp [conveyed_of_not_isDice dice, dice]
  · simp [conveyed, pageOf, Finding.ofOutcome]

variable {β : Type} [RandomSource σ] {reader : Reader β}

/-- What the two routes of the page show: nothing where it is only asked for, and where a form is
submitted the text that it brings and how the expansion of that text ends. -/
inductive Page.IsOf (reader : Reader β) (p : Pipeline) (environment : Text) (request : Request β)
    (source : σ) : Page → Prop
  | asked (led : reader.lead request = .routed .page) :
      IsOf reader p environment request source ⟨[], false, .none, p.registry.describe, environment⟩
  | submitted {text : Text} {strict : Bool} (led : reader.lead request = .routed .submit)
      (valid : reader.submission request.body = .ok (text, strict))
      (told : ∀ fault, ((p.expand strict text).run source).outcome = .error fault →
        fault.isDice = true) :
      IsOf reader p environment request source ⟨text, strict,
        .ofOutcome ((p.expand strict text).run source).outcome, p.registry.describe, environment⟩

variable {request : Request β} {source : σ}

theorem answer_invalid_ne_page {body : β} {route : Route} {problems : Text}
    (invalid : (answer reader p environment body route : Play σ Response) =
      pure (.invalid problems)) :
    ((answer reader p environment body route).run source).outcome ≠ .ok (.page page) := by
  rw [invalid]
  exact fun same => Response.noConfusion (Except.ok.inj same)

/-- Only the two routes of the page answer by a page, each by the one that it is to show. -/
theorem handle_eq_page_iff :
    ((handle reader p environment request).run source).outcome = .ok (.page page) ↔
      page.IsOf reader p environment request source := by
  constructor
  · intro answered
    cases led : reader.lead request with
    | answered status content =>
      rw [handle_of_answered led] at answered
      cases answered
    | routed route =>
      have isAnswer := answered
      rw [handle_of_lead led] at isAnswer
      cases route with
      | page =>
        have same : pageOf p environment [] false .none = .page page := Except.ok.inj isAnswer
        cases same
        exact .asked led
      | processors =>
        have same : Response.processors p.registry.describe = .page page := Except.ok.inj isAnswer
        cases same
      | recognize =>
        cases valid : reader.text request.body with
        | error problems => exact absurd isAnswer (answer_invalid_ne_page (by rw [answer, valid]))
        | ok text =>
          rw [run_recognize led valid] at answered
          cases answered
      | roll =>
        cases valid : reader.text request.body with
        | error problems => exact absurd isAnswer (answer_invalid_ne_page (by rw [answer, valid]))
        | ok text =>
          rw [run_roll led valid] at answered
          exact absurd answered (relayed_ne_page (by simp))
      | expand =>
        cases valid : reader.document request.body with
        | error problems => exact absurd isAnswer (answer_invalid_ne_page (by rw [answer, valid]))
        | ok document =>
          rw [run_expand led valid] at answered
          exact absurd answered (relayed_ne_page (by simp))
      | submit =>
        cases valid : reader.submission request.body with
        | error problems => exact absurd isAnswer (answer_invalid_ne_page (by rw [answer, valid]))
        | ok submission =>
          rw [run_submit led valid] at answered
          obtain ⟨told, rfl⟩ := relayed_eq_page_iff.mp answered
          exact .submitted led valid told
  · rintro (led | ⟨led, valid, told⟩)
    · rw [handle_of_lead led]
      rfl
    · rw [run_submit led valid]
      exact relayed_eq_page_iff.mpr ⟨told, rfl⟩

/-- A page is the template of its shape with the escaped texts in its holes, from which each text can
be read back. No such text brings markup along, so all that pages of one shape have of it is the same,
whatever is submitted, set or registered. -/
theorem texts_never_markup
    (answered : ((handle reader p environment request).run source).outcome = .ok (.page page)) :
    page.IsOf reader p environment request source ∧
      page.render = fillHoles page.shape.template (page.texts.map escape) ∧
      page.shape.template.count none = page.texts.length ∧
      (∀ text ∈ page.texts, unescape (escape text) = text ∧ ∀ c ∈ escape text, c ∉ delimiters) ∧
      ∀ other : Page, other.shape = page.shape →
        ∀ kind : Char → Bool, (∀ c, kind c = true → c ∈ delimiters) →
          other.render.filter kind = page.render.filter kind := by
  obtain ⟨filled, holes⟩ := Page.render_eq_fillHoles page
  refine ⟨handle_eq_page_iff.mp answered, filled, holes, fun text _ => ?_, ?_⟩
  · exact ⟨unescape_escape text, not_mem_delimiters_of_mem_escape⟩
  · exact fun other same kind marks => Page.filter_render_congr same marks

end

/-- A submission that tries to begin a tag. -/
def tagSubmission : Request (List (Text × Text)) :=
  ⟨"POST".toList, "/".toList, [("text".toList, "<i>".toList)]⟩

def tagPage : Page :=
  ⟨"<i>".toList, false, .result "<i>".toList 0, Pipeline.default.registry.describe, "local".toList⟩

theorem texts_never_markup_tag :
    ((handle fieldReader .default "local".toList tagSubmission).run threeAnswers).outcome =
        .ok (.page tagPage) ∧
      tagPage.IsOf fieldReader .default "local".toList tagSubmission threeAnswers ∧
      unescape "&lt;i&gt;".toList = "<i>".toList ∧
      (⟨false, .result, 3⟩ : Page.Shape).blank.render.filter (['<', '>'].contains ·) =
        tagPage.render.filter (['<', '>'].contains ·) := by
  have answered : ((handle fieldReader .default "local".toList tagSubmission).run
      threeAnswers).outcome = .ok (.page tagPage) := rfl
  obtain ⟨shown, -, -, texts, alike⟩ := texts_never_markup answered
  refine ⟨answered, shown, (texts "<i>".toList List.mem_cons_self).1, ?_⟩
  exact alike _ (Page.Shape.shape_blank _) _ (by simp [delimiters])

end InlineDice.Web
