import VmLaunch.Catalog.Lookup
import VmLaunch.Proofs.Course

/-!
# Inquiries

An `Inquiry` is what remains to be asked about a reference: nothing, or one call
whose answer is judged by a pure function. The lookups of the catalog are
inquiries, and `Lookup.judge` is the judgement they share.
-/

namespace VmLaunch

/-- A result that is already decided, or one call and the judgement of its answer. -/
inductive Inquiry (α : Type) where
  | decided (result : Except LaunchError α)
  | asking (call : Call) (judge : Answer → Except LaunchError α)

namespace Inquiry

variable {α β ε : Type} {view : ε → Exchange}

/-- Make the inquiry. -/
def perform (env : Environment) : Inquiry α → Work World α
  | .decided result => Work.ofExcept result
  | .asking call judge => Work.ask env call judge

/-- The inquiry with its value changed. -/
def map (f : α → β) : Inquiry α → Inquiry β
  | .decided result => .decided (result.map f)
  | .asking call judge => .asking call fun answer => (judge answer).map f

/-- The result that the answers of a provider lead to. -/
def evaluate (answers : Call → Answer) : Inquiry α → Except LaunchError α
  | .decided result => result
  | .asking call judge => judge (answers call)

/-- An inquiry makes at most one exchange, whose answer it judges. -/
def course (env : Environment) (mark : World → Call → ε) : Inquiry α → Course ε α
  | .decided result => fun steps outcome => steps = [] ∧ outcome = Outcome.ofExcept result
  | .asking call judge => fun steps outcome =>
      ∃ world, steps = [mark world call] ∧
        outcome = Outcome.ofExcept (judge (env.reply world call).answer)

/-- An inquiry ends. -/
theorem course_ends {inquiry : Inquiry α} {env : Environment} {mark : World → Call → ε}
    {steps : List ε} : ¬ inquiry.course env mark steps .unfinished := by
  intro way
  cases inquiry with
  | decided result => exact Outcome.ofExcept_ne_unfinished way.2.symm
  | asking call judge =>
    obtain ⟨world, -, ends⟩ := way
    exact Outcome.ofExcept_ne_unfinished ends.symm

/-- Changing the value commutes with making the inquiry. -/
theorem perform_map (inquiry : Inquiry α) (env : Environment) (f : α → β) :
    (inquiry.map f).perform env = do
      let value ← inquiry.perform env
      return f value := by
  funext world
  cases inquiry with
  | decided result => cases result <;> rfl
  | asking call judge =>
    let reply := env.reply world call
    change (Work.ofExcept ((judge reply.answer).map f) : Work World β)
        (world.afterCall call reply) =
      Work.bind (Work.ofExcept (judge reply.answer)) (fun value => Work.pure (f value))
        (world.afterCall call reply)
    cases judge reply.answer <;> rfl

/-- A changed value comes from a value of the inquiry. -/
theorem course_map_ok {inquiry : Inquiry α} {f : α → β} {env : Environment}
    {mark : World → Call → ε} {steps : List ε} {image : β}
    (way : (inquiry.map f).course env mark steps (.ok image)) :
    ∃ value, image = f value ∧ inquiry.course env mark steps (.ok value) := by
  have mapped : ∀ {result : Except LaunchError α},
      Outcome.ok image = Outcome.ofExcept (result.map f) →
        ∃ value, image = f value ∧ Outcome.ok value = Outcome.ofExcept result := by
    intro result ends
    cases result with
    | ok value =>
      cases ends
      exact ⟨value, rfl, rfl⟩
    | error cause => cases ends
  cases inquiry with
  | decided result =>
    obtain ⟨silent, ends⟩ := way
    obtain ⟨value, same, found⟩ := mapped ends
    exact ⟨value, same, silent, found⟩
  | asking call judge =>
    obtain ⟨world, asked, ends⟩ := way
    obtain ⟨value, same, found⟩ := mapped ends
    exact ⟨value, same, world, asked, found⟩

/-- A course whose exchanges agree with the answers of a provider ends as those
answers lead to. -/
theorem course_evaluate {inquiry : Inquiry α} {env : Environment} {mark : World → Call → ε}
    (marked : ∀ world call, view (mark world call) = env.exchange world call)
    {answers : Call → Answer} {steps : List ε} {outcome : Outcome α}
    (way : inquiry.course env mark steps outcome)
    (agree : ∀ step ∈ steps, (view step).answer = answers (view step).call) :
    outcome = Outcome.ofExcept (inquiry.evaluate answers) := by
  cases inquiry with
  | decided result => exact way.2
  | asking call judge =>
    obtain ⟨world, rfl, ends⟩ := way
    have answered := agree _ List.mem_cons_self
    rw [marked] at answered
    change (env.reply world call).answer = answers call at answered
    rw [ends, answered]
    rfl

/-- What an inquiry may ask, and which answers it takes a value from. -/
inductive Serves (asks : Call → Prop) (accepts : Answer → Prop) : Inquiry α → Prop where
  | decided {result} : Serves asks accepts (.decided result)
  | asking {call judge} (asked : asks call)
      (accepted : ∀ answer value, judge answer = .ok value → accepts answer) :
      Serves asks accepts (.asking call judge)

/-- An inquiry serves as before whatever is made of its value. -/
theorem Serves.map {asks : Call → Prop} {accepts : Answer → Prop}
    {inquiry : Inquiry α} (serves : inquiry.Serves asks accepts) (f : α → β) :
    (inquiry.map f).Serves asks accepts := by
  cases serves with
  | decided => exact .decided
  | @asking call judge asked accepted =>
    refine .asking asked fun answer value judged => ?_
    cases found : judge answer with
    | ok taken => exact accepted answer taken found
    | error cause => simp [found, Except.map] at judged

/-- An inquiry that serves for some calls serves for more. -/
theorem Serves.mono {asks wider : Call → Prop} {accepts : Answer → Prop}
    {inquiry : Inquiry α} (serves : inquiry.Serves asks accepts)
    (widen : ∀ call, asks call → wider call) : inquiry.Serves wider accepts := by
  cases serves with
  | decided => exact .decided
  | asking asked accepted => exact .asking (widen _ asked) accepted

/-- Every error of an inquiry is of a kind. -/
inductive Blames (blame : LaunchError → Prop) : Inquiry α → Prop where
  | decided {value} : Blames blame (.decided (.ok value))
  | refused {cause} (blamed : blame cause) : Blames blame (.decided (.error cause))
  | asking {call judge} (blames : ∀ answer cause, judge answer = .error cause → blame cause) :
      Blames blame (.asking call judge)

private theorem map_eq_error {result : Except LaunchError α} {f : α → β} {cause : LaunchError}
    (failed : result.map f = .error cause) : result = .error cause := by
  cases result with
  | ok value => cases failed
  | error other =>
    cases failed
    rfl

/-- An inquiry has the same errors whatever is made of its value. -/
theorem Blames.map {blame : LaunchError → Prop} {inquiry : Inquiry α}
    (blames : inquiry.Blames blame) (f : α → β) : (inquiry.map f).Blames blame := by
  cases blames with
  | decided => exact .decided
  | refused blamed => exact .refused blamed
  | asking blames =>
    exact .asking fun answer cause failed => blames answer cause (map_eq_error failed)

/-- An error that an inquiry has ended with is of its kind. -/
theorem Blames.of_course {blame : LaunchError → Prop} {inquiry : Inquiry α}
    (blames : inquiry.Blames blame) {env : Environment} {mark : World → Call → ε}
    {steps : List ε} {cause : LaunchError}
    (way : inquiry.course env mark steps (.error cause)) : blame cause := by
  cases blames with
  | decided => cases way.2
  | refused blamed =>
    cases way.2
    exact blamed
  | @asking call judge blames =>
    obtain ⟨world, -, ends⟩ := way
    cases judged : judge (env.reply world call).answer with
    | ok value =>
      rw [judged] at ends
      cases ends
    | error other =>
      rw [judged] at ends
      cases ends
      exact blames _ _ judged

end Inquiry

/-- The errors that a failed lookup ends with. -/
def LaunchError.FromLookup : LaunchError → Prop
  | .unresolved _ _ _ => True
  | .malformed _ => True
  | _ => False

namespace Lookup

/-- What a lookup makes of an answer: a text that the answer holds and that is not empty. -/
def judge (kind : LookupKind) (reference : String) (what : Malformed) (lack : LookupCause)
    (text? : Json → Option String) : Answer → Except LaunchError String
  | .error fault => .error (onFault kind reference fault)
  | .ok body =>
    match text? body with
    | none => .error (.malformed what)
    | some text => if text = "" then .error (.unresolved kind reference lack) else .ok text

/-- A lookup that calls, reads and refuses an empty text is one question with a judgement. -/
theorem ask_judge {α : Type} (env : Environment) (call : Call) (kind : LookupKind)
    (reference : String) (what : Malformed) (lack : LookupCause) (decode : Json → Option α)
    (field : α → String) :
    (do
      let body ← env.callOr call (onFault kind reference)
      let value ← Work.require what (decode body)
      nonEmpty kind reference lack (field value)) =
      Work.ask env call (judge kind reference what lack fun body => (decode body).map field) := by
  funext world
  simp only [Work.ask, Environment.callOr, Environment.call, bind, Work.bind]
  cases (env.reply world call).answer with
  | error fault => rfl
  | ok body =>
    simp only [Pure.pure, Work.pure, judge]
    cases decode body with
    | none => rfl
    | some value =>
      by_cases vacant : field value = ""
      · simp [Work.require, Work.pure, nonEmpty, vacant, Work.ofExcept]
      · simp [Work.require, Work.pure, nonEmpty, vacant, Work.ofExcept, Pure.pure]

/-- A lookup takes its text from an answer that holds it, and never an empty one. -/
theorem judge_eq_ok_iff {kind : LookupKind} {reference : String} {what : Malformed}
    {lack : LookupCause} {text? : Json → Option String} {answer : Answer} {text : String} :
    judge kind reference what lack text? answer = .ok text ↔
      ∃ body, answer = .ok body ∧ text? body = some text ∧ text ≠ "" := by
  constructor
  · intro judged
    cases answer with
    | error fault => cases judged
    | ok body =>
      cases held : text? body with
      | none => simp [judge, held] at judged
      | some found =>
        by_cases vacant : found = ""
        · simp [judge, held, vacant] at judged
        · simp only [judge, held, vacant, if_false] at judged
          cases judged
          exact ⟨body, rfl, held, vacant⟩
  · rintro ⟨body, rfl, held, filled⟩
    simp [judge, held, filled]

/-- A lookup that fails has asked for something that is not there or cannot be read. -/
theorem judge_blames {kind : LookupKind} {reference : String} {what : Malformed}
    {lack : LookupCause} {text? : Json → Option String} {answer : Answer} {cause : LaunchError}
    (failed : judge kind reference what lack text? answer = .error cause) :
    cause.FromLookup := by
  cases answer with
  | error fault =>
    cases failed
    trivial
  | ok body =>
    cases held : text? body with
    | none =>
      simp only [judge, held] at failed
      cases failed
      trivial
    | some text =>
      by_cases vacant : text = ""
      · simp only [judge, held, vacant, if_true] at failed
        cases failed
        trivial
      · simp [judge, held, vacant] at failed

/-- The latest image of a family. -/
def familyInquiry (imageProject family : String) : Inquiry String :=
  .asking (.get (imageFamilyPath family imageProject))
    (judge .imageFamily family (.imageFamily family) .noSelfLink fun body =>
      (Image.decode body).map Image.selfLink)

/-- The address of a text, which is asked for unless it is a literal. -/
def addressInquiry (project region text : String) : Inquiry String :=
  if Address.isLiteral (Text.trim text) then .decided (.ok (Text.trim text))
  else if shortName (Text.trim text) = "" then
    .decided (.error (.unresolved .address (Text.trim text) .emptyName))
  else
    .asking (.get (regionParent project region "addresses" ++ "/" ++ shortName (Text.trim text)))
      (judge .address (Text.trim text) (.address (shortName (Text.trim text))) .noIp fun body =>
        (ReservedAddress.decode body).map ReservedAddress.address)

/-- The network of a subnetwork. -/
def networkInquiry (project region subnetwork : String) : Inquiry String :=
  .asking (subnetworkCall project region (Text.trim subnetwork))
    (judge .subnetwork subnetwork (.subnetwork (Text.trim subnetwork)) .noNetwork fun body =>
      (Subnetwork.decode body).map Subnetwork.network)

/-- The latest image of a family is looked up by its inquiry. -/
theorem imageFamily_eq_perform (env : Environment) (imageProject family : String) :
    imageFamily env imageProject family = (familyInquiry imageProject family).perform env :=
  ask_judge env _ .imageFamily family (.imageFamily family) .noSelfLink Image.decode Image.selfLink

/-- An address is looked up by its inquiry. -/
theorem address_eq_perform (env : Environment) (project region text : String) :
    address env project region text = (addressInquiry project region text).perform env := by
  unfold address addressInquiry
  by_cases literal : Address.isLiteral (Text.trim text)
  · simp only [literal, if_true]
    rfl
  by_cases vacant : shortName (Text.trim text) = ""
  · simp only [literal, vacant]
    rfl
  · have named : (nonEmpty .address (Text.trim text) .emptyName (shortName (Text.trim text)) :
        Work World String) = Work.pure (shortName (Text.trim text)) := by
      simp [nonEmpty, vacant, Pure.pure]
    simp only [literal, vacant, named, if_false, Bool.false_eq_true]
    exact ask_judge env _ .address (Text.trim text) _ .noIp ReservedAddress.decode
      ReservedAddress.address

/-- The network of a subnetwork is looked up by its inquiry. -/
theorem subnetworkNetwork_eq_perform (env : Environment) (project region subnetwork : String) :
    subnetworkNetwork env project region subnetwork =
      (networkInquiry project region subnetwork).perform env :=
  ask_judge env _ .subnetwork subnetwork (.subnetwork (Text.trim subnetwork)) .noNetwork
    Subnetwork.decode Subnetwork.network

end Lookup

end VmLaunch
