import DungeonHooks.Proofs.Host.Talk

/-! Actions that reach host and journal only by talking, and what follows from it. -/

namespace DungeonHooks

universe u v

/-- All requests are allowed that open and close no window. -/
def Wide (allowed : Request → Prop) : Prop :=
  ∀ request : Request, request.windowless = true → allowed request

/-- The request is a warning about a special process. -/
def Request.alarms : Request → Bool
  | .record category severity _ => severity == .warn && category == .specialProcess
  | _ => false

/-- All requests are allowed that open and close no window, unless they warn about a special process. -/
def Ordinary (allowed : Request → Prop) : Prop :=
  ∀ request : Request, request.windowless = true → request.alarms = false → allowed request

/-- What allows the warnings as well allows the rest. -/
theorem Wide.ordinary {allowed : Request → Prop} (wide : Wide allowed) : Ordinary allowed :=
  fun request windowless _ => wide request windowless

/-- All entries are allowed but those warnings. -/
theorem Ordinary.records {allowed : Request → Prop} (ordinary : Ordinary allowed)
    {category : Category} {severity : Severity}
    (other : severity ≠ .warn ∨ category ≠ .specialProcess) (message : String) :
    allowed (.record category severity message) := by
  refine ordinary _ rfl ?_
  -- One of the two parts of the warning is missing.
  rcases other with severity | category <;> simp [Request.alarms, *]

section

variable {σ : Type} [Host σ]

/-- Hosts that agree answer every allowed request alike, and agree after it. -/
def Respected (allowed : Request → Prop) (agree : σ → σ → Prop) : Prop :=
  ∀ request, allowed request → ∀ cx other : Context σ, agree cx.host other.host →
    (request.serve cx).1 = (request.serve other).1 ∧
      agree (request.serve cx).2.host (request.serve other).2.host

/-- The same host serves every request in the same way. -/
theorem respected_eq : Respected (σ := σ) (fun _ => True) Eq :=
  fun request _ _ _ same => request.serve_deaf same

/-- A relation between a host before and after that every allowed request keeps to. -/
structure Kept (allowed : Request → Prop) (kept : σ → σ → Prop) : Prop where
  refl : ∀ host, kept host host
  trans : ∀ {first second third}, kept first second → kept second third → kept first third
  serve : ∀ request, allowed request → ∀ cx : Context σ, kept cx.host (request.serve cx).2.host

end

namespace Talk

variable {α : Type u} {β : Type v} {allowed : Request → Prop}

/-- Every request that a talk may come to is an allowed one. -/
def Uses (allowed : Request → Prop) : Talk α → Prop
  | done _ => True
  | ask request next => allowed request ∧ ∀ answer, (next answer).Uses allowed

/-- Talks that follow on each other make the requests of both. -/
theorem Uses.bind {talk : Talk α} {next : α → Talk β} (first : talk.Uses allowed)
    (rest : ∀ value, (next value).Uses allowed) : (talk.bind next).Uses allowed := by
  -- The second talk begins wherever the first one ends.
  induction talk with
  | done value => exact rest value
  | ask request answer ih => exact ⟨first.1, fun given => ih given (first.2 given)⟩

/-- Hosts that agree on every allowed request agree on a whole talk. -/
theorem Uses.hold_respects {σ : Type} [Host σ] {agree : σ → σ → Prop} {talk : Talk α}
    (uses : talk.Uses allowed) (respected : Respected allowed agree) {cx other : Context σ}
    (alike : agree cx.host other.host) :
    (talk.hold cx).value = (talk.hold other).value ∧
      agree (talk.hold cx).context.host (talk.hold other).context.host := by
  induction talk generalizing cx other with
  | done value => exact ⟨rfl, alike⟩
  | ask request next ih =>
    -- The same answer leads on to the same rest of the talk.
    obtain ⟨same, alike⟩ := respected request uses.1 cx other alike
    simp only [hold_ask]
    rw [same]
    exact ih _ (uses.2 _) alike

/-- What every allowed request keeps to is kept to by a whole talk. -/
theorem Uses.hold_keeps {σ : Type} [Host σ] {kept : σ → σ → Prop} {talk : Talk α}
    (uses : talk.Uses allowed) (keeps : Kept allowed kept) (cx : Context σ) :
    kept cx.host (talk.hold cx).context.host := by
  induction talk generalizing cx with
  | done value => exact keeps.refl cx.host
  | ask request next ih =>
    -- The first request leaves the host from which the rest is held.
    exact keeps.trans (keeps.serve request uses.1 cx) (ih _ (uses.2 _) _)

end Talk

section

variable {σ : Type} [Host σ] {α : Type u} {β : Type v} {allowed : Request → Prop}

/-- The action is a talk of allowed requests: it reaches host and journal in no other way. -/
def Spoken (allowed : Request → Prop) (act : Context σ → α × Context σ) : Prop :=
  ∃ talk : Talk α, talk.Uses allowed ∧
    ∀ cx, act cx = ((talk.hold cx).value, (talk.hold cx).context)

namespace Spoken

/-- To do nothing is to say nothing. -/
theorem still (value : α) : Spoken allowed fun cx : Context σ => (value, cx) :=
  ⟨.done value, trivial, fun _ => rfl⟩

/-- A request is a talk of its own. -/
theorem request (asked : Request) (permitted : allowed asked) :
    Spoken allowed fun cx : Context σ => asked.serve cx :=
  ⟨.request asked, ⟨permitted, fun _ => trivial⟩, fun _ => rfl⟩

/-- An entry for the journal is a talk of its own. -/
theorem record (category : Category) (severity : Severity) (message : String)
    (permitted : allowed (.record category severity message)) :
    Spoken allowed fun cx : Context σ => ((), cx.record category severity message) :=
  -- The journal is reached by a request, like the host.
  .request (.record category severity message) permitted

/-- Actions that follow on each other are talks that do. -/
theorem andThen {first : Context σ → α × Context σ} {next : α → Context σ → β × Context σ}
    (begins : Spoken allowed first) (goesOn : ∀ value, Spoken allowed (next value)) :
    Spoken allowed fun cx => next (first cx).1 (first cx).2 := by
  obtain ⟨talk, uses, held⟩ := begins
  -- The rest is chosen by the value that the first talk ends in.
  obtain ⟨rest, said⟩ := Classical.axiomOfChoice goesOn
  refine ⟨talk.bind rest, uses.bind fun value => (said value).1, fun cx => ?_⟩
  simp only [Talk.hold_bind, held, (said _).2]

/-- What is made of the value of an action adds nothing to what it says. -/
theorem map {act : Context σ → α × Context σ} (spoken : Spoken allowed act) (change : α → β) :
    Spoken allowed fun cx => (change (act cx).1, (act cx).2) :=
  spoken.andThen fun value => still (change value)

/-- An action that says the same is a talk, too. -/
theorem of_eq {act same : Context σ → α × Context σ} (spoken : Spoken allowed act)
    (equal : ∀ cx, same cx = act cx) : Spoken allowed same := by
  rwa [show same = act from funext equal]

/-- Hosts that agree on every allowed request agree on the action. -/
theorem respects {agree : σ → σ → Prop} {act : Context σ → α × Context σ}
    (spoken : Spoken allowed act) (respected : Respected allowed agree) {cx other : Context σ}
    (alike : agree cx.host other.host) :
    (act cx).1 = (act other).1 ∧ agree (act cx).2.host (act other).2.host := by
  -- The talk behind the action decides what it does on either host.
  obtain ⟨talk, uses, held⟩ := spoken
  simp only [held]
  exact uses.hold_respects respected alike

/-- What every allowed request keeps to is kept to by the action. -/
theorem keeps {kept : σ → σ → Prop} {act : Context σ → α × Context σ}
    (spoken : Spoken allowed act) (keeps : Kept allowed kept) (cx : Context σ) :
    kept cx.host (act cx).2.host := by
  -- What the requests of the talk keep to, the action keeps to.
  obtain ⟨talk, uses, held⟩ := spoken
  simp only [held]
  exact uses.hold_keeps keeps cx

end Spoken

end

end DungeonHooks
