import DungeonHooks.Proofs.Host.Spoken

/-! Actions that neither read the journal nor the log: they only add to them what they tell. -/

namespace DungeonHooks

universe u v

/-- Something that reaches the log: an entry of the journal, or a line of somebody else. -/
inductive Told where
  | entry (entry : JournalEntry)
  | line (line : LogRecord)

namespace Told

/-- The line of the log that it is. -/
def forwarded : Told → LogRecord
  | .entry kept => kept.forwarded
  | .line said => said

/-- The entry of the journal that it is, if it is one. -/
def entry? : Told → Option JournalEntry
  | .entry kept => some kept
  | .line _ => none

end Told

variable {σ : Type} {α : Type u} {β : Type v} {lines : LogRecord → Prop}

/-- The context after all of it was told: the log has all of it, and the journal the entries. -/
def Context.hear (cx : Context σ) (told : List Told) : Context σ :=
  { cx with
    journal := (told.filterMap Told.entry?).foldl Journal.keep cx.journal
    log := cx.log ++ told.map Told.forwarded }

/-- What is told in two parts is told as a whole, wherever the host stands between them. -/
theorem Context.hear_append (cx : Context σ) (first second : List Told) (host : σ) :
    { cx.hear first with host }.hear second = { cx with host }.hear (first ++ second) := by
  -- Log and journal both grow at their end alone.
  simp [hear, List.filterMap_append, List.foldl_append, List.append_assoc]

/--
The action is deaf: the host alone decides its value, the host after it, and what it tells.

All lines that it tells beside entries are of some kind, and its value has a property.
-/
def Deaf (lines : LogRecord → Prop) (post : α → Prop) (act : Context σ → α × Context σ) : Prop :=
  ∀ host, ∃ value after told, post value ∧ (∀ line, Told.line line ∈ told → lines line) ∧
    ∀ cx : Context σ, cx.host = host → act cx = (value, { cx with host := after }.hear told)

namespace Deaf

/-- To do nothing is to tell nothing. -/
theorem still {post : α → Prop} {value : α} (holds : post value) :
    Deaf lines post fun cx : Context σ => (value, cx) := by
  refine fun host => ⟨value, host, [], holds, by simp, ?_⟩
  rintro cx rfl
  -- Hearing nothing leaves the context as it is.
  simp [Context.hear]

/-- Deaf actions that follow on each other tell all that both of them do. -/
theorem andThen {first : Context σ → α × Context σ} {next : α → Context σ → β × Context σ}
    {mid : α → Prop} {post : β → Prop} (begins : Deaf lines mid first)
    (goesOn : ∀ value, mid value → Deaf lines post (next value)) :
    Deaf lines post fun cx => next (first cx).1 (first cx).2 := by
  intro host
  obtain ⟨value, between, told, holds, heard, acts⟩ := begins host
  -- The second action begins on the host that the first one leaves.
  obtain ⟨last, after, more, ends, heard', acts'⟩ := goesOn value holds between
  refine ⟨last, after, told ++ more, ends, fun line member => ?_, fun cx same => ?_⟩
  · exact (List.mem_append.mp member).elim (heard line) (heard' line)
  · dsimp only
    rw [acts cx same]
    exact (acts' _ rfl).trans (congrArg _ (Context.hear_append _ told more after))

/-- An action that may fail is taken back if it does: nothing of it is left in the context. -/
theorem attempt {ε : Type} {first : Context σ → Except ε α × Context σ}
    {next : α → Context σ → β × Context σ} {mid : α → Prop} {post : β → Prop}
    (begins : Deaf lines (fun result => ∀ value, result = .ok value → mid value) first)
    (failed : ε → β) (fails : ∀ cause, post (failed cause))
    (goesOn : ∀ value, mid value → Deaf lines post (next value)) :
    Deaf lines post fun cx => match first cx with
      | (.error cause, _) => (failed cause, cx)
      | (.ok value, cx) => next value cx := by
  intro host
  obtain ⟨result, between, told, holds, heard, acts⟩ := begins host
  -- The host alone decides whether the action fails.
  cases result with
  | error cause =>
    -- What was told before the error is not told at all.
    refine ⟨failed cause, host, [], fails cause, by simp, ?_⟩
    rintro cx rfl
    dsimp only
    rw [acts cx rfl]
    simp [Context.hear]
  | ok value =>
    obtain ⟨last, after, more, ends, heard', acts'⟩ := goesOn value (holds value rfl) between
    refine ⟨last, after, told ++ more, ends, fun line member => ?_, fun cx same => ?_⟩
    · exact (List.mem_append.mp member).elim (heard line) (heard' line)
    · dsimp only
      rw [acts cx same]
      exact (acts' _ rfl).trans (congrArg _ (Context.hear_append _ told more after))

/-- What is made of the value of an action adds nothing to what it tells. -/
theorem map {act : Context σ → α × Context σ} {mid : α → Prop} {post : β → Prop}
    (deaf : Deaf lines mid act) (change : α → β) (holds : ∀ value, mid value → post (change value)) :
    Deaf lines post fun cx => (change (act cx).1, (act cx).2) :=
  deaf.andThen fun value known => still (holds value known)

/-- The value of a deaf action has every property that it has in all contexts. -/
theorem value {act : Context σ → α × Context σ} {mid post : α → Prop} (deaf : Deaf lines mid act)
    (holds : ∀ cx, post (act cx).1) : Deaf lines post act := by
  intro host
  obtain ⟨value, after, told, -, heard, acts⟩ := deaf host
  refine ⟨value, after, told, ?_, heard, acts⟩
  -- Any context with the host will do.
  have same := holds { host }
  rwa [acts { host } rfl] at same

/-- An action that does the same is deaf, too. -/
theorem of_eq {act same : Context σ → α × Context σ} {post : α → Prop} (deaf : Deaf lines post act)
    (equal : ∀ cx, same cx = act cx) : Deaf lines post same := by
  rwa [show same = act from funext equal]

/-- A service of the host is deaf, as long as the journal has no part in it. -/
theorem serves {act : Context σ → α × Context σ}
    (served : ∀ cx : Context σ, act cx = ((act { host := cx.host }).1,
      { cx with
        host := (act { host := cx.host }).2.host
        log := cx.log ++ (act { host := cx.host }).2.log }))
    (voiced : ∀ host, ∀ line ∈ (act { host }).2.log, lines line) :
    Deaf lines (fun _ => True) act := by
  refine fun host => ⟨(act { host }).1, (act { host }).2.host,
    (act { host }).2.log.map Told.line, trivial, ?_, ?_⟩
  · intro line member
    simp only [List.mem_map, Told.line.injEq, exists_eq_right] at member
    exact voiced host line member
  · rintro cx rfl
    -- None of the lines is an entry.
    have entries (said : List LogRecord) : (said.map Told.line).filterMap Told.entry? = [] := by
      simp [List.filterMap_eq_nil_iff, Told.entry?]
    rw [served cx]
    simp [Context.hear, entries, Function.comp_def, Told.forwarded]

/-- To record an entry is to tell it. -/
theorem record (category : Category) (severity : Severity) (message : String) :
    Deaf lines (fun _ => True) fun cx : Context σ => ((), cx.record category severity message) := by
  -- The one entry is the only thing told, and the host has no part in it.
  refine fun host => ⟨(), host, [.entry { category, severity, message }], trivial, by simp, ?_⟩
  rintro cx rfl
  rfl

/-- To say a line is to tell it to the log alone. -/
theorem say {line : LogRecord} (permitted : lines line) :
    Deaf lines (fun _ => True) fun cx : Context σ => ((), cx.say line) := by
  refine fun host => ⟨(), host, [.line line], trivial, by simpa using permitted, ?_⟩
  rintro cx rfl
  rfl

/-- What is done to the host alone is not heard at all. -/
theorem onHost (change : σ → σ) :
    Deaf lines (fun _ => True) fun cx : Context σ => ((), { cx with host := change cx.host }) := by
  refine fun host => ⟨(), change host, [], trivial, by simp, ?_⟩
  rintro cx rfl
  simp [Context.hear]

end Deaf

/-- The request is an entry for the journal. -/
def Request.journals : Request → Bool
  | .record .. => true
  | _ => false

/-- All that the host logs of its own accord is of some kind. -/
def HostSays (σ : Type) [Host σ] (lines : LogRecord → Prop) : Prop :=
  ∀ request : Request, request.journals = false → ∀ host : σ,
    ∀ line ∈ (request.serve { host }).2.log, lines line

section

variable [Host σ] (voiced : HostSays σ lines)

include voiced

/-- Every request is deaf. -/
theorem Request.serve_deafly (request : Request) :
    Deaf lines (fun _ => True) fun cx : Context σ => request.serve cx := by
  cases kind : request.journals with
  | true =>
    cases request with
    | record category severity message => exact .record category severity message
    | _ => cases kind
  | false =>
    refine .serves (fun cx => ?_) (voiced request kind)
    -- Questions log nothing, and commands what the host replies.
    cases request with
    | record => cases kind
    | _ => simp [serve, Context.call]

/-- So is a whole talk. -/
theorem Talk.hold_deafly (talk : Talk α) :
    Deaf lines (fun _ => True) fun cx : Context σ =>
      ((talk.hold cx).value, (talk.hold cx).context) := by
  -- The answer that a request gets leads on to a talk that is deaf again.
  induction talk with
  | done value => exact .still trivial
  | ask request next ih =>
    exact (request.serve_deafly voiced).andThen fun answer _ => ih answer

/-- And so is every action that is only talking; its value has what it has in all contexts. -/
theorem Spoken.deaf {allowed : Request → Prop} {act : Context σ → α × Context σ}
    {post : α → Prop} (spoken : Spoken allowed act) (holds : ∀ cx, post (act cx).1) :
    Deaf lines post act := by
  -- The action does what its talk does, so the value is that of the action, too.
  obtain ⟨talk, -, held⟩ := spoken
  exact ((talk.hold_deafly voiced).of_eq held).value holds

end

end DungeonHooks
