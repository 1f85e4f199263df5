import DungeonHooks.Proofs.Effect.Contract
import DungeonHooks.Proofs.Engine.Talks
import DungeonHooks.Script.Resolver

/-! What comes with the program only talks to its host: the built-in handlers, and every script. -/

namespace DungeonHooks

variable {σ : Type} [Host σ] {allowed : Request → Prop}

namespace Script

/-- A dialogue is a talk of draws and of entries for the journal. -/
theorem Dialogue.hold_spoken {α : Type} (ordinary : Ordinary allowed) (category : Category)
    (dialogue : Dialogue α) :
    Spoken allowed fun cx : Context σ =>
      let held := dialogue.hold category cx
      ((held.value, held.colors), held.context) := by
  induction dialogue with
  | done value => exact .still (value, [])
  | draw low high next ih =>
    exact (Spoken.request (.randRange low high) (ordinary _ rfl rfl)).andThen ih
  | say message next ih =>
    exact (Spoken.record category .info message (ordinary _ rfl rfl)).andThen fun _ => ih
  -- A color is kept until the event is claimed.
  | paint color next ih => exact ih.map fun (value, colors) => (value, color :: colors)

/-- Running a handler of a script is talking. -/
theorem attend_spoken {ε : Type} (ordinary : Ordinary allowed) (category : Category)
    (handler : Value) (offer : Store → Offer ε) (store : Store) :
    Spoken allowed fun cx : Context σ =>
      let attended := attend category handler offer store cx
      ((attended.outcome, attended.colors, attended.store), attended.context) := by
  let offered := offer store.offer
  have holds := @Dialogue.hold_spoken σ _ _ _ ordinary category
    (call maxSteps .outermost 0 handler offered.args offered.store)
  -- What becomes of the event is read off the store that the run leaves.
  exact holds.map fun left =>
    (offered.concluded left.1.2 left.1.1, left.2, left.1.2.withdraw)

/-- Coloring the border is talking, as often as it is done. -/
theorem recolor_spoken (ordinary : Ordinary allowed) (colors : List Int32) :
    Spoken allowed fun cx : Context σ => ((), recolor colors cx) := by
  -- Each color is a request of its own.
  induction colors with
  | nil => exact .still ()
  | cons color rest ih =>
    exact (Spoken.request (.changeBorderColor color) (ordinary _ rfl rfl)).andThen fun _ => ih

/-- Declining an event for a failure is an entry in the journal. -/
theorem failed_spoken {ε : Type} (ordinary : Ordinary allowed) (script : Script)
    (category : Category) (what : String) (id : Nat) (error : ScriptError) (event : ε) :
    Spoken allowed fun cx : Context σ => (script.failed category what id error cx event).split :=
  (Spoken.record category .error _ (ordinary _ rfl rfl)).map fun _ => (false, event, script)

/-- What is made of an event that a handler has seen is told to the host by talking. -/
theorem settle_spoken {ε : Type} (ordinary : Ordinary allowed) (script : Script)
    (category : Category) (what : String) (id : Nat) (event : ε)
    (outcome : Except ScriptError (Option ε)) (colors : List Int32) (store : Store) :
    Spoken allowed fun context : Context σ =>
      (script.settle category what id event { outcome, colors, store, context }).split := by
  -- One case for each outcome: the handler failed, declined or claimed.
  rcases outcome with error | _ | claimed
  · exact failed_spoken ordinary { script with store } category what id error event
  · exact Spoken.still (σ := σ) (false, event, { script with store })
  · have recolors : Spoken allowed fun cx : Context σ => ((), recolor colors cx) :=
      recolor_spoken ordinary colors
    exact recolors.map fun _ => (true, claimed, { script with store })

/-- Having a script handle an event is talking, whether it claims, declines or fails. -/
theorem handle_spoken {ε : Type} (ordinary : Ordinary allowed) (script : Script)
    (category : Category) (registry : Registry) (what : String) (id : Nat)
    (offer : Store → Offer ε) (event : ε) :
    Spoken allowed fun cx : Context σ =>
      (script.handle category registry what id offer cx event).split := by
  unfold handle
  cases script.store.handler registry id with
  | error error => exact failed_spoken ordinary script category what id (.mismatch error) event
  | ok registered =>
    cases registered with
    | none => exact .still (false, event, script)
    | some handler =>
      have attends := @attend_spoken σ _ _ _ ordinary category handler offer script.store
      -- The outcome of the handler decides what is told after it ran.
      exact attends.andThen fun left =>
        settle_spoken ordinary script category what id event left.1 left.2.1 left.2.2

/-- A script talks to its host in no other way than by requests that leave its windows alone. -/
theorem resolver_talks (ordinary : Ordinary allowed) (script : Script) :
    (script.resolver : Resolver σ).Talks allowed where
  item _ script _ := handle_spoken ordinary script _ _ _ _ _ _
  move script _ := handle_spoken ordinary script _ _ _ _ _ _
  process _ script _ := handle_spoken ordinary script _ _ _ _ _ _

end Script

namespace LocalEffects

/-- The handlers of the table only talk to their host. -/
structure Talks (allowed : Request → Prop) (effects : LocalEffects σ) : Prop where
  items : ∀ (id : UInt16) (handler : ItemHandler σ), effects.items[id]? = some handler →
    ∀ thrown use,
    Spoken allowed fun cx =>
      let (claimed, use, cx) := handler thrown cx use
      ((claimed, use), cx)
  moves : ∀ (id : UInt16) (handler : MoveHandler σ), effects.moves[id]? = some handler → ∀ use,
    Spoken allowed fun cx =>
      let (claimed, use, cx) := handler cx use
      ((claimed, use), cx)
  processes : ∀ (id : UInt32) (handler : ProcessHandler σ),
    effects.processes[id]? = some handler → ∀ call,
    Spoken allowed (handler call)

/-- A table of handlers that talk is a resolver that talks. -/
theorem Talks.resolver {effects : LocalEffects σ} (talks : effects.Talks allowed) :
    effects.resolver.Talks allowed where
  -- In each table, the handler is looked up under the id of the event.
  item thrown memory use := by
    simp only [LocalEffects.resolver]
    cases found : effects.items[use.item.id]? with
    -- What has no handler is declined in silence.
    | none => exact .still (false, use, memory)
    | some handler =>
      exact (talks.items _ _ found thrown use).map fun claim => (claim.1, claim.2, ())
  move memory use := by
    simp only [LocalEffects.resolver]
    cases found : effects.moves[use.input.moveId]? with
    | none => exact .still (false, use, memory)
    | some handler =>
      exact (talks.moves _ _ found use).map fun claim => (claim.1, claim.2, ())
  process call memory value := by
    simp only [LocalEffects.resolver]
    cases found : effects.processes[call.id]? with
    | none => exact .still (false, value, memory)
    | some handler => exact (talks.processes _ _ found call).map fun value => (true, value, ())

/-- The built-in handlers only talk to their host. -/
theorem builtin_talks (ordinary : Ordinary allowed) :
    (builtin : LocalEffects σ).Talks allowed where
  items id handler found thrown use := by
    obtain rfl : restoreAllPp = handler := eq_of_single found
    -- Only what was restored is told to the journal.
    simp only [restoreAllPp]
    cases use.target.monster with
    | none => exact .still (true, use)
    | some monster =>
      exact (Spoken.record .effects .info _ (ordinary _ rfl rfl)).map fun _ => (true, _)
  moves id handler found := by simp [builtin] at found
  processes id handler found call := by
    obtain rfl : changeBorderColor = handler := eq_of_single found
    have colors := @Spoken.request σ _ allowed (.changeBorderColor call.first.toInt32)
      (ordinary _ rfl rfl)
    exact colors.andThen fun _ =>
      (Spoken.record .specialProcess .info _ (ordinary _ rfl rfl)).map fun _ => (0 : Int32)

end LocalEffects

/-- Decoding an operand is asking the host, unless the operand is missing. -/
theorem Context.param_spoken (ordinary : Ordinary allowed) (args : List UInt16) (index : Nat) :
    Spoken allowed fun cx : Context σ => (cx.param args index, cx) := by
  -- A missing operand counts as zero, which the host is not asked about.
  unfold Context.param
  cases args[index]? with
  | none => exact .still 0
  | some raw => exact .request (.scriptParam raw) (ordinary _ rfl rfl)

/-- The built-in instructions only talk to their host. -/
theorem InstructionTable.builtin_talks (ordinary : Ordinary allowed) (first : Int32) :
    (InstructionTable.builtin first : InstructionTable σ).Talks allowed := by
  intro instruction member args routine
  have param (index : Nat) := @Context.param_spoken σ _ _ ordinary args index
  simp only [builtin, new, List.mem_cons, List.not_mem_nil, or_false] at member
  rcases member with rfl | rfl
  -- The operands of the dialogue box are decoded in order, and then it is changed.
  · have shows (box : DialogueBox) :=
      @Spoken.request σ _ allowed (.setDialogueBox box) (ordinary _ rfl rfl)
    have tells (box : DialogueBox) :=
      @Spoken.record σ _ allowed .instructions .info box.announced (ordinary _ rfl rfl)
    have ends (box : DialogueBox) := (shows box).andThen fun _ => (tells box).map fun _ => routine
    exact (param 0).andThen fun x => (param 1).andThen fun y => (param 2).andThen fun width =>
      (param 3).andThen fun height => (param 4).andThen fun screen =>
        (param 5).andThen fun frame => ends { x, y, width, height, screen, frame }
  · have saves (buttons : UInt32) := @Spoken.request σ _ allowed
      (.saveVariable .eventLocal buttons.toInt32) (ordinary _ rfl rfl)
    -- The mode decides which of the two button fields is read.
    have reads (mode : Int32) : Spoken allowed fun cx : Context σ =>
        (if mode == 0 then Host.pressedButtons cx.host else Host.heldButtons cx.host, cx) := by
      split
      · exact .request .pressedButtons (ordinary _ rfl rfl)
      · exact .request .heldButtons (ordinary _ rfl rfl)
    exact (param 0).andThen fun mode => (reads mode).andThen fun buttons =>
      (saves buttons).map fun _ => routine

/-- An engine of the program only talks to its host, and its handlers warn about no special process. -/
theorem Engine.program_talks_ordinary (ordinary : Ordinary allowed) (settings : Settings)
    (scripts : List Script) :
    (Engine.new settings .builtin (scripts.map Script.resolver) : Engine σ).Talks allowed where
  effects := by
    intro resolver member
    -- The local table is asked first, and the scripts after it.
    rcases List.mem_cons.mp member with rfl | scripted
    · exact (LocalEffects.builtin_talks ordinary).resolver
    · obtain ⟨script, _, rfl⟩ := List.mem_map.mp scripted
      exact script.resolver_talks ordinary
  instructions := InstructionTable.builtin_talks ordinary settings.firstCustomOpcode

/-- An engine of the program only talks to its host, whatever scripts it is given. -/
theorem Engine.program_talks (wide : Wide allowed) (settings : Settings) (scripts : List Script) :
    (Engine.new settings .builtin (scripts.map Script.resolver) : Engine σ).Talks allowed :=
  program_talks_ordinary wide.ordinary settings scripts

end DungeonHooks
