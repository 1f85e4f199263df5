import DungeonHooks.Proofs.Menu.Session

/-! Menus that cannot tell apart hosts that agree are started and polled alike on them. -/

namespace DungeonHooks

variable {σ α : Type} {agree : σ → σ → Prop}

/-- Two replies that are the same, on hosts that agree. -/
structure MenuReply.Agrees (agree : σ → σ → Prop) (reply other : MenuReply σ α) : Prop where
  answer : reply.answer = other.answer
  machine : reply.machine = other.machine
  host : agree reply.context.host other.context.host

/-- Two results of a callback that are the same, on hosts that agree. -/
structure MenuFrame.Agrees (agree : σ → σ → Prop) (result other : Except Halt α × MenuFrame σ) :
    Prop where
  answer : result.1 = other.1
  state : result.2.state = other.2.state
  host : agree result.2.context.host other.2.context.host

/-- The callback goes alike on hosts that agree, whatever journal and log hold. -/
def MenuCallback.Respects (agree : σ → σ → Prop) (callback : MenuCallback σ α) : Prop :=
  ∀ (id : Int32) (frame other : MenuFrame σ), frame.state = other.state →
    agree frame.context.host other.context.host →
      MenuFrame.Agrees agree (callback id frame) (callback id other)

/-- The callbacks of the menu go alike on hosts that agree. -/
structure Menu.Respects (agree : σ → σ → Prop) (menu : Menu σ) : Prop where
  create : menu.create.Respects agree
  update : menu.update.Respects agree
  close : menu.close.Respects agree

/-- The menus of the machine go alike on hosts that agree. -/
def MenuMachine.Respects (agree : σ → σ → Prop) (machine : MenuMachine σ) : Prop :=
  ∀ descriptor ∈ machine.table.records, descriptor.menu.Respects agree

namespace MenuMachine

/-- Settled calls agree if their callbacks do. -/
theorem settle_agrees (machine : MenuMachine σ) (answer : Except Halt α)
    {frame other : MenuFrame σ} (state : frame.state = other.state)
    (alike : agree frame.context.host other.context.host) :
    (machine.settle answer frame).Agrees agree (machine.settle answer other) := by
  refine ⟨rfl, by simp only [settle, state], ?_⟩
  -- A halt is only logged.
  cases answer <;> exact alike

/-- Sessions that end alike settle alike. -/
theorem finish_agrees (machine : MenuMachine σ) (id : Int32) {frame other : MenuFrame σ}
    (state : frame.state = other.state) (alike : agree frame.context.host other.context.host) :
    (machine.finish id frame).Agrees agree (machine.finish id other) := by
  -- The value of the session is part of its state.
  unfold finish
  rw [state]
  exact settle_agrees machine _ rfl alike

section

variable {machine : MenuMachine σ} (respects : machine.Respects agree) (id : Int32)
  {cx other : Context σ} (alike : agree cx.host other.host)

include respects alike

/-- A known menu starts alike in machines with the same menus, whatever they were doing. -/
theorem start_afresh {begun : MenuMachine σ} (same : begun.table = machine.table)
    {descriptor : MenuDescriptor σ} (known : machine.table.lookup id = .ok descriptor) :
    (machine.start id cx).Agrees agree (begun.start id other) := by
  let fresh : MenuMachine σ := { machine with state := { activeMenu := some id } }
  unfold start
  rw [same, known]
  -- Whether another menu was still open is told to the journal alone.
  have announced : agree (machine.announce id descriptor.name cx).host
      (begun.announce id descriptor.name other).host := by
    rw [announce_host, announce_host]
    exact alike
  have created := (respects descriptor (HandlerTable.mem_of_get known)).create id
    (fresh.frame (machine.announce id descriptor.name cx))
    (fresh.frame (begun.announce id descriptor.name other)) rfl announced
  dsimp only
  rw [created.answer]
  exact settle_agrees fresh _ created.state created.host

/-- A menu starts alike on hosts that agree. -/
theorem start_agrees : (machine.start id cx).Agrees agree (machine.start id other) := by
  cases known : machine.table.lookup id with
  | error error =>
    unfold start
    rw [known]
    exact ⟨rfl, rfl, alike⟩
  | ok descriptor => exact start_afresh respects id alike rfl known

/-- A menu is polled alike on hosts that agree. -/
theorem step_agrees : (machine.step id cx).Agrees agree (machine.step id other) := by
  unfold step
  cases known : machine.descriptor? id with
  | none => exact ⟨rfl, rfl, alike⟩
  | some descriptor =>
    have callbacks := respects descriptor
      (HandlerTable.mem_of_get (HandlerTable.lookup_eq_ok_iff.mpr known))
    -- The update comes first, and a session that is over is closed after it.
    have updated := callbacks.update id (machine.frame cx) (machine.frame other) rfl alike
    dsimp only
    split
    · exact ⟨rfl, rfl, alike⟩
    · -- What comes of the poll is decided by the answers, which are the same.
      generalize descriptor.menu.update id (machine.frame cx) = result at updated ⊢
      generalize descriptor.menu.update id (machine.frame other) = result' at updated ⊢
      obtain ⟨answer, frame⟩ := result
      obtain ⟨same, frame'⟩ := result'
      obtain ⟨rfl : answer = same, state, host⟩ := updated
      rcases answer with halt | ended
      · exact settle_agrees machine _ state host
      · cases ended with
        | false => exact settle_agrees machine _ state host
        | true =>
          have closed := callbacks.close id frame frame' state host
          dsimp only at closed ⊢
          generalize descriptor.menu.close id frame = result at closed ⊢
          generalize descriptor.menu.close id frame' = result' at closed ⊢
          obtain ⟨answer, frame⟩ := result
          obtain ⟨same, frame'⟩ := result'
          obtain ⟨rfl : answer = same, state, host⟩ := closed
          rcases answer with halt | done
          · exact settle_agrees machine _ state host
          · exact finish_agrees machine id state host

end

end MenuMachine

end DungeonHooks
