import DungeonHooks.Proofs.Checked.Host
import DungeonHooks.Proofs.Host.Draws

/-! Draws of the simulated host one after another: none overflows, and each takes one queued value as long as there is one. -/

namespace DungeonHooks

/-- The values that a host draws between the given bounds, one after another. -/
def draws {σ : Type} [Host σ] : List (Int32 × Int32) → σ → List Int32
  | [], _ => []
  | (low, high) :: rest, host =>
    let reply := Host.randRange low high host
    reply.value :: draws rest reply.host

/-- Every pair of bounds has its draw. -/
theorem length_draws {σ : Type} [Host σ] (calls : List (Int32 × Int32)) (host : σ) :
    (draws calls host).length = calls.length := by
  induction calls generalizing host with
  | nil => rfl
  | cons call rest ih => exact congrArg (· + 1) (ih (Host.randRange call.1 call.2 host).host)

namespace Replay

namespace SimulatedHost

/-- Draws with checked operations, one after another. -/
def drawsChecked : List (Int32 × Int32) → SimulatedHost → Except Halt (List Int32 × SimulatedHost)
  | [], host => .ok ([], host)
  | (low, high) :: rest, host => do
    let (drawn, host) ← host.drawChecked low high
    let (later, host) ← drawsChecked rest host
    return (drawn :: later, host)

/-- The host draws by its own function. -/
theorem randRange_eq (low high : Int32) (host : SimulatedHost) :
    Host.randRange low high host = .still (host.draw low high).2 (host.draw low high).1 :=
  rfl

/-- Draws that follow on each other take their values from the front of the queue, one each. -/
theorem drawn_eq (calls : List (Int32 × Int32)) (host : SimulatedHost) :
    drawn calls host = { host with random := host.random.drop calls.length } := by
  induction calls generalizing host with
  | nil => rfl
  | cons call rest ih =>
    obtain ⟨low, high⟩ := call
    rw [drawn_cons, ih, randRange_eq]
    simp only [Reply.still, draw_host, List.drop_tail, List.length_cons]

/-- None of them overflows. -/
theorem drawsChecked_eq (calls : List (Int32 × Int32)) (host : SimulatedHost) :
    host.drawsChecked calls = .ok (draws calls host, drawn calls host) := by
  induction calls generalizing host with
  | nil => rfl
  | cons call rest ih =>
    obtain ⟨low, high⟩ := call
    rw [drawsChecked, drawChecked_eq]
    -- The later draws are made on the host that the first one leaves.
    show (drawsChecked rest (host.draw low high).2).bind _ = _
    rw [ih]
    rfl

/-- Each of them is as it should be for the value that stands at its place in the queue. -/
theorem draws_between {calls : List (Int32 × Int32)} {place : Nat} {low high : Int32}
    (called : calls[place]? = some (low, high)) (host : SimulatedHost) :
    ∃ value, (draws calls host)[place]? = some value ∧
      DrawnBetween low high host.random[place]? value := by
  -- A draw moves the queue on by one, as its place moves on in the list of draws.
  induction calls generalizing host place with
  | nil => cases called
  | cons call rest ih =>
    obtain ⟨first, second⟩ := call
    cases place with
    | zero =>
      obtain ⟨rfl, rfl⟩ : first = low ∧ second = high := by simpa using called
      refine ⟨_, rfl, ?_⟩
      rw [← List.head?_eq_getElem?]
      exact draw_between first second host
    | succ place =>
      obtain ⟨value, drawn, between⟩ := ih called (host.draw first second).2
      refine ⟨value, drawn, ?_⟩
      rwa [draw_host, List.getElem?_tail] at between

end SimulatedHost

/-- Draws between any bounds stay within them, whatever is queued, and each takes one value as long as there is one. -/
theorem draws_stay_between (calls : List (Int32 × Int32)) (host : SimulatedHost) :
    host.drawsChecked calls = .ok (draws calls host, drawn calls host) ∧
      drawn calls host = { host with random := host.random.drop calls.length } ∧
      (draws calls host).length = calls.length ∧
      ∀ (place : Nat) low high, calls[place]? = some (low, high) →
        ∃ value, (draws calls host)[place]? = some value ∧
          DrawnBetween low high host.random[place]? value := by
  refine ⟨host.drawsChecked_eq calls, host.drawn_eq calls, length_draws calls host, ?_⟩
  intro place low high called
  exact SimulatedHost.draws_between called host

/-- The whole range of words is wider than any word, and an empty range takes its value all the same. -/
example :
    let host : SimulatedHost := { random := [-1, 9, -3] }
    draws [(Int32.minValue, Int32.maxValue), (5, 5), (10, 14), (-2, 6)] host = [-2, 5, 11, -2] := by
  decide

end Replay

end DungeonHooks
