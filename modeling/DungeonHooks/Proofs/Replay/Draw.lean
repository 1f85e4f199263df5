import Mathlib.Data.Int.ModEq
import DungeonHooks.Proofs.Dispatch.Table
import DungeonHooks.Replay.SimulatedHost

/-! One draw of the simulated host: within its bounds, and congruent to the queued value that it takes. -/

namespace DungeonHooks.Replay

/-- What is drawn between two bounds, given the value that is next in the queue if there is one. -/
structure DrawnBetween (low high : Int32) (next : Option Int32) (drawn : Int32) : Prop where
  /-- The draw is within its bounds if they leave room for one, however far they are apart. -/
  within : low < high → low ≤ drawn ∧ drawn < high
  empty : high ≤ low → drawn = low
  unqueued : next = none → drawn = low
  /-- Bounds whose distance fits a word wrap the queued value around, as an exact number. -/
  wrapped : ∀ value, next = some value → low < high →
    high.toInt - low.toInt ≤ Int32.maxValue.toInt →
      drawn.toInt ≡ low.toInt + value.toInt [ZMOD high.toInt - low.toInt]

namespace SimulatedHost

variable {low high : Int32} {host : SimulatedHost}

/-- A draw takes one value from the queue, if there is any, and nothing else changes. -/
theorem draw_host (low high : Int32) (host : SimulatedHost) :
    (host.draw low high).2 = { host with random := host.random.tail } := by
  unfold draw
  -- An empty queue stays empty.
  obtain ⟨queued, left⟩ : ∃ queued, host.random = queued := ⟨_, rfl⟩
  cases queued with
  | nil =>
    simp only [left, List.tail_nil]
    rw [← left]
  | cons value later => simp only [left, List.tail_cons]

/-- Without a queued value, the lower bound is drawn. -/
theorem draw_unqueued (queued : host.random.head? = none) : (host.draw low high).1 = low := by
  unfold draw
  rw [List.head?_eq_none_iff.mp queued]

/-- The clamped distance of two bounds is positive exactly if they leave room between them. -/
theorem span_pos_iff : 0 < saturatingSub high low ↔ low < high := by
  rw [Int32.lt_iff_toInt_lt, Int32.lt_iff_toInt_lt, saturatingSub, toInt_ofIntClamp_eq,
    Int32.toInt_zero, Int32.toInt_minValue, Int32.toInt_maxValue]
  omega

/-- Bounds without room between them let the lower one be drawn, queue or not. -/
theorem draw_empty (crossed : high ≤ low) : (host.draw low high).1 = low := by
  have spanless : ¬ 0 < saturatingSub high low := by
    rw [span_pos_iff]
    exact Int32.not_lt.mpr crossed
  unfold draw
  cases host.random with
  | nil => rfl
  | cons value later => simp only [if_neg spanless]

/-- The distance of two bounds is exact, unless it is cut off at the largest word. -/
theorem toInt_span (room : low < high) :
    (saturatingSub high low).toInt = min (high.toInt - low.toInt) Int32.maxValue.toInt := by
  rw [Int32.lt_iff_toInt_lt] at room
  rw [saturatingSub, toInt_ofIntClamp_eq, Int32.toInt_minValue, Int32.toInt_maxValue]
  omega

/-- What is left of a value by the distance of two bounds leads from the lower one to a number before the other. -/
theorem remainder_within (room : low < high) (value : Int) :
    0 ≤ value % (saturatingSub high low).toInt ∧
      low.toInt + value % (saturatingSub high low).toInt < high.toInt := by
  have span := toInt_span room
  rw [Int32.toInt_maxValue] at span
  have positive := Int32.lt_iff_toInt_lt.mp (span_pos_iff.mpr room)
  rw [Int32.toInt_zero] at positive
  have natural := Int.emod_nonneg value (Int.ne_of_gt positive)
  have below := Int.emod_lt_of_pos value positive
  -- A distance that was cut off is less than the exact one, which only helps.
  constructor <;> omega

/-- A queued value is added to the lower bound, as far as the distance of the bounds leaves it. -/
theorem toInt_draw {value : Int32} (room : low < high) (queued : host.random.head? = some value) :
    (host.draw low high).1.toInt =
      low.toInt + value.toInt % (saturatingSub high low).toInt := by
  obtain ⟨later, random⟩ := List.head?_eq_some_iff.mp queued
  obtain ⟨natural, below⟩ := remainder_within room value.toInt
  have positive : 0 < saturatingSub high low := span_pos_iff.mpr room
  -- The sum lies between two words, so that no word has to be made of anything else.
  have least := low.le_toInt
  have greatest := high.toInt_lt
  unfold draw
  simp only [random, if_pos positive]
  exact Int32.toInt_ofInt_of_le (by omega) (by omega)

/-- Every draw is as it should be. -/
theorem draw_between (low high : Int32) (host : SimulatedHost) :
    DrawnBetween low high host.random.head? (host.draw low high).1 where
  within room := by
    cases queued : host.random.head? with
    | none =>
      rw [draw_unqueued queued]
      exact ⟨Int32.le_refl low, room⟩
    | some value =>
      -- What is added is neither negative nor as large as the distance.
      obtain ⟨natural, below⟩ := remainder_within room value.toInt
      rw [Int32.le_iff_toInt_le, Int32.lt_iff_toInt_lt, toInt_draw room queued]
      constructor <;> omega
  empty := draw_empty
  unqueued := draw_unqueued
  wrapped value queued room fits := by
    rw [toInt_draw room queued, toInt_span room, Int.min_eq_left fits]
    -- A number and its remainder differ by multiples of the distance alone.
    exact (Int.mod_modEq value.toInt _).add_left low.toInt

end SimulatedHost

end DungeonHooks.Replay
