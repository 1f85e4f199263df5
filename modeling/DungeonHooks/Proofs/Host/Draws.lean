import DungeonHooks.Host.Basic

/-! Random draws: the one thing that may be done to a host without leaving a trace in the game. -/

namespace DungeonHooks

variable {σ : Type} [Host σ]

/-- The host after draws between the given bounds, one after another. -/
def drawn (draws : List (Int32 × Int32)) (host : σ) : σ :=
  draws.foldl (fun host (low, high) => (Host.randRange low high host).host) host

/-- The host after its border was given colors, one after another. -/
def painted (colors : List Int32) (host : σ) : σ :=
  colors.foldl (fun host color => (Host.changeBorderColor color host).host) host

/-- Without draws the host stays as it is. -/
@[simp] theorem drawn_nil (host : σ) : drawn [] host = host :=
  rfl

/-- The first draw comes before the others. -/
@[simp] theorem drawn_cons (low high : Int32) (rest : List (Int32 × Int32)) (host : σ) :
    drawn ((low, high) :: rest) host = drawn rest (Host.randRange low high host).host :=
  rfl

/-- Draws that follow on each other are made one after the other. -/
theorem drawn_append (first second : List (Int32 × Int32)) (host : σ) :
    drawn (first ++ second) host = drawn second (drawn first host) :=
  List.foldl_append

/-- The second host is what the first one is after some draws. -/
def OnlyDrawn (before after : σ) : Prop :=
  ∃ draws, after = drawn draws before

namespace OnlyDrawn

/-- Nothing has to be drawn. -/
theorem refl (host : σ) : OnlyDrawn host host :=
  ⟨[], rfl⟩

/-- Draws may be followed by draws. -/
theorem trans {first second third : σ} (before : OnlyDrawn first second)
    (after : OnlyDrawn second third) : OnlyDrawn first third := by
  obtain ⟨draws, rfl⟩ := before
  obtain ⟨more, rfl⟩ := after
  exact ⟨draws ++ more, (drawn_append draws more first).symm⟩

end OnlyDrawn

end DungeonHooks
