import DungeonHooks.Proofs.Host.Draws
import DungeonHooks.Script.Dialogue

/-! All that a script says to its host while it runs, and what the host and the journal make of it. -/

namespace DungeonHooks

/-- Keeps entries in order, if the journal is enabled. -/
def Journal.keepAll (entries : List JournalEntry) (journal : Journal) : Journal :=
  entries.foldl (·.keep ·) journal

namespace Script

variable {α σ : Type} [Host σ]

/-- Something that a running script says to its host. -/
inductive Remark where
  | draw (low high : Int32)
  | line (message : String)
  | paint (color : Int32)
  deriving DecidableEq, Inhabited

/-- The bounds of a draw. -/
def Remark.draw? : Remark → Option (Int32 × Int32)
  | .draw low high => some (low, high)
  | _ => none

/-- The entry that a journal keeps for a line. -/
def Remark.line? (category : Category) : Remark → Option JournalEntry
  | .line message => some { category, severity := .info, message }
  | _ => none

/-- A color that is asked for. -/
def Remark.color? : Remark → Option Int32
  | .paint color => some color
  | _ => none

namespace Dialogue

/-- What is said in a dialogue with a host, first things first. -/
def remarks (category : Category) : Dialogue α → Context σ → List Remark
  | done _, _ => []
  | draw low high next, cx =>
    let (drawn, cx) := cx.call (Host.randRange low high)
    .draw low high :: (next drawn).remarks category cx
  | say message next, cx => .line message :: next.remarks category (cx.info category message)
  | paint color next, cx => .paint color :: next.remarks category cx

/-- Of all that is said, only the draws do anything to the host. -/
theorem hold_host (category : Category) (dialogue : Dialogue α) (cx : Context σ) :
    (dialogue.hold category cx).context.host =
      drawn ((dialogue.remarks category cx).filterMap (·.draw?)) cx.host := by
  induction dialogue generalizing cx with
  | done value => rfl
  | draw low high next ih => exact ih _ _
  | say message next ih => exact ih _
  | paint color next ih => exact ih _

/-- The journal keeps the lines, and nothing else. -/
theorem hold_journal (category : Category) (dialogue : Dialogue α) (cx : Context σ) :
    (dialogue.hold category cx).context.journal =
      cx.journal.keepAll ((dialogue.remarks category cx).filterMap (·.line? category)) := by
  induction dialogue generalizing cx with
  | done value => rfl
  | draw low high next ih => exact ih _ _
  | say message next ih => exact ih _
  | paint color next ih => exact ih _

/-- The colors are put aside in the order in which they are asked for. -/
theorem hold_colors (category : Category) (dialogue : Dialogue α) (cx : Context σ) :
    (dialogue.hold category cx).colors =
      (dialogue.remarks category cx).filterMap (·.color?) := by
  induction dialogue generalizing cx with
  | done value => rfl
  | draw low high next ih => exact ih _ _
  | say message next ih => exact ih _
  | paint color next ih => exact congrArg (color :: ·) (ih _)

end Dialogue

namespace Run

/-- A value is there at once. -/
theorem pure_apply (value : α) (store : Store) :
    (pure value : Run α) store = .done (.ok value, store) :=
  rfl

/-- Steps are taken one after another, as long as none is broken off. -/
theorem bind_apply {β : Type} (first : Run α) (next : α → Run β) (store : Store) :
    (first >>= next) store = (first store).bind fun (result, store) =>
      match result with
      | .ok value => next value store
      | .error raise => .done (.error raise, store) :=
  rfl

end Run

end Script

end DungeonHooks
