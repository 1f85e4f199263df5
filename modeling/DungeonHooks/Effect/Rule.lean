import DungeonHooks.Effect.Resolver

/-! Resolvers that answer by lists of rules; the first rule for an id counts. -/

namespace DungeonHooks

/-- What to do with uses of an item. -/
structure ItemRule where
  id : UInt16
  handled : Bool
  valid : Option Bool := none
  quantity : Option UInt16 := none
  deriving DecidableEq, Inhabited

/-- What to do with uses of a move. -/
structure MoveRule where
  id : UInt16
  handled : Bool
  damage : Bool := false
  pp : Option UInt8 := none
  deriving DecidableEq, Inhabited

/-- What a special process answers, if anything. -/
structure ProcessRule where
  id : UInt32
  value : Option Int32 := none
  deriving DecidableEq, Inhabited

/-- The rules of a resolver. -/
structure Rules where
  items : List ItemRule := []
  moves : List MoveRule := []
  processes : List ProcessRule := []
  deriving DecidableEq, Inhabited

/-- A resolver by rules; `asked` is told about every event, with its kind and id. -/
def Rules.resolver {σ : Type} (rules : Rules) (name : String) (asked : String → Nat → σ → σ) :
    Resolver σ where
  name := name
  Memory := Unit
  memory := ()
  onItem _ _ cx use :=
    let cx := { cx with host := asked "item" use.item.id.toNat cx.host }
    match rules.items.find? (·.id == use.item.id) with
    | some ⟨_, true, valid, quantity⟩ =>
      { claimed := true
        event := { use with
          target := { use.target with valid := valid.getD use.target.valid }
          item := { use.item with quantity := quantity.getD use.item.quantity } }
        memory := ()
        context := cx }
    | _ => .declined () cx use
  onMove _ cx use :=
    let cx := { cx with host := asked "move" use.input.moveId.toNat cx.host }
    match rules.moves.find? (·.id == use.input.moveId) with
    | some ⟨_, true, damage, pp⟩ =>
      { claimed := true
        event := { use with
          input := { use.input with dealtDamage := damage }
          used := { use.used with pp := pp.getD use.used.pp } }
        memory := ()
        context := cx }
    | _ => .declined () cx use
  onProcess call _ cx value :=
    let cx := { cx with host := asked "process" call.id.toNat cx.host }
    match (rules.processes.find? (·.id == call.id)).bind (·.value) with
    | some value => { claimed := true, event := value, memory := (), context := cx }
    | none => .declined () cx value

end DungeonHooks
