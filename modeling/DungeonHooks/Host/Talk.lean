import DungeonHooks.Host.Basic

/-! Talks: what a handler asks its host and tells it, one request after the other. -/

namespace DungeonHooks

universe u v

/-- A request: a question to the host, a command for it, or an entry for the journal. -/
inductive Request where
  | scriptParam (raw : UInt16)
  | setDialogueBox (box : DialogueBox)
  | pressedButtons
  | heldButtons
  | saveVariable (var : ScriptVariable) (value : Int32)
  | saveVariableBytes (var : ScriptVariable) (bytes : List UInt8)
  | changeBorderColor (color : Int32)
  | randRange (low high : Int32)
  | logMessage (user : Entity) (message : String)
  | boostOffensiveStat (user : Entity) (split : StatSplit) (stages : Int32)
  | boostDefensiveStat (user : Entity) (split : StatSplit) (stages : Int32)
  | createAdvancedMenu (menu : AdvancedMenu)
  | advancedMenuActive (window : WindowId)
  | advancedMenuResult (window : WindowId)
  | advancedMenuOption (window : WindowId)
  | resumeAdvancedMenu (window : WindowId)
  | closeAdvancedMenu (window : WindowId)
  | createSimpleMenu (menu : SimpleMenu)
  | simpleMenuActive (window : WindowId)
  | simpleMenuResult (window : WindowId)
  | closeSimpleMenu (window : WindowId)
  | createPortraitBox (screen palette : UInt8) (framed : Bool)
  | showPortrait (window : WindowId) (portrait : Portrait)
  | closePortraitBox (window : WindowId)
  | monsterName (monster : Int32)
  | monsterGender (monster : Int32)
  | firstEmptySlot (limit : Nat)
  | recruit (slot : Nat) (recruit : Recruit)
  | setJoined (monster : Int32)
  | setupKeyboard (menu : Int32)
  | keyboardText
  | keyboardDismissed
  | renamePartner (name : String)
  | record (category : Category) (severity : Severity) (message : String)

/-- What a request is answered with; most commands have no answer. -/
abbrev Request.Answer : Request → Type
  | scriptParam _ => Int32
  | pressedButtons => UInt32
  | heldButtons => UInt32
  | randRange .. => Int32
  | boostOffensiveStat .. => Entity
  | boostDefensiveStat .. => Entity
  | createAdvancedMenu _ => Option WindowId
  | createSimpleMenu _ => Option WindowId
  | createPortraitBox .. => Option WindowId
  | advancedMenuActive _ => Bool
  | advancedMenuResult _ => Int32
  | advancedMenuOption _ => Int32
  | simpleMenuActive _ => Bool
  | simpleMenuResult _ => Int32
  | monsterName _ => String
  | monsterGender _ => Gender
  | firstEmptySlot _ => Option Nat
  | keyboardText => String
  | keyboardDismissed => Bool
  | setDialogueBox _ => Unit
  | saveVariable .. => Unit
  | saveVariableBytes .. => Unit
  | changeBorderColor _ => Unit
  | logMessage .. => Unit
  | resumeAdvancedMenu _ => Unit
  | closeAdvancedMenu _ => Unit
  | closeSimpleMenu _ => Unit
  | showPortrait .. => Unit
  | closePortraitBox _ => Unit
  | recruit .. => Unit
  | setJoined _ => Unit
  | setupKeyboard _ => Unit
  | renamePartner _ => Unit
  | record .. => Unit

/-- Puts a request to the host. A question changes nothing, and an entry only journal and log. -/
def Request.serve {σ : Type} [Host σ] (request : Request) (cx : Context σ) :
    request.Answer × Context σ :=
  match request with
  | scriptParam raw => (Host.scriptParam cx.host raw, cx)
  | setDialogueBox box => cx.call (Host.setDialogueBox box)
  | pressedButtons => (Host.pressedButtons cx.host, cx)
  | heldButtons => (Host.heldButtons cx.host, cx)
  | saveVariable var value => cx.call (Host.saveVariable var value)
  | saveVariableBytes var bytes => cx.call (Host.saveVariableBytes var bytes)
  | changeBorderColor color => cx.call (Host.changeBorderColor color)
  | randRange low high => cx.call (Host.randRange low high)
  | logMessage user message => cx.call (Host.logMessage user message)
  | boostOffensiveStat user split stages => cx.call (Host.boostOffensiveStat user split stages)
  | boostDefensiveStat user split stages => cx.call (Host.boostDefensiveStat user split stages)
  | createAdvancedMenu menu => cx.call (Host.createAdvancedMenu menu)
  | advancedMenuActive window => (Host.advancedMenuActive cx.host window, cx)
  | advancedMenuResult window => (Host.advancedMenuResult cx.host window, cx)
  | advancedMenuOption window => (Host.advancedMenuOption cx.host window, cx)
  | resumeAdvancedMenu window => cx.call (Host.resumeAdvancedMenu window)
  | closeAdvancedMenu window => cx.call (Host.closeAdvancedMenu window)
  | createSimpleMenu menu => cx.call (Host.createSimpleMenu menu)
  | simpleMenuActive window => (Host.simpleMenuActive cx.host window, cx)
  | simpleMenuResult window => (Host.simpleMenuResult cx.host window, cx)
  | closeSimpleMenu window => cx.call (Host.closeSimpleMenu window)
  | createPortraitBox screen palette framed =>
    cx.call (Host.createPortraitBox screen palette framed)
  | showPortrait window portrait => cx.call (Host.showPortrait window portrait)
  | closePortraitBox window => cx.call (Host.closePortraitBox window)
  | monsterName monster => (Host.monsterName cx.host monster, cx)
  | monsterGender monster => (Host.monsterGender cx.host monster, cx)
  | firstEmptySlot limit => (Host.firstEmptySlot cx.host limit, cx)
  | recruit slot member => cx.call (Host.recruit slot member)
  | setJoined monster => cx.call (Host.setJoined monster)
  | setupKeyboard menu => cx.call (Host.setupKeyboard menu)
  | keyboardText => (Host.keyboardText cx.host, cx)
  | keyboardDismissed => (Host.keyboardDismissed cx.host, cx)
  | renamePartner name => cx.call (Host.renamePartner name)
  | record category severity message => ((), cx.record category severity message)

/-- A handler, as far as its host takes part in it. -/
inductive Talk (α : Type u) : Type u where
  | done (value : α)
  /-- Makes a request, and goes on with its answer. -/
  | ask (request : Request) (next : request.Answer → Talk α)

/-- A request together with the answer that it got. -/
structure Exchange where
  request : Request
  answer : request.Answer

namespace Talk

variable {α : Type u} {β : Type v}

/-- Goes on with what a talk ends in. -/
def bind : Talk α → (α → Talk β) → Talk β
  | done value, f => f value
  | ask request next, f => ask request fun answer => (next answer).bind f

instance : Monad Talk.{u} where
  pure := done
  bind := bind

/-- Makes one request. -/
def request (request : Request) : Talk request.Answer :=
  ask request done

/-- What came of a talk: the value, all that was said, and the context after it. -/
structure Held (σ : Type) (α : Type u) where
  value : α
  transcript : List Exchange
  context : Context σ

/-- Holds a talk with a host. -/
def hold {σ : Type} [Host σ] : Talk α → Context σ → Held σ α
  | done value, context => { value, transcript := [], context }
  | ask request next, context =>
    let (answer, context) := request.serve context
    let held := (next answer).hold context
    { held with transcript := ⟨request, answer⟩ :: held.transcript }

end Talk

end DungeonHooks
