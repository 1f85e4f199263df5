import DungeonHooks.Effect.Chain
import DungeonHooks.Host.Scripted
import DungeonHooks.Proofs.Effect.Contract
import DungeonHooks.Proofs.Script.Remarks
import DungeonHooks.Script.Resolver

/-! All or nothing: what a handler of a script has done to an event and to the host's colors counts only if it claims. -/

namespace DungeonHooks.Script

variable {σ ε : Type} [Host σ]

/-- What a script is asked about: which handler it is put to, in which words an error is reported, and what the handler's values tell about the event. -/
structure Matter (ε : Type) where
  category : Category
  registry : Registry
  what : String
  id : Nat
  offer : Store → Offer ε
  /-- The values claim the event. -/
  claims : List Value → Prop
  /-- The event is what is taken back of the arguments after a claim, with all its conversions. -/
  back : List Value → List Value → Store → ε → Prop
  claimed_iff : ∀ {store values left changed},
    (offer store).outcome values left = .ok (some changed) ↔
      claims values ∧ back (offer store).args values left changed
  declined_iff : ∀ {store values left},
    (offer store).outcome values left = .ok none ↔ ¬ claims values

/-- How it ends when a script is asked. -/
inductive Ending where
  /-- There is no handler, or not even a table of handlers. -/
  | unregistered
  /-- No function is registered where there should be one, or the handler was broken off by an error. -/
  | failed (error : ScriptError)
  /-- The handler returned values, and left the store behind. -/
  | returned (values : List Value) (left : Store)

/-- How it ends when the handler runs. -/
def Ending.ofRun : Except Raise (List Value) × Store → Ending
  | (.ok values, left) => .returned values left
  | (.error raise, _) => .failed (.ofRaise raise)

/-- What a script does when it is asked: the arguments it is given, what it says to the host, and how it ends. -/
structure Account where
  args : List Value := []
  remarks : List Remark := []
  ending : Ending

namespace Account

/-- The draws that the handler made. -/
def draws (account : Account) : List (Int32 × Int32) :=
  account.remarks.filterMap (·.draw?)

/-- The colors that the handler asked for. -/
def colors (account : Account) : List Int32 :=
  account.remarks.filterMap (·.color?)

/-- The lines of the handler, as entries for the journal. -/
def entries (category : Category) (account : Account) : List JournalEntry :=
  account.remarks.filterMap (·.line? category)

/-- The handler claims, and what it has made of the event can be taken back. -/
def Claims (account : Account) (matter : Matter ε) (changed : ε) : Prop :=
  ∃ values left, account.ending = .returned values left ∧ matter.claims values ∧
    matter.back account.args values left changed

/-- An error of the script or of a conversion comes between: before, in or after the run of the handler. -/
def Fails (account : Account) (matter : Matter ε) : Prop :=
  (∃ error, account.ending = .failed error) ∨
    ∃ values left, account.ending = .returned values left ∧ matter.claims values ∧
      ∀ changed, ¬ matter.back account.args values left changed

end Account

namespace Matter

/-- What a script does when it is asked about the matter. -/
def account (matter : Matter ε) (script : Script) (cx : Context σ) : Account :=
  match script.store.handler matter.registry matter.id with
  | .error error => { ending := .failed (.mismatch error) }
  | .ok none => { ending := .unregistered }
  | .ok (some handler) =>
    let offered := matter.offer script.store.offer
    let run := call maxSteps .outermost 0 handler offered.args offered.store
    { args := offered.args
      remarks := run.remarks matter.category cx
      ending := .ofRun (run.hold matter.category cx).value }

/-- Has a script handle an event of the matter. -/
def handle (matter : Matter ε) (script : Script) (cx : Context σ) (event : ε) :
    Handled σ Script ε :=
  script.handle matter.category matter.registry matter.what matter.id matter.offer cx event

/-- What is reported of an error. -/
def report (matter : Matter ε) (script : Script) (error : ScriptError) : JournalEntry where
  category := matter.category
  severity := .error
  message := s!"Script {script.name} failed in {matter.what} {matter.id}: {error.message}"

end Matter

/-- An event that a script has handled is changed as a whole or not at all, and so is the border; errors are reported once. -/
structure AllOrNothing (matter : Matter ε) (script : Script) (cx : Context σ) (event : ε)
    (handled : Handled σ Script ε) : Prop where
  /-- The event is claimed exactly if the handler claims it and all of it can be taken back. -/
  claimed_iff : handled.claimed = true ↔ ∃ changed, (matter.account script cx).Claims matter changed
  /-- Then it is what was taken back, and the colors have come behind all draws. -/
  all : ∀ changed, (matter.account script cx).Claims matter changed →
    handled.event = changed ∧ handled.context.host =
      painted (matter.account script cx).colors (drawn (matter.account script cx).draws cx.host)
  /-- Else it is as it was, and nothing has come but the draws. -/
  nothing : handled.claimed = false → handled.event = event ∧
    handled.context.host = drawn (matter.account script cx).draws cx.host
  /-- An error leaves the event unclaimed, and is the last and only one that is reported. -/
  failed : (matter.account script cx).Fails matter → handled.claimed = false ∧
    ∃ error, handled.context.journal =
      (cx.journal.keepAll ((matter.account script cx).entries matter.category)).keep
        (matter.report script error)
  /-- Without an error, the journal keeps the lines of the handler and nothing else. -/
  quiet : ¬ (matter.account script cx).Fails matter → handled.context.journal =
    cx.journal.keepAll ((matter.account script cx).entries matter.category)

/-- The colors come one after another, and nothing else of the host or the journal changes. -/
theorem recolor_eq (colors : List Int32) (cx : Context σ) :
    (recolor colors cx).host = painted colors cx.host ∧
      (recolor colors cx).journal = cx.journal := by
  induction colors generalizing cx with
  | nil => exact ⟨rfl, rfl⟩
  | cons color rest ih =>
    obtain ⟨host, journal⟩ := ih (cx.tell (Host.changeBorderColor color))
    exact ⟨host, journal⟩

/-- The account is one of what attending to the matter came to. -/
structure Account.Recounts (account : Account) (matter : Matter ε) (cx : Context σ)
    (attended : Attended σ ε) : Prop where
  claims : ∀ changed, account.Claims matter changed ↔ attended.outcome = .ok (some changed)
  fails : account.Fails matter ↔ ∃ error, attended.outcome = .error error
  colors : attended.colors = account.colors
  host : attended.context.host = drawn account.draws cx.host
  journal : attended.context.journal = cx.journal.keepAll (account.entries matter.category)

/-- If what came of it is recounted, settling the matter does all or nothing. -/
theorem Account.Recounts.allOrNothing {matter : Matter ε} {script : Script} {cx : Context σ}
    {attended : Attended σ ε} (recounts : (matter.account script cx).Recounts matter cx attended)
    (event : ε) :
    AllOrNothing matter script cx event
      (script.settle matter.category matter.what matter.id event attended) := by
  obtain ⟨claims, fails, colors, host, journal⟩ := recounts
  obtain ⟨outcome, asked, store, context⟩ := attended
  dsimp only at claims fails colors host journal
  unfold settle
  rcases outcome with error | _ | taken
  case error =>
    have unclaimed : ¬ ∃ changed, (matter.account script cx).Claims matter changed := by
      simp [claims]
    refine ⟨iff_of_false nofun unclaimed,
      fun changed claimed => (unclaimed ⟨changed, claimed⟩).elim, fun _ => ⟨rfl, host⟩,
      fun _ => ⟨rfl, error, ?_⟩, fun fine => (fine (fails.mpr ⟨error, rfl⟩)).elim⟩
    -- The error is the last entry, behind the lines of the handler.
    rw [← journal]
    rfl
  case ok.none =>
    have unclaimed : ¬ ∃ changed, (matter.account script cx).Claims matter changed := by
      simp [claims]
    have fine : ¬ (matter.account script cx).Fails matter := by simp [fails]
    exact ⟨iff_of_false nofun unclaimed, fun changed claimed => (unclaimed ⟨changed, claimed⟩).elim,
      fun _ => ⟨rfl, host⟩, fun failed => (fine failed).elim, fun _ => journal⟩
  case ok.some =>
    have claimed : (matter.account script cx).Claims matter taken := (claims taken).mpr rfl
    have fine : ¬ (matter.account script cx).Fails matter := by simp [fails]
    obtain ⟨painted, untouched⟩ := recolor_eq asked context
    refine ⟨iff_of_true rfl ⟨taken, claimed⟩, fun changed same => ⟨?_, ?_⟩, nofun,
      fun failed => (fine failed).elim, fun _ => untouched.trans journal⟩
    · -- Only one event can be taken back.
      exact Option.some.inj (Except.ok.inj ((claims changed).mp same))
    · rw [painted, host, colors]

/-- An event that is taken back is the one that the offer tells of. -/
theorem Offer.concluded_ok_iff {offer : Offer ε} {values : List Value} {left : Store}
    {taken : Option ε} :
    offer.concluded left (.ok values) = .ok taken ↔ offer.outcome values left = .ok taken := by
  unfold concluded
  -- A conversion that fails is an error on both sides.
  cases outcome : offer.outcome values left <;> simp [outcome]

section

variable {matter : Matter ε} {store : Store} {remarks : List Remark}
  {ended : Except Raise (List Value) × Store}

/-- A handler that ran claims exactly if its run is concluded with an event. -/
theorem Account.claims_ofRun {changed : ε} :
    Claims ⟨(matter.offer store).args, remarks, .ofRun ended⟩ matter changed ↔
      (matter.offer store).concluded ended.2 ended.1 = .ok (some changed) := by
  obtain ⟨error | values, left⟩ := ended
  case error => simp [Claims, Ending.ofRun, Offer.concluded]
  case ok =>
    rw [Offer.concluded_ok_iff, matter.claimed_iff]
    constructor
    · rintro ⟨_, _, ⟨⟩, claimed⟩
      exact claimed
    · exact fun claimed => ⟨values, left, rfl, claimed⟩

/-- A handler that ran fails exactly if its run is concluded with an error. -/
theorem Account.fails_ofRun :
    Fails ⟨(matter.offer store).args, remarks, .ofRun ended⟩ matter ↔
      ∃ error, (matter.offer store).concluded ended.2 ended.1 = .error error := by
  obtain ⟨error | values, left⟩ := ended
  case error =>
    exact iff_of_true (.inl ⟨_, rfl⟩) ⟨_, rfl⟩
  case ok =>
    constructor
    · rintro (⟨_, ⟨⟩⟩ | ⟨_, _, ⟨⟩, claims, lost⟩)
      -- An offer that is neither declined nor taken back ends in an error.
      rcases outcome : (matter.offer store).concluded left (.ok values) with error | _ | taken
      case error => exact ⟨error, rfl⟩
      case ok.none =>
        exact (matter.declined_iff.mp (Offer.concluded_ok_iff.mp outcome) claims).elim
      case ok.some =>
        exact (lost taken (matter.claimed_iff.mp (Offer.concluded_ok_iff.mp outcome)).2).elim
    · rintro ⟨error, outcome⟩
      have nothing (taken : Option ε) : (matter.offer store).outcome values left ≠ .ok taken := by
        rw [ne_eq, ← Offer.concluded_ok_iff, outcome]
        nofun
      have claims : matter.claims values :=
        Classical.byContradiction fun declines => nothing none (matter.declined_iff.mpr declines)
      exact .inr ⟨values, left, rfl, claims, fun changed back =>
        nothing (some changed) (matter.claimed_iff.mpr ⟨claims, back⟩)⟩

end

/-- Whatever comes of asking a script about a matter is recounted. -/
theorem Matter.handle_recounted (matter : Matter ε) (script : Script) (cx : Context σ) (event : ε) :
    ∃ attended : Attended σ ε, (matter.account script cx).Recounts matter cx attended ∧
      matter.handle script cx event =
        script.settle matter.category matter.what matter.id event attended := by
  unfold account handle Script.handle
  cases script.store.handler matter.registry matter.id with
  | error error =>
    refine ⟨⟨.error (.mismatch error), [], script.store, cx⟩, ?_, rfl⟩
    exact ⟨by simp [Account.Claims], by simp [Account.Fails], rfl, rfl, rfl⟩
  | ok registered =>
    cases registered with
    | none =>
      refine ⟨⟨.ok none, [], script.store, cx⟩, ?_, rfl⟩
      exact ⟨by simp [Account.Claims], by simp [Account.Fails], rfl, rfl, rfl⟩
    | some handler =>
      refine ⟨attend matter.category handler matter.offer script.store cx, ?_, rfl⟩
      exact ⟨fun changed => Account.claims_ofRun, Account.fails_ofRun, Dialogue.hold_colors ..,
        Dialogue.hold_host .., Dialogue.hold_journal ..⟩

/-- A script that is asked about a matter does all or nothing. -/
theorem Matter.allOrNothing (matter : Matter ε) (script : Script) (cx : Context σ) (event : ε) :
    AllOrNothing matter script cx event (matter.handle script cx event) := by
  obtain ⟨attended, recounts, same⟩ := matter.handle_recounted script cx event
  rw [same]
  exact recounts.allOrNothing event

/-- A step that may fail goes on only with the value of the one before. -/
theorem bind_eq_ok {κ α β : Type} {first : Except κ α} {next : α → Except κ β} {result : β} :
    (first >>= next) = .ok result ↔ ∃ value, first = .ok value ∧ next value = .ok result := by
  cases first <;> simp [bind, Except.bind]

/-- The use of an item, which is claimed by a first value that counts as true. -/
def itemMatter (thrown : Bool) (use : ItemUse) : Matter ItemUse where
  category := .effects
  registry := .items
  what := "item effect"
  id := use.item.id.toNat
  offer := offerItem thrown use
  claims values := (values.headD .nil).isTrue = true
  back args _ left changed := ∃ user target item,
    args = [.table user, .table target, .table item, .bool thrown] ∧
      left.readEntity user use.user = .ok changed.user ∧
      left.readEntity target use.target = .ok changed.target ∧
      left.readItem item use.item = .ok changed.item
  claimed_iff := by
    intro store values left changed
    simp only [offerItem]
    constructor
    · intro outcome
      split at outcome
      case isTrue claims =>
        obtain ⟨newUser, user, outcome⟩ := bind_eq_ok.mp outcome
        obtain ⟨newTarget, target, outcome⟩ := bind_eq_ok.mp outcome
        obtain ⟨newItem, item, outcome⟩ := bind_eq_ok.mp outcome
        obtain rfl := Option.some.inj (Except.ok.inj outcome)
        exact ⟨claims, _, _, _, rfl, user, target, item⟩
      case isFalse => simp [pure, Except.pure] at outcome
    · rintro ⟨claims, user, target, item, given, newUser, newTarget, newItem⟩
      simp only [List.cons.injEq, Value.table.injEq] at given
      obtain ⟨rfl, rfl, rfl, -⟩ := given
      rw [if_pos claims]
      simp only [newUser, newTarget, newItem]
      rfl
  declined_iff := by
    intro store values left
    simp only [offerItem]
    generalize (values.headD .nil).isTrue = claims
    -- A claim is either taken back or an error.
    cases claims with
    | true => simp [bind_eq_ok, pure, Except.pure]
    | false => exact iff_of_true rfl nofun

/-- The use of a move, which is claimed like that of an item; a second value that is not nil says whether damage was dealt. -/
def moveMatter (use : MoveUse) : Matter MoveUse where
  category := .effects
  registry := .moves
  what := "move effect"
  id := use.input.moveId.toNat
  offer := offerMove use
  claims values := (values.headD .nil).isTrue = true
  back args values left changed := ∃ user target move,
    args = [.table user, .table target, .table move] ∧
      left.readEntity user use.user = .ok changed.user ∧
      left.readEntity target use.target = .ok changed.target ∧
      left.readMove move use.used = .ok changed.used ∧
      changed.input =
        let dealt := (values.drop 1).headD .nil
        if dealt.isNil then use.input else { use.input with dealtDamage := dealt.isTrue }
  claimed_iff := by
    intro store values left changed
    simp only [offerMove]
    constructor
    · intro outcome
      split at outcome
      case isTrue claims =>
        obtain ⟨newUser, user, outcome⟩ := bind_eq_ok.mp outcome
        obtain ⟨newTarget, target, outcome⟩ := bind_eq_ok.mp outcome
        obtain ⟨newMove, move, outcome⟩ := bind_eq_ok.mp outcome
        obtain rfl := Option.some.inj (Except.ok.inj outcome)
        exact ⟨claims, _, _, _, rfl, user, target, move, rfl⟩
      case isFalse => simp [pure, Except.pure] at outcome
    · rintro ⟨claims, user, target, move, given, newUser, newTarget, newMove, input⟩
      simp only [List.cons.injEq, Value.table.injEq] at given
      obtain ⟨rfl, rfl, rfl, -⟩ := given
      rw [if_pos claims]
      simp only [newUser, newTarget, newMove, ← input]
      rfl
  declined_iff := by
    intro store values left
    simp only [offerMove]
    generalize (values.headD .nil).isTrue = claims
    -- A claim is either taken back or an error.
    cases claims with
    | true => simp [bind_eq_ok, pure, Except.pure]
    | false => exact iff_of_true rfl nofun

/-- A special process, which is claimed by returning at all; nil counts as 0. -/
def processMatter (call : ProcessCall) : Matter Int32 where
  category := .specialProcess
  registry := .processes
  what := "special process"
  id := call.id.toNat
  offer := offerProcess call
  claims _ := True
  back _ values _ value :=
    (values.headD .nil = .nil ∧ value = 0) ∨
      (values.headD .nil ≠ .nil ∧ (values.headD .nil).toWord = .ok value)
  claimed_iff := by
    intro store values left value
    simp only [offerProcess, true_and]
    generalize values.headD .nil = returned
    split
    case h_1 => simp [eq_comm]
    case h_2 something =>
      cases converted : returned.toWord <;> simp_all [Except.map]
  declined_iff := by
    intro store values left
    simp only [offerProcess, not_true, iff_false]
    generalize values.headD .nil = returned
    split
    case h_1 => simp
    case h_2 => cases returned.toWord <;> simp [Except.map]

/-- Asks for a color, takes away hit points in a way that cannot be taken back, and claims. -/
def spoiltText : String :=
  "move_effects[#\"pound\"] = function(user) " ++
    "host.border_color(#\"red\") user.hp = \"none\" return true end"

/-- The move stays as it was, and the conversion that failed is reported once. -/
example :
    let use : MoveUse :=
      { input := { moveId := 5 }, user := .ofMonster { hp := 9 }, target := {}, used := ⟨5, 1, 35⟩ }
    ((Script.load "spoilt" spoiltText).toOption.map fun script =>
      let handled := script.onMove { host := ({} : ScriptedHost) } use
      (handled.claimed, handled.event, handled.context.journal.entries)) =
    some (false, use,
      [ { category := .effects
          severity := .error
          message := "Script spoilt failed in move effect 5: error converting Lua string to " ++
            "i32 (expected number or string coercible to number)" } ]) := by
  decide +kernel

/-- Nothing at all is a clean way to decline. -/
theorem AllOrNothing.clean {matter : Matter ε} {script : Script} {cx : Context σ} {event : ε}
    {handled : Handled σ Script ε} (whole : AllOrNothing matter script cx event handled)
    {verdict : Verdict σ ε} (claimed : verdict.claimed = handled.claimed)
    (same : verdict.event = handled.event) (left : verdict.context = handled.context) :
    verdict.Clean cx event := by
  constructor
  · intro declines
    rw [same, (whole.nothing (claimed ▸ declines)).1]
  · intro declines
    rw [left, (whole.nothing (claimed ▸ declines)).2]
    exact ⟨_, rfl⟩

/-- A script leaves alone the uses of items and moves that it declines. -/
theorem resolver_declinesCleanly (script : Script) :
    (script.resolver : Resolver σ).DeclinesCleanly where
  item thrown cx use := ((itemMatter thrown use).allOrNothing script cx use).clean rfl rfl rfl
  move cx use := ((moveMatter use).allOrNothing script cx use).clean rfl rfl rfl

/-- So does every resolver of the program, whatever scripts it is given. -/
theorem program_declinesCleanly (scripts : List Script) :
    ∀ resolver ∈ (EffectChain.new .builtin (scripts.map Script.resolver) : EffectChain σ).resolvers,
      resolver.DeclinesCleanly := by
  intro resolver member
  -- The local table is asked first, and the scripts after it.
  rcases List.mem_cons.mp member with rfl | scripted
  · exact LocalEffects.builtin_alwaysClaims.declinesCleanly
  · obtain ⟨script, _, rfl⟩ := List.mem_map.mp scripted
    exact script.resolver_declinesCleanly

end DungeonHooks.Script
