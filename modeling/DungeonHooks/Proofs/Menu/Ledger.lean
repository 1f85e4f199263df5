import DungeonHooks.Proofs.Host.Talk
import DungeonHooks.Proofs.Menu.Slots

/-! What a transcript tells about windows: which were opened and closed, and which a request is about. -/

namespace DungeonHooks

open Replay

/-- The window that a request is about, with the kind that it takes the window for. -/
def Request.pane? : Request → Option Pane
  | .advancedMenuActive window | .advancedMenuResult window | .advancedMenuOption window
  | .resumeAdvancedMenu window | .closeAdvancedMenu window => some (window, .advanced)
  | .simpleMenuActive window | .simpleMenuResult window | .closeSimpleMenu window =>
    some (window, .simple)
  | .showPortrait window _ | .closePortraitBox window => some (window, .portrait)
  | _ => none

namespace Exchange

/-- The window that was opened, if one was. -/
def opened? : Exchange → Option Pane
  | ⟨.createAdvancedMenu _, window⟩ => Option.map (·, .advanced) window
  | ⟨.createSimpleMenu _, window⟩ => Option.map (·, .simple) window
  | ⟨.createPortraitBox .., window⟩ => Option.map (·, .portrait) window
  | _ => none

/-- The window that was closed. -/
def closed? : Exchange → Option Pane
  | ⟨.closeAdvancedMenu window, _⟩ => some (window, .advanced)
  | ⟨.closeSimpleMenu window, _⟩ => some (window, .simple)
  | ⟨.closePortraitBox window, _⟩ => some (window, .portrait)
  | _ => none

/-- Opening a window is about none. -/
theorem pane?_of_opened {exchange : Exchange} {pane : Pane}
    (opened : exchange.opened? = some pane) : exchange.request.pane? = none := by
  unfold opened? at opened
  split at opened
  · rfl
  · rfl
  · rfl
  · contradiction

/-- Closing a window is about that window. -/
theorem pane?_of_closed {exchange : Exchange} {pane : Pane}
    (closed : exchange.closed? = some pane) : exchange.request.pane? = some pane := by
  unfold closed? at closed
  split at closed
  · exact closed
  · exact closed
  · exact closed
  · contradiction

/-- What opens a window closes none. -/
theorem closed?_of_opened {exchange : Exchange} {pane : Pane}
    (opened : exchange.opened? = some pane) : exchange.closed? = none := by
  cases closed : exchange.closed? with
  | none => rfl
  | some other => exact absurd ((pane?_of_closed closed).symm.trans (pane?_of_opened opened)) nofun

/-- What closes a window opens none. -/
theorem opened?_of_closed {exchange : Exchange} {pane : Pane}
    (closed : exchange.closed? = some pane) : exchange.opened? = none := by
  cases opened : exchange.opened? with
  | none => rfl
  | some other => exact absurd ((pane?_of_closed closed).symm.trans (pane?_of_opened opened)) nofun

end Exchange

open Exchange

/-- No window is opened or closed, and each request about one is about a window that is held. -/
def Minds (held : List Pane) (said : List Exchange) : Prop :=
  ∀ exchange ∈ said, (exchange.opened? = none ∧ exchange.closed? = none) ∧
    ∀ pane, exchange.request.pane? = some pane → pane ∈ held

/-- Nothing that is said is about no window. -/
@[simp] theorem minds_nil (held : List Pane) : Minds held [] :=
  List.forall_mem_nil _

/-- What minds the windows held does so request by request. -/
@[simp] theorem minds_cons {held : List Pane} {exchange : Exchange} {said : List Exchange} :
    Minds held (exchange :: said) ↔
      ((exchange.opened? = none ∧ exchange.closed? = none) ∧
        ∀ pane, exchange.request.pane? = some pane → pane ∈ held) ∧ Minds held said :=
  List.forall_mem_cons

/-- From some windows held to those left: each request is about a window that is held by then. -/
inductive Trades : List Pane → List Exchange → List Pane → Prop where
  | done {held left : List Pane} (same : held.Perm left) : Trades held [] left
  | minds {held left : List Pane} {exchange : Exchange} {said : List Exchange}
      (keeps : exchange.opened? = none ∧ exchange.closed? = none)
      (own : ∀ pane, exchange.request.pane? = some pane → pane ∈ held)
      (rest : Trades held said left) : Trades held (exchange :: said) left
  | opens {held left : List Pane} {exchange : Exchange} {said : List Exchange} {pane : Pane}
      (opened : exchange.opened? = some pane)
      (rest : Trades (pane :: held) said left) : Trades held (exchange :: said) left
  | closes {held remaining left : List Pane} {exchange : Exchange} {said : List Exchange}
      {pane : Pane} (closed : exchange.closed? = some pane) (own : held.Perm (pane :: remaining))
      (rest : Trades remaining said left) : Trades held (exchange :: said) left

namespace Trades

variable {held other mid left : List Pane} {said more : List Exchange}

/-- The order of the windows held does not matter. -/
theorem perm (same : held.Perm other) (trades : Trades other said left) :
    Trades held said left := by
  induction trades generalizing held with
  | done same' => exact .done (same.trans same')
  | minds keeps own rest ih =>
    exact .minds keeps (fun pane about => same.mem_iff.mpr (own pane about)) (ih same)
  | opens opened rest ih => exact .opens opened (ih (same.cons _))
  | closes closed own rest ih => exact .closes closed (same.trans own) rest

/-- What is left of the first part is held in the second. -/
theorem append (first : Trades held said mid) (second : Trades mid more left) :
    Trades held (said ++ more) left := by
  -- The first part ends with its windows in some order, which the second need not share.
  induction first with
  | done same => exact second.perm same
  | minds keeps own rest ih => exact .minds keeps own (ih second)
  | opens opened rest ih => exact .opens opened (ih second)
  | closes closed own rest ih => exact .closes closed own (ih second)

/-- At every moment some windows are held. -/
theorem split (trades : Trades held (said ++ more) left) :
    ∃ mid, Trades held said mid ∧ Trades mid more left := by
  -- Whatever a request does to the windows held, it does before the cut.
  induction said generalizing held with
  | nil => exact ⟨held, .done (.refl _), trades⟩
  | cons exchange said ih =>
    cases trades with
    | minds keeps own rest =>
      obtain ⟨mid, first, second⟩ := ih rest
      exact ⟨mid, .minds keeps own first, second⟩
    | opens opened rest =>
      obtain ⟨mid, first, second⟩ := ih rest
      exact ⟨mid, .opens opened first, second⟩
    | closes closed own rest =>
      obtain ⟨mid, first, second⟩ := ih rest
      exact ⟨mid, .closes closed own first, second⟩

/-- A request is about a window that is held when it is made. -/
theorem owns {exchange : Exchange} {pane : Pane} (trades : Trades held (exchange :: said) left)
    (about : exchange.request.pane? = some pane) : pane ∈ held := by
  cases trades with
  | minds keeps own rest => exact own pane about
  | opens opened rest =>
    rw [pane?_of_opened opened] at about
    contradiction
  | closes closed own rest =>
    obtain rfl := Option.some.inj ((pane?_of_closed closed).symm.trans about)
    exact own.mem_iff.mpr List.mem_cons_self

/-- The windows held and opened are those closed and left. -/
theorem balance (trades : Trades held said left) :
    (held ++ said.filterMap opened?).Perm (said.filterMap closed? ++ left) := by
  -- A window that is opened or closed comes to one side and is held on the other.
  induction trades with
  | done same => simpa using same
  | minds keeps own rest ih =>
    rw [List.filterMap_cons_none keeps.1, List.filterMap_cons_none keeps.2]
    exact ih
  | opens opened rest ih =>
    rw [List.filterMap_cons_some opened, List.filterMap_cons_none (closed?_of_opened opened)]
    exact List.perm_middle.trans ih
  | closes closed own rest ih =>
    rw [List.filterMap_cons_none (opened?_of_closed closed), List.filterMap_cons_some closed]
    exact (own.append_right _).trans (ih.cons _)

/-- What only minds the windows held leaves these as they are. -/
theorem of_minds (minded : Minds held said) : Trades held said held := by
  induction said with
  | nil => exact .done (.refl _)
  | cons exchange said ih =>
    obtain ⟨⟨keeps, own⟩, rest⟩ := minds_cons.mp minded
    exact .minds keeps own (ih rest)

section

variable (trades : Trades [] said left) (distinct : ((said.filterMap opened?).map (·.1)).Nodup)

include trades distinct

/-- No window that was closed shares its handle with another one, nor with one that is left. -/
theorem distinct_handles : ((said.filterMap closed? ++ left).map (·.1)).Nodup :=
  (trades.balance.map (·.1)).nodup_iff.mp distinct

/-- A window that was closed has another handle than one that is left. -/
theorem closed_unlike_left {pane other : Pane} (closed : pane ∈ said.filterMap closed?)
    (member : other ∈ left) : other.1 ≠ pane.1 := by
  -- Both are among the windows that were opened, each of which has its own handle.
  have handles := trades.distinct_handles distinct
  rw [List.map_append, List.nodup_append] at handles
  have unlike := handles.2.2 _ (List.mem_map_of_mem closed) _ (List.mem_map_of_mem member)
  exact fun same => unlike same.symm

/-- The windows left are those opened and not closed. -/
theorem mem_left_iff {pane : Pane} :
    pane ∈ left ↔ pane ∈ said.filterMap opened? ∧ pane ∉ said.filterMap closed? := by
  have all : pane ∈ said.filterMap opened? ↔ pane ∈ said.filterMap closed? ++ left :=
    trades.balance.mem_iff
  rw [all, List.mem_append]
  -- Every window that was opened is closed or left, and distinct handles rule out both.
  constructor
  · intro member
    refine ⟨.inr member, fun closed => ?_⟩
    exact trades.closed_unlike_left distinct closed member rfl
  · rintro ⟨closed | member, unclosed⟩
    · exact absurd closed unclosed
    · exact member

/-- No request is about a window that has the handle of one closed before. -/
theorem silent_after_close {before after : List Exchange} {exchange later : Exchange}
    (happened : said = before ++ exchange :: after) {pane other : Pane}
    (closed : exchange.closed? = some pane) (member : later ∈ after)
    (about : later.request.pane? = some other) : other.1 ≠ pane.1 := by
  obtain ⟨between, rest, rfl⟩ := List.append_of_mem member
  have cut : said = (before ++ exchange :: between) ++ later :: rest := by simp [happened]
  rw [cut] at trades distinct
  -- What is held when the later request is made does not share the handle.
  obtain ⟨mid, first, second⟩ := trades.split
  rw [List.filterMap_append, List.map_append] at distinct
  refine first.closed_unlike_left (List.nodup_append.mp distinct).1 ?_ (second.owns about)
  exact List.mem_filterMap.mpr ⟨exchange, by simp, closed⟩

end

/-- Windows that are all closed in the end are each closed once, as what they were opened. -/
theorem closed_once (trades : Trades [] said [])
    (distinct : ((said.filterMap opened?).map (·.1)).Nodup) {pane : Pane}
    (opened : pane ∈ said.filterMap opened?) :
    (said.filterMap closed?).filter (·.1 == pane.1) = [pane] := by
  have handles := trades.distinct_handles distinct
  have closed : pane ∈ said.filterMap closed? ++ [] := trades.balance.mem_iff.mp opened
  rw [List.append_nil] at handles closed
  obtain ⟨before, after, split⟩ := List.append_of_mem closed
  rw [split] at handles ⊢
  -- Neither before nor after it is a window closed that has the same handle.
  rw [List.map_append, List.map_cons, List.nodup_append, List.nodup_cons] at handles
  obtain ⟨-, ⟨later, -⟩, earlier⟩ := handles
  have none_before : before.filter (·.1 == pane.1) = [] := by
    rw [List.filter_eq_nil_iff]
    intro other member
    have unlike := earlier _ (List.mem_map_of_mem member) _ List.mem_cons_self
    simpa using unlike
  have none_after : after.filter (·.1 == pane.1) = [] := by
    rw [List.filter_eq_nil_iff]
    intro other member
    have unlike : other.1 ≠ pane.1 := fun same => later (same ▸ List.mem_map_of_mem member)
    simpa using unlike
  rw [List.filter_append, List.filter_cons_of_pos (by simp), none_before, none_after,
    List.nil_append]

end Trades

end DungeonHooks
