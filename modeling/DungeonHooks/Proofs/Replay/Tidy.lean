import DungeonHooks.Proofs.Menu.Slots
import DungeonHooks.Proofs.Replay.Panes

/-! Windows and the slots that hold them: a window that no slot holds was left behind. -/

namespace DungeonHooks.Replay

open RecruitMenu

/-- The slots whose windows are open on the host. -/
def held (slots : WindowSlots) (host : SimulatedHost) : Nat :=
  (List.finRange menuSlots).countP fun slot : Fin menuSlots =>
    (slots.get slot).any fun window => (host.anyWindow? window).isSome

/-- An entry is found under its key if the keys are distinct. -/
theorem lookup_eq_of_mem {α β : Type} [BEq α] [LawfulBEq α] {entries : List (α × β)} {key : α}
    {value : β} (distinct : (entries.map (·.1)).Nodup) (member : (key, value) ∈ entries) :
    entries.lookup key = some value := by
  -- The entry is the first one, or it is looked up behind the first one.
  induction entries with
  | nil => simp at member
  | cons entry rest ih =>
    rw [List.map_cons, List.nodup_cons] at distinct
    rcases List.mem_cons.mp member with rfl | later
    · simp
    · -- The first entry has another key than the one that is further on.
      have unlike : (key == entry.1) = false := by
        rw [beq_eq_false_iff_ne]
        rintro rfl
        exact distinct.1 (List.mem_map.mpr ⟨_, later, rfl⟩)
      rw [show entry = (entry.1, entry.2) from rfl, List.lookup_cons, unlike]
      exact ih distinct.2 later

/-- The open windows are those in the slots and some that were left behind, each with a handle of its own. -/
structure Tidy (left : Nat) (slots : WindowSlots) (host : SimulatedHost) : Prop where
  distinct : (host.panes.map (·.1)).Nodup
  known : ∀ pane ∈ host.panes, ∃ n < host.nextWindow, pane.1 = ⟨Int32.ofNat n⟩
  split : ∃ behind : List Pane, behind.length = left ∧
    host.panes.Perm (slotPanes slots ++ behind)
  others : ∀ slot : Nat, 2 < slot → slots.get slot = none

namespace Tidy

variable {left : Nat} {slots : WindowSlots} {host other : SimulatedHost}

/-- A window in one of the slots that menus use is open. -/
theorem open_of_holds (tidy : Tidy left slots host) {slot : Fin menuSlots} {kind : WindowKind}
    (proper : SlotFor slot kind) {window : WindowId} (holds : slots.get slot = some window) :
    host.panes.lookup window = some kind := by
  -- The slot is one of those that all open windows are split into.
  obtain ⟨behind, -, all⟩ := tidy.split
  exact lookup_eq_of_mem tidy.distinct
    (all.mem_iff.mpr (List.mem_append_left behind (mem_slotPanes proper holds)))

/-- The windows in the slots that menus use are all that are held. -/
theorem held_eq (tidy : Tidy left slots host) : held slots host = (slotPanes slots).length := by
  have listed : List.finRange menuSlots =
      [listSlot, portraitSlot, genderSlot] ++ (List.finRange menuSlots).drop 3 := by decide
  have beyond : ∀ slot ∈ (List.finRange menuSlots).drop 3, 2 < slot.val := by decide
  -- The other slots hold nothing, and what these hold is open.
  have unused : ((List.finRange menuSlots).drop 3).countP (fun slot : Fin menuSlots =>
      (slots.get slot).any fun window => (host.anyWindow? window).isSome) = 0 :=
    List.countP_eq_zero.mpr fun slot member => by simp [tidy.others slot (beyond slot member)]
  have used {slot : Fin menuSlots} {kind : WindowKind} (proper : SlotFor slot kind) :
      ((slots.get slot).any fun window => (host.anyWindow? window).isSome) =
        (slots.get slot).isSome := by
    cases holds : slots.get slot with
    | none => rfl
    | some window => simpa [SimulatedHost.anyWindow?_isSome] using
        Option.isSome_of_eq_some (tidy.open_of_holds proper holds)
  rw [held, listed, List.countP_append, unused]
  simp only [List.countP_cons, List.countP_nil, used .list, used .portrait, used .gender,
    slotPanes, List.length_append]
  cases slots.get listSlot <;> cases slots.get portraitSlot <;> cases slots.get genderSlot <;> rfl

/-- All open windows are accounted for. -/
theorem openWindows_eq (tidy : Tidy left slots host) :
    host.openWindows = held slots host + left := by
  obtain ⟨behind, rfl, all⟩ := tidy.split
  rw [host.openWindows_eq, all.length_eq, List.length_append, tidy.held_eq]

/-- It takes no more than that the same windows are open. -/
theorem same (tidy : Tidy left slots host) (same : host.SameWindows other) :
    Tidy left slots other where
  -- Nothing else of the host is looked at.
  distinct := same.1 ▸ tidy.distinct
  known := same.1 ▸ same.2 ▸ tidy.known
  split := same.1 ▸ tidy.split
  others := tidy.others

/-- Slots that are emptied without closing leave their windows behind. -/
theorem abandon (tidy : Tidy left slots host) : Tidy (left + held slots host) {} host where
  distinct := tidy.distinct
  known := tidy.known
  split := by
    obtain ⟨behind, rfl, all⟩ := tidy.split
    -- What the slots held joins what was left behind before.
    refine ⟨slotPanes slots ++ behind, ?_, by simpa [slotPanes_empty] using all⟩
    rw [List.length_append, tidy.held_eq, Nat.add_comm]
  others slot _ := WindowSlots.get_empty slot

/-- The next handle is that of no open window, as long as handles do not repeat. -/
theorem fresh (tidy : Tidy left slots host) (fits : host.nextWindow < UInt32.size) :
    (⟨Int32.ofNat host.nextWindow⟩ : WindowId) ∉ host.panes.map (·.1) := by
  intro member
  obtain ⟨pane, member, same⟩ := List.mem_map.mp member
  obtain ⟨n, below, handle⟩ := tidy.known pane member
  -- Two numbers below the bound with the same handle are equal.
  have words : Int32.ofNat n = Int32.ofNat host.nextWindow :=
    congrArg WindowId.id (handle.symm.trans same)
  have bits : n % UInt32.size = host.nextWindow % UInt32.size := by
    simpa using congrArg (·.toBitVec.toNat) words
  rw [Nat.mod_eq_of_lt fits, Nat.mod_eq_of_lt (Nat.lt_trans below fits)] at bits
  omega

/-- A window that is opened for an empty slot, and put there, is accounted for. -/
theorem openWindow (tidy : Tidy left slots host) (fits : host.nextWindow < UInt32.size)
    {slot : Fin menuSlots} {kind : WindowKind} (proper : SlotFor slot kind)
    (empty : slots.get slot = none) :
    Tidy left (slots.put slot (some (host.openWindow kind).1)) (host.openWindow kind).2 := by
  -- The new pane stands last on the host, and first among those in the slots.
  have panes := host.panes_openWindow kind
  refine ⟨?_, ?_, ?_, ?_⟩
  · rw [panes, List.map_append]
    exact List.perm_append_comm.nodup_iff.mpr
      (List.nodup_cons.mpr ⟨tidy.fresh fits, tidy.distinct⟩)
  · intro pane member
    rw [panes, List.mem_append, List.mem_singleton] at member
    rcases member with old | rfl
    · obtain ⟨n, below, handle⟩ := tidy.known pane old
      exact ⟨n, Nat.lt_succ_of_lt below, handle⟩
    · exact ⟨host.nextWindow, Nat.lt_succ_self _, rfl⟩
  · obtain ⟨behind, count, all⟩ := tidy.split
    refine ⟨behind, count, ?_⟩
    have slotted := slotPanes_fill proper empty (host.openWindow kind).1
    rw [panes]
    exact (List.perm_append_comm.trans (all.cons _)).trans (slotted.append_right behind).symm
  · intro other beyond
    rw [WindowSlots.get_put, if_neg]
    · exact tidy.others other beyond
    · cases proper <;> simp [listSlot, portraitSlot, genderSlot] <;> omega

/-- A window that is closed, and taken out of its slot, is gone. -/
theorem closeWindow (tidy : Tidy left slots host) {slot : Fin menuSlots} {kind : WindowKind}
    (proper : SlotFor slot kind) {id : WindowId} (holds : slots.get slot = some id) :
    Tidy left (slots.put slot none) (SimulatedHost.closeWindow kind id host).host := by
  obtain ⟨behind, count, all⟩ := tidy.split
  have panes := SimulatedHost.panes_closeWindow (tidy.open_of_holds proper holds)
  have fewer : (SimulatedHost.closeWindow kind id host).host.panes.Sublist host.panes := by
    rw [panes]
    exact List.filter_sublist
  -- The window stands first in some order of the panes, and no other has its handle.
  have slotted : host.panes.Perm ((id, kind) :: (slotPanes (slots.put slot none) ++ behind)) :=
    all.trans ((slotPanes_clear proper holds).append_right behind)
  refine ⟨(fewer.map _).nodup tidy.distinct, ?_, ⟨behind, count, ?_⟩, ?_⟩
  · intro pane member
    rw [SimulatedHost.nextWindow_closeWindow]
    exact tidy.known pane (fewer.subset member)
  · have distinct := (slotted.map (·.1)).nodup_iff.mp tidy.distinct
    rw [List.map_cons, List.nodup_cons] at distinct
    rw [panes]
    refine (slotted.filter _).trans ?_
    rw [List.filter_cons_of_neg (by simp), List.filter_eq_self.mpr]
    intro pane member
    rw [bne_iff_ne]
    rintro same
    exact distinct.1 (List.mem_map.mpr ⟨pane, member, same⟩)
  · intro other beyond
    rw [WindowSlots.get_put]
    split
    · rfl
    · exact tidy.others other beyond

end Tidy

end DungeonHooks.Replay
