import DungeonHooks.Host.Scripted
import DungeonHooks.Menu.Builtin
import DungeonHooks.Proofs.Menu.Recruit.Stages

/-! A recruit session lets one monster join, the one that was picked last, or none at all. -/

namespace DungeonHooks.RecruitMenu

open Exchange

/-- The host finds slots below the limit it is given, and options leave room for a second form. -/
structure Fair (said : List Exchange) : Prop where
  below : ∀ search ∈ said.filterMap searched?, ∀ slot ∈ search.2, slot < search.1
  fits : ∀ choice ∈ said.filterMap picked?, choice.toInt + 601 ≤ Int32.maxValue.toInt

instance (said : List Exchange) : Decidable (Fair said) :=
  -- Only the picks that were said are looked at, never all numbers that a pick can be.
  letI : Decidable (∀ choice ∈ said.filterMap picked?, choice.toInt + 601 ≤ Int32.maxValue.toInt) :=
    List.decidableBAll ..
  decidable_of_iff
    ((∀ search ∈ said.filterMap searched?, ∀ slot ∈ search.2, slot < search.1) ∧
      ∀ choice ∈ said.filterMap picked?, choice.toInt + 601 ≤ Int32.maxValue.toInt)
    ⟨fun ⟨below, fits⟩ => ⟨below, fits⟩, fun ⟨below, fits⟩ => ⟨below, fits⟩⟩

/-- One recruit went into a slot, and its species, that of the last pick, was marked as joined. -/
structure JoinedOnce (said : List Exchange) (slot : Nat) : Prop where
  inRoster : slot < rosterLimit
  once : ∃ member choice since name,
    said.filterMap recruited? = [(slot, member)] ∧ said.filterMap joined? = [member.species] ∧
    lastPick said = some (choice, since) ∧ 0 ≤ choice.toInt ∧
    (SecondFormChosen since → member.species.toInt = choice.toInt + 1 + 600) ∧
    (¬ SecondFormChosen since → member.species.toInt = choice.toInt + 1) ∧
    (member.species, name) ∈ said.filterMap named? ∧ member.name = Text.cut nameLength name

/-- Nobody was written into the roster, and no species marked as joined. -/
structure NobodyJoined (said : List Exchange) : Prop where
  recruits : said.filterMap recruited? = []
  joins : said.filterMap joined? = []

/-- What the value of a finished session tells about everything that was said in it. -/
structure Settled (said : List Exchange) (value : Int32) : Prop where
  joined : (∃ slot : Nat, value.toInt = slot ∧ JoinedOnce said slot) ∨
    (value = -1 ∨ value = -2) ∧ NobodyJoined said
  full_iff : value = -2 ↔ (rosterLimit, none) ∈ said.filterMap searched?
  cancelled_iff : value = -1 ↔
    ListRefused said ∨ ∃ choice since, lastPick said = some (choice, since) ∧ choice.toInt < 0

/-- The last pick is one of the picks. -/
theorem lastPick_mem {said since : List Exchange} {choice : Int32}
    (last : lastPick said = some (choice, since)) : choice ∈ said.filterMap picked? := by
  -- The last pick is either in the rest, or it is the first exchange.
  induction said generalizing since with
  | nil => simp [lastPick] at last
  | cons exchange rest ih =>
    simp only [lastPick] at last
    cases found : lastPick rest with
    | some pick =>
      simp only [found, Option.some.injEq] at last
      have member := ih (found.trans (congrArg some last))
      exact (List.sublist_cons_self ..).filterMap _ |>.subset member
    | none =>
      simp only [found, Option.map_eq_some_iff] at last
      obtain ⟨pick, picked, same⟩ := last
      cases same
      simp [picked]

/-- The species of an option leaves the room that its second form needs. -/
theorem toInt_firstForm {choice : Int32} (taken : 0 ≤ choice.toInt)
    (fits : choice.toInt + 601 ≤ Int32.maxValue.toInt) : (choice + 1).toInt = choice.toInt + 1 := by
  have greatest : Int32.maxValue.toInt = 2147483647 := rfl
  -- The sum fits, so nothing wraps.
  rw [Int32.toInt_add]
  exact Int.bmod_eq_of_le (by change -_ ≤ _ + 1; omega) (by change _ + 1 < _; omega)

/-- The second form is found at its own distance. -/
theorem toInt_secondForm {choice : Int32} (taken : 0 ≤ choice.toInt)
    (fits : choice.toInt + 601 ≤ Int32.maxValue.toInt) :
    (choice + 1 + secondFormOffset).toInt = choice.toInt + 1 + 600 := by
  have greatest : Int32.maxValue.toInt = 2147483647 := rfl
  -- The offset is added to a species that is small enough.
  rw [Int32.toInt_add, toInt_firstForm taken fits]
  exact Int.bmod_eq_of_le (by change -_ ≤ _ + 600; omega) (by change _ + 600 < _; omega)

/-- How a session ended tells what its value says, as long as the host is fair. -/
theorem Ended.settled {said : List Exchange} {value : Int32} (ended : Ended said value)
    (fair : Fair said) : Settled said value := by
  cases ended with
  | @recruited choice since slot member name opened last taken selected searched named cut recruits
      joins =>
    have below : slot < rosterLimit :=
      fair.below (rosterLimit, some slot) (by simp [searched]) slot rfl
    have taken : 0 ≤ choice.toInt := Int32.le_iff_toInt_le.mp taken
    have fits := fair.fits choice (lastPick_mem last)
    have number : (Int32.ofNat slot).toInt = slot :=
      Int32.toInt_ofNat_of_lt (Nat.lt_trans below (by decide))
    -- A slot is not negative, so its number is neither of the other two values.
    have unlike (value : Int32) (negative : value.toInt < 0) : Int32.ofNat slot ≠ value := by
      rintro rfl
      omega
    refine ⟨.inl ⟨slot, number, below, member, choice, since, name, recruits, joins, last, taken,
      ?_, ?_, named, cut⟩, ?_, ?_⟩
    · intro second
      obtain ⟨-, species⟩ | ⟨first, -⟩ := selected
      · rw [species, toInt_secondForm taken fits]
      · exact absurd second first
    · intro first
      obtain ⟨second, -⟩ | ⟨-, species⟩ := selected
      · exact absurd second first
      · rw [species, toInt_firstForm taken fits]
    · simp [searched, unlike (-2) (by decide)]
    · refine iff_of_false (unlike (-1) (by decide)) ?_
      rintro (refused | ⟨choice', since', last', negative⟩)
      · exact opened refused
      · cases last.symm.trans last'
        omega
  | @full choice since opened last taken searched recruits joins =>
    refine ⟨.inr ⟨.inr rfl, recruits, joins⟩, by simp [searched], ?_⟩
    refine iff_of_false (by decide) ?_
    rintro (refused | ⟨choice', since', last', negative⟩)
    · exact opened refused
    · cases last.symm.trans last'
      exact absurd (Int32.le_iff_toInt_le.mp taken) (by simpa using negative)
  | cancelled undecided cause =>
    refine ⟨.inr ⟨.inl rfl, undecided.recruited, undecided.joined⟩, ?_, ?_⟩
    · simp [undecided.searched]
    · refine iff_of_true rfl (cause.imp_right ?_)
      rintro ⟨choice, since, last, negative⟩
      exact ⟨choice, since, last, Int32.lt_iff_toInt_lt.mp negative⟩

/-- A finished session recruits the species of its last pick, once, or it recruits nobody. -/
theorem session_recruits_once {σ : Type} [Host σ] {machine : MenuMachine σ} {id value : Int32}
    {said : List Exchange} (session : TalkingMenu.recruit.Session id machine said)
    (cx : Context σ) (finished : (machine.step id cx).answer = .ok (.done value))
    (fair : Fair (said ++ TalkingMenu.recruit.polling id machine cx)) :
    Settled (said ++ TalkingMenu.recruit.polling id machine cx) value := by
  -- Between the frames the session stands on what was said; the last frame makes an end of it.
  obtain ⟨running, stands⟩ := session.invariant recruit_steady (create_stands id)
    fun _ _ stands => (frame_stands id stands).mono fun _ _ kept => kept.1
  obtain ⟨done, rfl⟩ := (MenuMachine.step_done_iff running cx).mp finished
  have ended := ((frame_stands id stands).hold cx).2 done
  exact ended.settled fair

/-- A frame in which a window is closed with a result. -/
private def closedWith (window result : Int32) : Context ScriptedHost :=
  { host := { windows := [(⟨window⟩, { active := false, result })] } }

/-- A frame in which a gender menu can be opened, for the fifth species or the seventh. -/
private def twoForms (window : Int32) : Context ScriptedHost :=
  { host := { genders := [(605, .female), (607, .female)], nextWindow := window } }

/-- A first pick is backed out of, and of the second one the second form joins. -/
theorem second_pick_recruited :
    ∃ (machine : MenuMachine ScriptedHost) (said : List Exchange) (cx : Context ScriptedHost),
      TalkingMenu.recruit.Session 80 machine said ∧
        (machine.step 80 cx).answer = .ok (.done 3) ∧
        Fair (said ++ TalkingMenu.recruit.polling 80 machine cx) ∧
        Settled (said ++ TalkingMenu.recruit.polling 80 machine cx) 3 := by
  -- The list opens, and the fifth species is picked.
  have opened : TalkingMenu.recruit.Session 80 ((MenuMachine.builtin 80).start 80 _).machine _ :=
    .started rfl rfl { host := ({} : ScriptedHost) }
  have picked := opened.polled (closedWith 0 4) (by decide +kernel)
  -- Its gender menu is closed with a cancel, which leads back to the list.
  have asked := picked.polled (twoForms 2) (by decide +kernel)
  have backedOut := asked.polled (closedWith 2 (-1)) (by decide +kernel)
  -- Of the seventh species, the second option of the gender menu is chosen.
  have pickedAgain := backedOut.polled (closedWith 0 6) (by decide +kernel)
  have askedAgain := pickedAgain.polled (twoForms 3) (by decide +kernel)
  have answered := askedAgain.polled (closedWith 3 2) (by decide +kernel)
  have joined := answered.polled { host := { freeSlots := [3] } } (by decide +kernel)
  refine ⟨_, _, closedWith 0 0, joined, by decide +kernel, ?fair,
    session_recruits_once joined (closedWith 0 0) (by decide +kernel) ?fair⟩
  decide +kernel

end DungeonHooks.RecruitMenu
