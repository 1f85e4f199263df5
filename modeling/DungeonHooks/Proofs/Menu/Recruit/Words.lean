import DungeonHooks.Menu.Recruit
import DungeonHooks.Proofs.Host.Talk

/-! What the transcript of a recruit session tells about picks, genders and recruits. -/

namespace DungeonHooks

namespace Exchange

/-- The answer to the opening of a species list. -/
def listOpened? : Exchange → Option (Option WindowId)
  | ⟨.createAdvancedMenu _, window⟩ => some window
  | _ => none

/-- The result that was read from a species list. -/
def picked? : Exchange → Option Int32
  | ⟨.advancedMenuResult _, choice⟩ => some choice
  | _ => none

/-- The gender menu that was opened. -/
def genderAsked? : Exchange → Option WindowId
  | ⟨.createSimpleMenu _, window⟩ => window
  | _ => none

/-- The result that was read from a gender menu. -/
def genderAnswered? : Exchange → Option (WindowId × Int32)
  | ⟨.simpleMenuResult window, answer⟩ => some (window, answer)
  | _ => none

/-- The search for a free roster slot: its limit, and what it found. -/
def searched? : Exchange → Option (Nat × Option Nat)
  | ⟨.firstEmptySlot limit, slot⟩ => some (limit, slot)
  | _ => none

/-- The name that the host gave for a species. -/
def named? : Exchange → Option (Int32 × String)
  | ⟨.monsterName monster, name⟩ => some (monster, name)
  | _ => none

/-- The recruit that was written into a roster slot. -/
def recruited? : Exchange → Option (Nat × Recruit)
  | ⟨.recruit slot member, _⟩ => some (slot, member)
  | _ => none

/-- The species that was marked as having joined. -/
def joined? : Exchange → Option Int32
  | ⟨.setJoined monster, _⟩ => some monster
  | _ => none

end Exchange

open Exchange

/-- The last result that was read from a species list, with what was said since. -/
def lastPick : List Exchange → Option (Int32 × List Exchange)
  | [] => none
  | exchange :: rest =>
    -- A later pick takes precedence.
    match lastPick rest with
    | some last => some last
    | none => exchange.picked?.map (·, rest)

/-- A gender menu was opened, and its second option chosen. -/
def SecondFormChosen (said : List Exchange) : Prop :=
  -- The answer has to be that of the menu that was opened.
  ∃ window ∈ said.filterMap genderAsked?, (window, 2) ∈ said.filterMap genderAnswered?

/-- Nothing that is read later takes away from the last pick but another pick. -/
theorem lastPick_append (said more : List Exchange) :
    lastPick (said ++ more) =
      match lastPick more with
      | some last => some last
      | none => (lastPick said).map fun (choice, since) => (choice, since ++ more) := by
  -- The last pick is looked for at the end first.
  induction said with
  | nil => cases found : lastPick more <;> simp [lastPick, found]
  | cons exchange rest ih =>
    simp only [List.cons_append, lastPick, ih]
    cases lastPick more with
    | some last => simp
    | none =>
      cases lastPick rest with
      | some last => simp
      | none => cases exchange.picked? <;> simp

/-- There is no last pick without a pick. -/
theorem lastPick_eq_none_iff {said : List Exchange} :
    lastPick said = none ↔ said.filterMap picked? = [] := by
  -- The first exchange is the last pick only if the rest has none.
  induction said with
  | nil => simp [lastPick]
  | cons exchange rest ih =>
    cases found : lastPick rest with
    | some last => simp_all [lastPick]
    | none => cases pick : exchange.picked? <;> simp_all [lastPick]

namespace RecruitMenu

/-- Nobody has been recruited, nor has a slot been looked for. -/
structure Undecided (said : List Exchange) : Prop where
  searched : said.filterMap searched? = []
  recruited : said.filterMap recruited? = []
  joined : said.filterMap joined? = []

/-- The species list could not be opened. -/
def ListRefused (said : List Exchange) : Prop :=
  none ∈ said.filterMap listOpened?

/-- The last pick chose an option, and no gender was chosen for it yet. -/
structure Picked (choice : Int32) (said since : List Exchange) : Prop where
  last : lastPick said = some (choice, since)
  taken : 0 ≤ choice
  unanswered : since.filterMap genderAnswered? = []

/-- The species that a pick selects, with the gender that was chosen for it. -/
def Selects (choice : Int32) (since : List Exchange) (species : Int32) : Prop :=
  (SecondFormChosen since ∧ species = choice + 1 + secondFormOffset) ∨
    (¬ SecondFormChosen since ∧ species = choice + 1)

/-- How a session ended: with a recruit, without a free slot, or without a pick. -/
inductive Ended (said : List Exchange) : Int32 → Prop where
  | recruited {choice : Int32} {since : List Exchange} {slot : Nat} {member : Recruit}
      {name : String} (opened : ¬ ListRefused said)
      (last : lastPick said = some (choice, since)) (taken : 0 ≤ choice)
      (selected : Selects choice since member.species)
      (searched : said.filterMap searched? = [(rosterLimit, some slot)])
      (named : (member.species, name) ∈ said.filterMap named?)
      (cut : member.name = Text.cut nameLength name)
      (recruits : said.filterMap recruited? = [(slot, member)])
      (joins : said.filterMap joined? = [member.species]) : Ended said (Int32.ofNat slot)
  | full {choice : Int32} {since : List Exchange} (opened : ¬ ListRefused said)
      (last : lastPick said = some (choice, since)) (taken : 0 ≤ choice)
      (searched : said.filterMap searched? = [(rosterLimit, none)])
      (recruits : said.filterMap recruited? = []) (joins : said.filterMap joined? = []) :
      Ended said (-2)
  | cancelled (undecided : Undecided said)
      (cause : ListRefused said ∨ ∃ choice since, lastPick said = some (choice, since) ∧ choice < 0) :
      Ended said (-1)

/-- What was said so far, as the stage that a session has reached tells it. -/
def Told (state : MenuState) (said : List Exchange) : Prop :=
  match Stage.ofProgress state.progress with
  | .browse => Undecided said
  | .chooseForm => Undecided said ∧ ∃ since,
      Picked (state.result speciesResult) said since ∧ since.filterMap genderAsked? = []
  | .awaitGender => Undecided said ∧ ∃ since window,
      Picked (state.result speciesResult) said since ∧
        state.windows.get genderSlot = some window ∧ since.filterMap genderAsked? = [window]
  | .commit => Undecided said ∧ ∃ choice since,
      lastPick said = some (choice, since) ∧ 0 ≤ choice ∧ Selects choice since (chosen state)
  | .done => Ended said state.returnValue

/-- What holds of a recruit session between two frames. -/
structure Stands (state : MenuState) (said : List Exchange) : Prop where
  list : state.windows.get listSlot = none ↔ ListRefused said
  picks : (lastPick said).isSome → ¬ ListRefused said
  told : Told state said

/-- Without an answer to a gender menu, no second form was chosen. -/
theorem not_secondFormChosen {since : List Exchange}
    (unanswered : since.filterMap genderAnswered? = []) : ¬ SecondFormChosen since := by
  rintro ⟨window, -, answered⟩
  simp [unanswered] at answered

/-- A pick that no gender was chosen for selects the species of its own option. -/
theorem Picked.selects {choice : Int32} {said since : List Exchange}
    (picked : Picked choice said since) : Selects choice since (choice + 1) :=
  .inr ⟨not_secondFormChosen picked.unanswered, rfl⟩

/-- What bears on who joins; the rest looks at windows, or shows something. -/
def bears : Exchange → Bool
  | ⟨.createSimpleMenu _, window⟩ => window.isSome
  | ⟨.createAdvancedMenu _, _⟩ | ⟨.advancedMenuResult _, _⟩ | ⟨.simpleMenuResult _, _⟩
  | ⟨.firstEmptySlot _, _⟩ | ⟨.recruit .., _⟩ | ⟨.setJoined _, _⟩ => true
  | _ => false

/-- Nothing is said that bears on who joins. -/
def Passing (more : List Exchange) : Prop :=
  ∀ exchange ∈ more, bears exchange = false

namespace Passing

variable {more : List Exchange}

/-- What only such requests can tell is not told. -/
theorem filterMap_eq_nil {α : Type} {told? : Exchange → Option α} (passing : Passing more)
    (quiet : ∀ exchange, bears exchange = false → told? exchange = none) :
    more.filterMap told? = [] :=
  List.filterMap_eq_nil_iff.mpr fun exchange member => quiet exchange (passing exchange member)

/-- No list is opened in passing. -/
theorem lists (passing : Passing more) : more.filterMap listOpened? = [] :=
  passing.filterMap_eq_nil fun ⟨request, _⟩ quiet => by cases request <;> first | rfl | cases quiet

/-- Nothing is picked in passing. -/
theorem picks (passing : Passing more) : more.filterMap picked? = [] :=
  passing.filterMap_eq_nil fun ⟨request, _⟩ quiet => by cases request <;> first | rfl | cases quiet

/-- No gender is asked for in passing. -/
theorem asked (passing : Passing more) : more.filterMap genderAsked? = [] :=
  passing.filterMap_eq_nil fun ⟨request, answer⟩ quiet => by
    -- A gender menu that could not be opened is none that was asked.
    cases request <;> first
      | rfl
      | exact Option.isNone_iff_eq_none.mp (Option.isSome_eq_false_iff.mp quiet)

/-- No gender is answered in passing. -/
theorem answered (passing : Passing more) : more.filterMap genderAnswered? = [] :=
  passing.filterMap_eq_nil fun ⟨request, _⟩ quiet => by cases request <;> first | rfl | cases quiet

/-- No slot is searched for in passing. -/
theorem searched (passing : Passing more) : more.filterMap searched? = [] :=
  passing.filterMap_eq_nil fun ⟨request, _⟩ quiet => by cases request <;> first | rfl | cases quiet

/-- Nobody is recruited in passing. -/
theorem recruited (passing : Passing more) : more.filterMap recruited? = [] :=
  passing.filterMap_eq_nil fun ⟨request, _⟩ quiet => by cases request <;> first | rfl | cases quiet

/-- Nobody is marked as joined in passing. -/
theorem joined (passing : Passing more) : more.filterMap joined? = [] :=
  passing.filterMap_eq_nil fun ⟨request, _⟩ quiet => by cases request <;> first | rfl | cases quiet

end Passing

section Passing

variable {state after : MenuState} {said since more : List Exchange}

/-- Nothing is decided in two parts of a session if nothing is decided in either. -/
theorem undecided_append : Undecided (said ++ more) ↔ Undecided said ∧ Undecided more := by
  -- Each of the three lists is empty exactly if both parts of it are.
  constructor
  · rintro ⟨searched, recruited, joined⟩
    simp only [List.filterMap_append, List.append_eq_nil_iff] at searched recruited joined
    exact ⟨⟨searched.1, recruited.1, joined.1⟩, ⟨searched.2, recruited.2, joined.2⟩⟩
  · rintro ⟨first, second⟩
    constructor <;> simp only [List.filterMap_append, first.searched, first.recruited,
      first.joined, second.searched, second.recruited, second.joined, List.append_nil]

/-- Nothing is decided in passing. -/
theorem Passing.undecided (passing : Passing more) : Undecided more :=
  ⟨passing.searched, passing.recruited, passing.joined⟩

/-- What does not bear on who joins decides nothing. -/
theorem Undecided.passing (undecided : Undecided said) (passing : Passing more) :
    Undecided (said ++ more) :=
  undecided_append.mpr ⟨undecided, passing.undecided⟩

/-- A list was refused if it was refused in one part or the other. -/
theorem listRefused_append : ListRefused (said ++ more) ↔ ListRefused said ∨ ListRefused more := by
  simp only [ListRefused, List.filterMap_append, List.mem_append]

/-- No list is refused in passing. -/
theorem Passing.unrefused (passing : Passing more) : ¬ ListRefused more := by
  simp only [ListRefused, passing.lists, List.not_mem_nil, not_false_eq_true]

/-- The last pick stays the last one. -/
theorem lastPick_passing (passing : Passing more) :
    lastPick (said ++ more) =
      (lastPick said).map fun (choice, since) => (choice, since ++ more) := by
  -- What is said in passing holds no pick.
  have last : lastPick more = none := by
    rw [lastPick_eq_none_iff, passing.picks]
  simp only [lastPick_append, last]

/-- A pick stays the last one, and unanswered, without another pick and without an answer. -/
theorem Picked.later {choice : Int32} (picked : Picked choice said since)
    (unpicked : lastPick more = none) (unanswered : more.filterMap genderAnswered? = []) :
    Picked choice (said ++ more) (since ++ more) where
  last := by simp only [lastPick_append, unpicked, picked.last, Option.map_some]
  taken := picked.taken
  unanswered := by rw [List.filterMap_append, picked.unanswered, unanswered, List.append_nil]

/-- The last pick stays the last one while nothing is said that bears on it. -/
theorem Picked.passing {choice : Int32} (picked : Picked choice said since)
    (passing : Passing more) : Picked choice (said ++ more) (since ++ more) :=
  picked.later (lastPick_eq_none_iff.mpr passing.picks) passing.answered

/-- The second form is chosen in an answer, and nothing else chooses it. -/
theorem secondFormChosen_passing (passing : Passing more) :
    SecondFormChosen (said ++ more) ↔ SecondFormChosen said := by
  simp only [SecondFormChosen, List.filterMap_append, passing.asked, passing.answered,
    List.append_nil]

/-- A session ends the same way, whatever is said in passing after it. -/
theorem Ended.passing {value : Int32} (ended : Ended said value) (passing : Passing more) :
    Ended (said ++ more) value := by
  -- What decided the session is found again at the same place.
  have unrefused (opened : ¬ ListRefused said) : ¬ ListRefused (said ++ more) := by
    rw [listRefused_append, or_iff_left passing.unrefused]
    exact opened
  cases ended with
  | recruited opened last taken selected searched named cut recruits joins =>
    have last := (lastPick_passing passing).trans (congrArg _ last)
    refine .recruited (unrefused opened) last taken ?_ ?_ ?_ cut ?_ ?_
    · simpa only [Selects, secondFormChosen_passing passing] using selected
    · simp only [List.filterMap_append, searched, passing.searched, List.append_nil]
    · simp only [List.filterMap_append, List.mem_append, named, true_or]
    · simp only [List.filterMap_append, recruits, passing.recruited, List.append_nil]
    · simp only [List.filterMap_append, joins, passing.joined, List.append_nil]
  | full opened last taken searched recruits joins =>
    refine .full (unrefused opened) (by rw [lastPick_passing passing, last]; rfl) taken ?_ ?_ ?_
    · simp only [List.filterMap_append, searched, passing.searched, List.append_nil]
    · simp only [List.filterMap_append, recruits, passing.recruited, List.append_nil]
    · simp only [List.filterMap_append, joins, passing.joined, List.append_nil]
  | cancelled undecided cause =>
    refine .cancelled (undecided.passing passing) ?_
    rcases cause with refused | ⟨choice, since, last, negative⟩
    · exact .inl (listRefused_append.mpr (.inl refused))
    · exact .inr ⟨choice, since ++ more, by rw [lastPick_passing passing, last]; rfl, negative⟩

/-- Each stage goes on telling what it tells. -/
theorem Told.passing (told : Told state said) (passing : Passing more) :
    Told state (said ++ more) := by
  -- Each stage knows what was said in its own way.
  unfold Told at told ⊢
  cases stage : Stage.ofProgress state.progress <;> simp only [stage] at told ⊢
  case browse => exact told.passing passing
  case chooseForm =>
    obtain ⟨undecided, since, picked, unasked⟩ := told
    refine ⟨undecided.passing passing, since ++ more, picked.passing passing, ?_⟩
    rw [List.filterMap_append, unasked, passing.asked, List.nil_append]
  case awaitGender =>
    obtain ⟨undecided, since, window, picked, opened, asked⟩ := told
    refine ⟨undecided.passing passing, since ++ more, window, picked.passing passing, opened, ?_⟩
    rw [List.filterMap_append, asked, passing.asked, List.append_nil]
  case commit =>
    obtain ⟨undecided, choice, since, last, taken, selected⟩ := told
    refine ⟨undecided.passing passing, choice, since ++ more, ?_, taken, ?_⟩
    · rw [lastPick_passing passing, last]; rfl
    · simpa only [Selects, secondFormChosen_passing passing] using selected
  case done => exact Ended.passing told passing

/-- A session goes on standing if it keeps its list, and picks from the list only if there is one. -/
theorem Stands.later (stands : Stands state said)
    (kept : after.windows.get listSlot = state.windows.get listSlot)
    (unrefused : ¬ ListRefused more) (picks : (lastPick more).isSome → ¬ ListRefused said)
    (told : Told after (said ++ more)) : Stands after (said ++ more) where
  list := by rw [kept, stands.list, listRefused_append, or_iff_left unrefused]
  picks some := by
    rw [listRefused_append, or_iff_left unrefused]
    rw [lastPick_append] at some
    -- A new pick needs an opened list, an old one had it.
    cases last : lastPick more with
    | some pick => exact picks (by rw [last]; rfl)
    | none => exact stands.picks (by simpa [last] using some)
  told := told

/-- A session goes on standing on what was said. -/
theorem Stands.passing (stands : Stands state said) (passing : Passing more) :
    Stands state (said ++ more) :=
  stands.later rfl passing.unrefused (by simp [lastPick_eq_none_iff.mpr passing.picks])
    (stands.told.passing passing)

end Passing

end RecruitMenu

end DungeonHooks
