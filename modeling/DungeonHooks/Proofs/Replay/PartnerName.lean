import DungeonHooks.Proofs.Menu.Keyboard
import DungeonHooks.Proofs.Replay.Panes
import DungeonHooks.Proofs.Replay.Visit
import DungeonHooks.Proofs.Text.Cut
import DungeonHooks.Proofs.Text.Utf8

/-! A partner that was renamed: the name that was typed, its bytes as scripts find them, and the report of those bytes. -/

namespace DungeonHooks.Replay

open Text

/-- The partner has the longest name that fits of what was typed, scripts find its bytes, and the report shows them up to the first zero. -/
structure Renamed (typed name : String) (host : SimulatedHost) : Prop where
  longest : LongestWithin nameLength typed name
  partner : host.partnerName = some name
  stored : ∃ bytes, host.byteVariables.partnerFirstName = some bytes ∧
    bytes.length = nameLength ∧
    bytes = utf8 name ++ List.replicate (nameLength - (utf8 name).length) 0 ∧
    decode? (bytes.takeWhile (· != 0)) = some (beforeNul name)
  reported : ∀ text,
    (.partnerFirstName, text) ∈ host.snapshot.textVariables ↔ text = beforeNul name
  whole : '\x00' ∉ typed.toList → beforeNul name = name

/-- What is reported of the bytes of a text, with zeros behind them, is the text before its first NUL. -/
theorem textOfBytes_padded (length : Nat) (s : String) :
    textOfBytes (padded length (utf8 s)) = beforeNul s := by
  rw [textOfBytes, padded, takeWhile_utf8, decodeLossy_utf8]

/-- The host finds the bytes of a variable in the report as a text, if it has been written. -/
theorem mem_textVariables_iff {host : SimulatedHost} {text : String} :
    (.partnerFirstName, text) ∈ host.snapshot.textVariables ↔
      ∃ bytes, host.byteVariables.partnerFirstName = some bytes ∧ textOfBytes bytes = text := by
  simp only [SimulatedHost.snapshot, Variables.toList]
  -- The other variable may be reported as well, or not.
  cases host.byteVariables.eventLocal <;> cases host.byteVariables.partnerFirstName <;>
    simp [eq_comm]

/-- A name is stored with its bytes, and reported by them. -/
theorem renamed_of_stored {typed : String} {host : SimulatedHost}
    (partner : host.partnerName = some (cut nameLength typed))
    (stored : host.byteVariables.partnerFirstName =
      some (padded nameLength (utf8 (cut nameLength typed)))) :
    Renamed typed (cut nameLength typed) host where
  longest := cut_longest nameLength typed
  partner := partner
  stored := by
    have fits := length_utf8_cut nameLength typed
    refine ⟨_, stored, ?_, rfl, ?_⟩
    · rw [padded, List.length_append, List.length_replicate]
      omega
    · rw [padded, takeWhile_utf8, decode?_utf8]
  reported text := by
    simp [mem_textVariables_iff, stored, textOfBytes_padded, eq_comm]
  whole none := by
    -- The name has no character that was not typed.
    refine beforeNul_eq_self fun member => none ?_
    exact (cut_longest nameLength typed).begins.subset member

/-- What the keyboard shows is what was typed into it. -/
theorem keyboardText_eq {host : SimulatedHost} {keyboard : KeyboardSession}
    (waits : host.keyboard = some keyboard) : Host.keyboardText host = keyboard.text :=
  congrArg (fun keyboard => (keyboard.map KeyboardSession.text).getD "") waits

/-- What the rename menu does at its end is worth 0, and renames the partner to what was typed. -/
theorem close_renamed (id : Int32) (state : MenuState) (cx : Context SimulatedHost) :
    Renamed (Host.keyboardText cx.host) (cut nameLength (Host.keyboardText cx.host))
      ((TalkingMenu.partnerName.close id state).hold cx).context.host :=
  renamed_of_stored rfl rfl

/-- A session of the rename menu ends once the keyboard was dismissed, with 0, and the partner is renamed to what was typed. -/
theorem partner_renamed {machine : MenuMachine SimulatedHost} {id : Int32} {said : List Exchange}
    (session : TalkingMenu.partnerName.Session id machine said) (cx : Context SimulatedHost) :
    (∀ value, (machine.step id cx).answer = .ok (.done value) ↔
      value = 0 ∧ ∃ keyboard, cx.host.keyboard = some keyboard ∧ keyboard.done = true) ∧
    ∀ keyboard, cx.host.keyboard = some keyboard → keyboard.done = true →
      ∃ name, Renamed keyboard.text name (machine.step id cx).context.host := by
  obtain ⟨waiting, closing⟩ :=
    TalkingMenu.keyboard_step (session.running TalkingMenu.partnerName_steady) cx
  have dismissed_iff : Host.keyboardDismissed cx.host = true ↔
      ∃ keyboard, cx.host.keyboard = some keyboard ∧ keyboard.done = true := Option.any_eq_true ..
  -- The keyboard that the host has up is the one that the menu asks about.
  constructor
  · intro value
    rw [← dismissed_iff]
    cases dismissed : Host.keyboardDismissed cx.host with
    | false => simp [waiting dismissed, MenuStep.pending, MenuStep.done]
    | true =>
      have zero : (machine.step id cx).answer = .ok (.done 0) := (closing dismissed).1
      simp [zero, MenuStep.done, eq_comm]
  · intro keyboard waits typed
    have dismissed := dismissed_iff.mpr ⟨keyboard, waits, typed⟩
    rw [(closing dismissed).2, ← keyboardText_eq waits]
    exact ⟨_, close_renamed id machine.state cx⟩

/-- A frame in which the keyboard was dismissed with a text. -/
private def typing (text : String) : Context SimulatedHost :=
  { host := { keyboard := some { menu := 82, text, done := true } } }

/-- The last character of what was typed does not fit, and the report ends before the NUL. -/
theorem nul_name_renamed :
    ∃ (machine : MenuMachine SimulatedHost) (said : List Exchange) (cx : Context SimulatedHost)
      (name : String),
      TalkingMenu.partnerName.Session 82 machine said ∧
        (machine.step 82 cx).answer = .ok (.done 0) ∧
        Renamed "Pik\x00achu⚡" name (machine.step 82 cx).context.host ∧
        (machine.step 82 cx).context.host.snapshot.textVariables =
          [(.partnerFirstName, "Pik")] := by
  let menus : MenuMachine SimulatedHost := .builtin 80
  have opened : TalkingMenu.partnerName.Session 82 (menus.start 82 _).machine _ :=
    .started rfl rfl { host := ({} : SimulatedHost) }
  obtain ⟨ends, renames⟩ := partner_renamed opened (typing "Pik\x00achu⚡")
  obtain ⟨name, renamed⟩ := renames _ rfl rfl
  exact ⟨_, _, typing "Pik\x00achu⚡", name, opened, (ends 0).mpr ⟨rfl, _, rfl, rfl⟩, renamed,
    by decide +kernel⟩

/-- The keyboard is up and waits, and a text is the next one to be typed. -/
def Waiting (id : Int32) (typed : String) : Scene := fun _ host =>
  host.keyboard = some { menu := id } ∧ host.input.keyboard.head? = some typed

/-- The text is typed with the next input. -/
theorem waiting_typed {id : Int32} {typed : String} {state : MenuState} {host : SimulatedHost}
    (waiting : Waiting id typed state host) :
    host.advanceFrame.keyboard = some { menu := id, text := typed, done := true } := by
  obtain ⟨keyboard, next⟩ := waiting
  obtain ⟨later, queued⟩ := List.head?_eq_some_iff.mp next
  -- Windows take nothing of what is meant for the keyboard.
  simp [SimulatedHost.advanceFrame, keyboard, SimulatedHost.deliverText,
    SimulatedHost.deliverAll_keyboard, queued]

/-- Before there is input, a poll leaves the keyboard waiting. -/
theorem polls_waiting (id : Int32) (typed : String) :
    Polls .partnerName id (Waiting id typed) (Waiting id typed) := by
  intro state cx waiting
  have undismissed : Host.keyboardDismissed cx.host = false :=
    congrArg (Option.any KeyboardSession.done) waiting.1
  have held : ((TalkingMenu.partnerName.frame id state).hold cx).value = (false, state) ∧
      ((TalkingMenu.partnerName.frame id state).hold cx).context = cx :=
    (TalkingMenu.keyboard_frame id state cx).1 undismissed
  rw [held.1, held.2]
  exact ⟨rfl, waiting⟩

/-- A poll after the text was typed ends with 0, and the partner is renamed. -/
theorem ends_renamed (id : Int32) (typed : String) :
    Ends .partnerName id (Waiting id typed).arrived fun value host =>
      value = 0 ∧ Renamed typed (cut nameLength typed) host := by
  intro state cx arrived
  obtain ⟨shown, waiting, host⟩ := arrived
  have keyboard := (congrArg SimulatedHost.keyboard host).trans (waiting_typed waiting)
  have dismissed : Host.keyboardDismissed cx.host = true :=
    congrArg (Option.any KeyboardSession.done) keyboard
  have text : Host.keyboardText cx.host = typed := keyboardText_eq keyboard
  have held : ((TalkingMenu.partnerName.frame id state).hold cx).value =
        (true, ((TalkingMenu.partnerName.close id state).hold cx).value) ∧
      ((TalkingMenu.partnerName.frame id state).hold cx).context =
        ((TalkingMenu.partnerName.close id state).hold cx).context :=
    (TalkingMenu.keyboard_frame id state cx).2 dismissed
  rw [held.1, held.2, ← text]
  exact ⟨rfl, rfl, close_renamed id state cx⟩

/-- A visit to the rename menu takes two frames, ends with 0, and gives the partner the next text that is typed. -/
theorem rename_visit {index : Nat} {visit : MenuVisit} {session : Session} {typed : String}
    {descriptor : MenuDescriptor SimulatedHost}
    (known : session.engine.menus.table.lookup visit.menu = .ok descriptor)
    (renames : descriptor.menu = .partnerName)
    (next : (session.context.host.input.append visit.input).keyboard.head? = some typed)
    (enough : 2 ≤ visit.frameLimit) : ∃ after,
      runStep index (.menu visit) session =
        .ok (({ index, kind := "menu" } : StepReport).finished 0 2, after) ∧
      Renamed typed (cut nameLength typed) after.context.host := by
  have opens : Talk.Leads (· = session.context.host.queueInput visit.input)
      (TalkingMenu.partnerName.create visit.menu { activeMenu := some visit.menu })
      (Waiting visit.menu typed) := by
    intro cx host
    -- Setting the keyboard up takes none of the input.
    refine ⟨rfl, Eq.trans ?_ next⟩
    exact congrArg (·.input.keyboard.head?) host
  obtain ⟨answer, shows⟩ := Session.started_shows known renames TalkingMenu.partnerName_steady opens
  -- The first poll still waits, and the second one is the last.
  have course : Course .partnerName visit.menu (fun _ => True) (Waiting visit.menu typed)
      (Waiting visit.menu typed) 0
      fun value host => value = 0 ∧ Renamed typed (cut nameLength typed) host :=
    { steady := TalkingMenu.partnerName_steady
      still := fun _ _ _ => trivial
      kept := fun _ _ => trivial
      frames := ⟨_, polls_waiting _ _, .refl _⟩
      ends := ends_renamed _ _ }
  obtain ⟨value, after, polled, rfl, renamed⟩ :=
    course.finishes shows { index, kind := "menu" } enough
  exact ⟨after, runStep_started answer polled, renamed⟩

end DungeonHooks.Replay
