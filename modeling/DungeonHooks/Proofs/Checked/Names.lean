import DungeonHooks.Menu.Keyboard
import DungeonHooks.Proofs.Checked.Operations
import DungeonHooks.Proofs.Text.Cut

/-! Names are cut on whole characters, fit their buffer, and are compared without overflow. -/

namespace DungeonHooks.Checked

/-- Whether a character begins at an offset in bytes, or the text ends there. -/
def isBoundary : List Char → Nat → Bool
  | _, 0 => true
  | [], _ + 1 => false
  | c :: rest, offset => c.utf8Size ≤ offset && isBoundary rest (offset - c.utf8Size)

/-- The last boundary up to an offset, looked for byte by byte. Before the first byte there is none to look at. -/
def lastBoundary (chars : List Char) : Nat → Except Halt Nat
  | 0 => if isBoundary chars 0 then .ok 0 else .error ⟨"attempt to subtract with overflow"⟩
  | offset + 1 =>
    if isBoundary chars (offset + 1) then .ok (offset + 1) else lastBoundary chars offset

/-- The characters before an offset, if it is a boundary. -/
def before : List Char → Nat → Except Halt (List Char)
  | _, 0 => .ok []
  | [], offset + 1 => .error ⟨s!"byte index {offset + 1} is out of bounds"⟩
  | c :: rest, offset =>
    if c.utf8Size ≤ offset then (before rest (offset - c.utf8Size)).map (c :: ·)
    else .error ⟨s!"byte index {offset} is not a char boundary"⟩

/-- The longest beginning of a name that fits, cut at the last boundary. -/
def truncate (name : String) : Except Halt String :=
  if (Text.utf8 name).length ≤ nameLength then .ok name
  else do
    let offset ← lastBoundary name.toList nameLength
    let chars ← before name.toList offset
    return String.ofList chars

/-- Copies bytes over the front of a buffer, which has to have as many. -/
def copyFront (buffer source : List UInt8) : Except Halt (List UInt8) := do
  let front ← front buffer source.length
  if front.length = source.length then return source ++ buffer.drop source.length
  else throw ⟨"source slice length does not match destination slice length"⟩

/-- Compares bytes as a bounded comparison does, with a checked difference. -/
def comparePrefix : Nat → List UInt8 → List UInt8 → Except Halt Int32
  | 0, _, _ => .ok 0
  | n + 1, typed, expected =>
    let a := typed.headD 0
    let b := expected.headD 0
    if a ≠ b then sub (Int32.ofNat a.toNat) (Int32.ofNat b.toNat)
    else if a = 0 then .ok 0
    else comparePrefix n typed.tail expected.tail

/-- The bytes of some characters. -/
def size : List Char → Nat
  | [] => 0
  | c :: rest => c.utf8Size + size rest

/-- Characters have as many bytes as are counted for them. -/
theorem length_bytes (chars : List Char) :
    (chars.flatMap String.utf8EncodeChar).length = size chars := by
  induction chars with
  | nil => rfl
  | cons c rest ih =>
    rw [List.flatMap_cons, List.length_append, String.length_utf8EncodeChar, ih, size]

/-- A text has as many bytes as its characters. -/
theorem length_utf8 (name : String) : (Text.utf8 name).length = size name.toList :=
  length_bytes name.toList

section

variable {c : Char} {chars rest : List Char} {limit offset : Nat}

/-- Behind the first character, the boundaries are those of the rest. -/
theorem isBoundary_cons (inside : 0 < offset) : isBoundary (c :: rest) offset =
    (c.utf8Size ≤ offset && isBoundary rest (offset - c.utf8Size)) := by
  obtain ⟨offset, rfl⟩ := Nat.exists_eq_add_one.mpr inside
  rw [isBoundary]
  nofun

/-- Before an offset behind the first character, there is that one and what the rest has there. -/
theorem before_cons : before (c :: rest) (c.utf8Size + offset) =
    (before rest offset).map (c :: ·) := by
  obtain ⟨less, more⟩ := Nat.exists_eq_add_one.mpr (Nat.add_pos_left c.utf8Size_pos offset)
  have inside : c.utf8Size ≤ less + 1 := more ▸ Nat.le_add_right ..
  rw [more, before, if_pos inside, ← more, Nat.add_sub_cancel_left]
  nofun

/-- Characters that all fit are all kept. -/
theorem fitting_eq_self (fits : size chars ≤ limit) : Text.fitting limit chars = chars := by
  induction chars generalizing limit with
  | nil => rfl
  | cons c rest ih =>
    rw [size] at fits
    rw [Text.fitting, if_pos (by omega), ih (by omega)]

/-- The characters that fit end at a boundary. -/
theorem isBoundary_fitting : isBoundary chars (size (Text.fitting limit chars)) = true := by
  induction chars generalizing limit with
  | nil => rfl
  | cons c rest ih =>
    unfold Text.fitting
    split
    case isTrue fits =>
      -- The rest ends at a boundary behind the first character.
      rw [size, isBoundary_cons (Nat.add_pos_left c.utf8Size_pos _), Nat.add_sub_cancel_left,
        ih, Bool.and_true]
      exact decide_eq_true (Nat.le_add_right ..)
    case isFalse => rfl

/-- Between that boundary and the limit there is no other. -/
theorem isBoundary_beyond (beyond : size (Text.fitting limit chars) < offset)
    (within : offset ≤ limit) : isBoundary chars offset = false := by
  induction chars generalizing limit offset with
  | nil =>
    obtain ⟨offset, rfl⟩ := Nat.exists_eq_add_one.mpr (Nat.zero_lt_of_lt beyond)
    rfl
  | cons c rest ih =>
    rw [isBoundary_cons (Nat.zero_lt_of_lt beyond), Bool.and_eq_false_iff, decide_eq_false_iff_not]
    unfold Text.fitting at beyond
    split at beyond
    case isTrue fits =>
      -- Behind the first character, the rest has no boundary there.
      rw [size] at beyond
      exact .inr (ih (Nat.lt_sub_of_add_lt (by omega)) (Nat.sub_le_sub_right within _))
    case isFalse tooLong => exact .inl (by omega)

/-- They have no more bytes than there is room for. -/
theorem size_fitting_le : size (Text.fitting limit chars) ≤ limit := by
  rw [← length_bytes]
  exact Text.length_fitting limit chars

/-- Looking back finds the first boundary that there is on the way. -/
theorem lastBoundary_of_first {boundary : Nat} (found : isBoundary chars boundary = true)
    (others : ∀ other, boundary < other → other ≤ offset → isBoundary chars other = false)
    (within : boundary ≤ offset) : lastBoundary chars offset = .ok boundary := by
  -- The induction is on where the search stands, with the boundary that it comes to.
  induction offset with
  | zero =>
    obtain rfl := Nat.le_zero.mp within
    rw [lastBoundary, if_pos found]
  | succ offset ih =>
    rw [lastBoundary]
    rcases Nat.eq_or_lt_of_le within with rfl | below
    · rw [if_pos found]
    · rw [if_neg (by rw [others _ below (Nat.le_refl _)]; nofun)]
      exact ih (fun other above inside => others other above (by omega)) (by omega)

/-- Looking back from the limit finds the boundary at which the characters end that fit. -/
theorem lastBoundary_eq : lastBoundary chars limit = .ok (size (Text.fitting limit chars)) :=
  lastBoundary_of_first isBoundary_fitting (fun _ => isBoundary_beyond) size_fitting_le

/-- Before that boundary there are the characters that fit. -/
theorem before_eq :
    before chars (size (Text.fitting limit chars)) = .ok (Text.fitting limit chars) := by
  induction chars generalizing limit with
  | nil => rfl
  | cons c rest ih =>
    unfold Text.fitting
    split
    case isTrue fits =>
      rw [size, before_cons, ih]
      rfl
    case isFalse => rfl

end

/-- A name is cut to the characters that fit, always at a boundary. -/
theorem truncate_eq (name : String) : truncate name = .ok (Text.cut nameLength name) := by
  unfold truncate Text.cut
  split
  case isTrue short =>
    rw [length_utf8] at short
    rw [fitting_eq_self short, String.ofList_toList]
  case isFalse =>
    rw [lastBoundary_eq]
    show (before _ _).bind _ = _
    rw [before_eq]
    rfl

/-- Bytes that fit into a buffer of zeros are copied over its front. -/
theorem copyFront_eq {length : Nat} {bytes : List UInt8} (fits : bytes.length ≤ length) :
    copyFront (List.replicate length 0) bytes = .ok (Text.padded length bytes) := by
  have enough : bytes.length ≤ (List.replicate length (0 : UInt8)).length := by
    rwa [List.length_replicate]
  rw [copyFront, front_eq enough]
  show (if _ then _ else _) = _
  rw [if_pos (List.length_take_of_le enough), List.drop_replicate]
  rfl

/-- The difference of two bytes is a word, so the comparison comes to its end. -/
theorem comparePrefix_eq (n : Nat) (typed expected : List UInt8) :
    comparePrefix n typed expected = .ok (Text.compareBounded n typed expected) := by
  induction n generalizing typed expected with
  | zero => rfl
  | succ n ih =>
    simp only [comparePrefix, Text.compareBounded, ih]
    split
    · have word (byte : UInt8) : (Int32.ofNat byte.toNat).toInt = byte.toNat :=
        Int32.toInt_ofNat_of_lt (Nat.lt_trans byte.toNat_lt (by decide))
      have typedLess := (typed.headD 0).toNat_lt
      have expectedLess := (expected.headD 0).toNat_lt
      have fits : Fits ((typed.headD 0).toNat - (expected.headD 0).toNat) :=
        fits_iff.mpr (by omega)
      rw [sub, word, word, exactly, if_pos fits]
    · split <;> rfl

end DungeonHooks.Checked
