import Mathlib.Data.List.TakeWhile
import DungeonHooks.Text.Utf8

/-! Text that is turned into bytes is read back as it was, also where only zeros follow it; and its bytes tell where its characters begin. -/

namespace DungeonHooks.Text

section Reading

variable {first second third fourth : UInt8} (rest : List UInt8)

/-- A byte below 0x80 is a character of its own. -/
theorem readChar_one (ascii : first.toNat ≤ 0x7F) :
    readChar first rest = (some (Char.ofNat first.toNat), 0) := by
  have below : first < 0x80 := UInt8.lt_iff_toNat_lt.mpr (Nat.lt_succ_of_le ascii)
  unfold readChar
  rw [if_pos below]

/-- The first byte tells that one more belongs to the character. -/
theorem readChar_two (lead : 0xC2 ≤ first.toNat ∧ first.toNat ≤ 0xDF)
    (follows : isContinuation second = true) :
    readChar first (second :: rest) =
      (some (Char.ofNat (first.toNat % 32 * 64 + second.toNat % 64)), 1) := by
  unfold readChar
  simp only [UInt8.lt_iff_toNat_lt, UInt8.le_iff_toNat_le, UInt8.reduceToNat, Bool.and_eq_true,
    decide_eq_true_eq]
  rw [if_neg (by omega), if_pos lead, if_pos follows]
  rfl

/-- The first byte tells that two more belong to the character. -/
theorem readChar_three (lead : 0xE0 ≤ first.toNat ∧ first.toNat ≤ 0xEF)
    (allowed : isSecond first second = true) (follows : isContinuation third = true) :
    readChar first (second :: third :: rest) =
      (some (Char.ofNat ((first.toNat % 16 * 64 + second.toNat % 64) * 64 + third.toNat % 64)),
        2) := by
  unfold readChar
  simp only [UInt8.lt_iff_toNat_lt, UInt8.le_iff_toNat_le, UInt8.reduceToNat, Bool.and_eq_true,
    decide_eq_true_eq]
  rw [if_neg (by omega), if_neg (by omega), if_pos lead]
  simp only [allowed, follows, Bool.not_true, Bool.false_eq_true, if_false, if_true]
  rfl

/-- The first byte tells that three more belong to the character. -/
theorem readChar_four (lead : 0xF0 ≤ first.toNat ∧ first.toNat ≤ 0xF4)
    (allowed : isSecond first second = true) (follows : isContinuation third = true)
    (ends : isContinuation fourth = true) :
    readChar first (second :: third :: fourth :: rest) =
      (some (Char.ofNat (((first.toNat % 8 * 64 + second.toNat % 64) * 64 + third.toNat % 64) * 64
        + fourth.toNat % 64)), 3) := by
  unfold readChar
  simp only [UInt8.lt_iff_toNat_lt, UInt8.le_iff_toNat_le, UInt8.reduceToNat, Bool.and_eq_true,
    decide_eq_true_eq]
  rw [if_neg (by omega), if_neg (by omega), if_neg (by omega), if_pos lead]
  simp only [allowed, follows, ends, Bool.not_true, Bool.false_eq_true, if_false, if_true]
  rfl

end Reading

section Writing

variable {n : Nat}

/-- A number that a byte can hold is the number of its byte. -/
theorem toNat_byte (small : n < 256) : (UInt8.ofNat n).toNat = n :=
  Nat.mod_eq_of_lt small

/-- Six bits behind the mark of a continuation continue a character. -/
theorem isContinuation_byte : isContinuation (UInt8.ofNat (n % 64 + 128)) = true := by
  have number := @toNat_byte (n % 64 + 128) (by omega)
  simp only [isContinuation, Bool.and_eq_true, decide_eq_true_eq, UInt8.le_iff_toNat_le, number,
    UInt8.reduceToNat]
  omega

/-- A byte outside the range of continuations begins a character. -/
theorem isContinuation_begins (small : n < 256) (apart : n < 128 ∨ 192 ≤ n) :
    isContinuation (UInt8.ofNat n) = false := by
  rw [isContinuation, Bool.and_eq_false_iff, decide_eq_false_iff_not, decide_eq_false_iff_not,
    UInt8.le_iff_toNat_le, UInt8.le_iff_toNat_le, toNat_byte small]
  simp only [UInt8.reduceToNat]
  omega

/-- The second of three bytes may follow the first, as no surrogate is a character. -/
theorem isSecond_three (least : 0x7FF < n) (most : n ≤ 0xFFFF) (valid : n.isValidChar) :
    isSecond (UInt8.ofNat (n / 4096 % 16 + 224)) (UInt8.ofNat (n / 64 % 64 + 128)) = true := by
  have first := @toNat_byte (n / 4096 % 16 + 224) (by omega)
  have second := @toNat_byte (n / 64 % 64 + 128) (by omega)
  unfold Nat.isValidChar at valid
  simp only [isSecond, isContinuation, beq_iff_eq, ← UInt8.toNat_inj, UInt8.le_iff_toNat_le,
    first, second, UInt8.reduceToNat]
  grind

/-- The second of four bytes may follow the first, as characters end at 0x10FFFF. -/
theorem isSecond_four (least : 0xFFFF < n) (valid : n.isValidChar) :
    isSecond (UInt8.ofNat (n / 262144 % 8 + 240)) (UInt8.ofNat (n / 4096 % 64 + 128)) = true := by
  have first := @toNat_byte (n / 262144 % 8 + 240) (by omega)
  have second := @toNat_byte (n / 4096 % 64 + 128) (by omega)
  unfold Nat.isValidChar at valid
  simp only [isSecond, isContinuation, beq_iff_eq, ← UInt8.toNat_inj, UInt8.le_iff_toNat_le,
    first, second, UInt8.reduceToNat]
  grind

/-- A character is read back from its bytes, whatever follows them. -/
theorem readChar_utf8EncodeChar (c : Char) : ∃ first others,
    String.utf8EncodeChar c = first :: others ∧
      ∀ rest, readChar first (others ++ rest) = (some c, others.length) := by
  have valid : c.val.toNat.isValidChar := c.valid
  have back : Char.ofNat c.val.toNat = c := Char.ofNat_toNat c
  unfold String.utf8EncodeChar
  generalize c.val.toNat = n at valid back
  subst back
  have most : n < 0x110000 := by unfold Nat.isValidChar at valid; omega
  dsimp only
  -- There is a case for each number of bytes, with the bits that the bytes share out.
  split
  case isTrue one =>
    refine ⟨_, _, rfl, fun rest => ?_⟩
    rw [List.nil_append, readChar_one, toNat_byte (by omega)]
    · rfl
    · rw [toNat_byte (by omega)]; exact one
  split
  case isTrue two =>
    have number : (n / 64 % 32 + 192) % 32 * 64 + (n % 64 + 128) % 64 = n := by omega
    refine ⟨_, _, rfl, fun rest => (readChar_two rest ?_ isContinuation_byte).trans ?_⟩
    · rw [toNat_byte (by omega)]
      omega
    · rw [toNat_byte (by omega), toNat_byte (by omega), number]
      rfl
  split
  case isTrue three =>
    have allowed := isSecond_three (by omega) three valid
    have number : ((n / 4096 % 16 + 224) % 16 * 64 + (n / 64 % 64 + 128) % 64) * 64
        + (n % 64 + 128) % 64 = n := by omega
    refine ⟨_, _, rfl, fun rest => (readChar_three rest ?_ allowed isContinuation_byte).trans ?_⟩
    · rw [toNat_byte (by omega)]
      omega
    · rw [toNat_byte (by omega), toNat_byte (by omega), toNat_byte (by omega), number]
      rfl
  case isFalse four =>
    have allowed := isSecond_four (by omega) valid
    have number : (((n / 262144 % 8 + 240) % 8 * 64 + (n / 4096 % 64 + 128) % 64) * 64
        + (n / 64 % 64 + 128) % 64) * 64 + (n % 64 + 128) % 64 = n := by omega
    refine ⟨_, _, rfl, fun rest =>
      (readChar_four rest ?_ allowed isContinuation_byte isContinuation_byte).trans ?_⟩
    · rw [toNat_byte (by omega)]
      omega
    · rw [toNat_byte (by omega), toNat_byte (by omega), toNat_byte (by omega),
        toNat_byte (by omega), number]
      rfl

/-- The first byte of a character begins it, and each of the others continues it. -/
theorem utf8EncodeChar_begins (c : Char) : ∃ first others,
    String.utf8EncodeChar c = first :: others ∧ isContinuation first = false ∧
      ∀ byte ∈ others, isContinuation byte = true := by
  unfold String.utf8EncodeChar
  generalize c.val.toNat = n
  dsimp only
  split
  case isTrue one => exact ⟨_, _, rfl, isContinuation_begins (by omega) (by omega), nofun⟩
  case isFalse longer =>
    -- The first byte of a longer character has the mark of its length, and each further one six bits.
    repeat' split
    all_goals
      refine ⟨_, _, rfl, isContinuation_begins (by omega) (by omega), ?_⟩
      simp only [List.forall_mem_cons, isContinuation_byte, true_and]
      nofun

end Writing

/-- Only the NUL has a zero among its bytes. -/
theorem zero_mem_utf8EncodeChar_iff {c : Char} : 0 ∈ String.utf8EncodeChar c ↔ c = '\x00' := by
  constructor
  · intro zero
    have back : Char.ofNat c.val.toNat = c := Char.ofNat_toNat c
    have marked {m : Nat} (least : 128 ≤ m) (small : m < 256) : (0 : UInt8) ≠ UInt8.ofNat m := by
      rw [ne_eq, ← UInt8.toNat_inj, toNat_byte small]
      exact Nat.ne_of_lt (Nat.lt_of_lt_of_le (by decide) least)
    unfold String.utf8EncodeChar at zero
    generalize c.val.toNat = n at zero back
    dsimp only at zero
    subst back
    split at zero
    case isTrue one =>
      have same : 0 = n := by
        rw [← toNat_byte (n := n) (by omega), ← List.mem_singleton.mp zero]
        rfl
      rw [← same]
    -- All bytes of longer characters are marked as such.
    case isFalse =>
      repeat' split at zero
      all_goals
        simp (disch := omega) only [List.mem_cons, List.not_mem_nil, marked, or_false] at zero
  · rintro rfl
    decide

/-- Reading a text goes on behind the bytes of a character. -/
theorem decode_utf8EncodeChar_append (c : Char) (rest : List UInt8) :
    decode (String.utf8EncodeChar c ++ rest) = some c :: decode rest := by
  obtain ⟨first, others, bytes, reads⟩ := readChar_utf8EncodeChar c
  simp only [bytes, List.cons_append, decode, reads, List.drop_left]

/-- The bytes of a text are read as its characters. -/
theorem decode_utf8 (s : String) : decode (utf8 s) = s.toList.map some := by
  unfold utf8
  induction s.toList with
  | nil => rw [List.flatMap_nil, decode, List.map_nil]
  | cons c rest ih => rw [List.flatMap_cons, decode_utf8EncodeChar_append, ih, List.map_cons]

/-- The bytes of a text are well formed. -/
theorem decode?_utf8 (s : String) : decode? (utf8 s) = some s := by
  have all (chars : List Char) : (chars.map some).mapM id = some chars := by
    induction chars with
    | nil => rfl
    | cons c rest ih => simp [List.mapM_cons, ih]
  rw [decode?, decode_utf8, all, Option.map_some, String.ofList_toList]

/-- No character of a text is replaced when its bytes are read. -/
theorem decodeLossy_utf8 (s : String) : decodeLossy (utf8 s) = s := by
  rw [decodeLossy, decode_utf8, List.map_map]
  exact (congrArg String.ofList (List.map_id _)).trans String.ofList_toList

/-- The part of a text before its first NUL. -/
def beforeNul (s : String) : String :=
  String.ofList (s.toList.takeWhile (· ≠ '\x00'))

/-- A text without a NUL is all of it before the first one. -/
theorem beforeNul_eq_self {s : String} (none : '\x00' ∉ s.toList) : beforeNul s = s := by
  have all : s.toList.takeWhile (· ≠ '\x00') = s.toList := by
    rw [List.takeWhile_eq_self_iff]
    intro c member
    refine decide_eq_true ?_
    rintro rfl
    exact none member
  rw [beforeNul, all, String.ofList_toList]

/-- The bytes before the first zero are those of the characters before the first NUL. -/
theorem takeWhile_utf8 (s : String) (zeros : Nat) :
    (utf8 s ++ List.replicate zeros 0).takeWhile (· != 0) = utf8 (beforeNul s) := by
  unfold utf8 beforeNul
  rw [String.toList_ofList]
  induction s.toList with
  | nil => simp
  | cons c rest ih =>
    rw [List.flatMap_cons, List.append_assoc]
    by_cases nul : c = '\x00'
    · subst nul
      rfl
    · -- All bytes of another character are taken.
      have whole : ∀ byte ∈ String.utf8EncodeChar c, (byte != 0) = true := by
        intro byte member
        rw [bne_iff_ne]
        rintro rfl
        exact nul (zero_mem_utf8EncodeChar_iff.mp member)
      rw [List.takeWhile_append_of_pos whole, ih, List.takeWhile_cons_of_pos (by simpa using nul),
        List.flatMap_cons]

end DungeonHooks.Text
