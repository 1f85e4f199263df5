import DungeonHooks.Proofs.Checked.Names
import DungeonHooks.Proofs.Text.Utf8

/-! Names are cut maximally: where the search for the end of a name stops, and what there is of the name then. -/

namespace DungeonHooks.Checked

/-- The offsets that a search for the last boundary looks at: the limit, and the one before any that is no boundary. -/
inductive LooksAt (chars : List Char) (limit : Nat) : Nat → Prop
  | limit : LooksAt chars limit limit
  | back {offset : Nat} (looks : LooksAt chars limit (offset + 1))
      (inside : isBoundary chars (offset + 1) = false) : LooksAt chars limit offset

/-- The search for the end of a name stops, and looks no further back than the longest character asks for. -/
structure StopsAt (name : String) (stop : Nat) : Prop where
  found : lastBoundary name.toList nameLength = .ok stop
  looked : LooksAt name.toList nameLength stop
  /-- Whatever the search looks at, it is not below 7, and the search stops at the same place from there. -/
  bounded : ∀ offset, LooksAt name.toList nameLength offset →
    7 ≤ offset ∧ lastBoundary name.toList offset = .ok stop

/-- What a name is cut to is the longest that it begins with in whole characters and that fits. -/
structure CutMaximally (name short : String) : Prop where
  /-- Boundaries are the end of the name and the offsets of bytes that continue no character. -/
  boundaries : ∀ offset, isBoundary name.toList offset = true ↔
    offset = (Text.utf8 name).length ∨
      ∃ byte, (Text.utf8 name)[offset]? = some byte ∧ Text.isContinuation byte = false
  /-- A name that is too long is cut where the search stops. -/
  stops : nameLength < (Text.utf8 name).length →
    ∃ stop, StopsAt name stop ∧ Text.utf8 short = (Text.utf8 name).take stop
  begins : short.toList <+: name.toList
  fits : (Text.utf8 short).length ≤ nameLength
  maximal : ∀ longer : String, longer.toList <+: name.toList →
    short.toList.length < longer.toList.length → nameLength < (Text.utf8 longer).length
  kept : short = name ↔ (Text.utf8 name).length ≤ nameLength
  idempotent : truncate short = .ok short
  monotone : ∀ other : String, name.toList <+: other.toList →
    ∃ cut, truncate other = .ok cut ∧ short.toList <+: cut.toList

section

variable {chars : List Char} {limit offset stop : Nat}

/-- A boundary is the end of a text, or has a byte that continues no character. -/
theorem isBoundary_iff_byte : isBoundary chars offset = true ↔
    offset = (chars.flatMap String.utf8EncodeChar).length ∨
      ∃ byte, (chars.flatMap String.utf8EncodeChar)[offset]? = some byte ∧
        Text.isContinuation byte = false := by
  -- The induction takes the bytes of one character off the text, and their number off the offset.
  induction chars generalizing offset with
  | nil => cases offset <;> simp [isBoundary]
  | cons c rest ih =>
    obtain ⟨first, others, bytes, begins, continues⟩ := Text.utf8EncodeChar_begins c
    have width : c.utf8Size = others.length + 1 := by
      rw [← String.length_utf8EncodeChar, bytes, List.length_cons]
    rw [List.flatMap_cons, bytes]
    cases offset with
    | zero => simp [isBoundary, begins]
    | succ offset =>
      have later : 0 < offset + 1 := Nat.zero_lt_succ offset
      rw [isBoundary_cons later, Bool.and_eq_true, decide_eq_true_eq, width,
        Nat.add_le_add_iff_right, Nat.add_sub_add_right, ih, List.cons_append,
        List.getElem?_cons_succ, List.length_cons, List.length_append, Nat.add_right_cancel_iff]
      by_cases behind : others.length ≤ offset
      · -- Behind the first character, the bytes are those of the rest.
        rw [List.getElem?_append_right behind]
        simp only [behind, true_and]
        refine or_congr_left ?_
        omega
      · -- Within the first character, the byte is one of those that continue it.
        have within : offset < others.length := Nat.lt_of_not_le behind
        have byte := continues _ (List.getElem_mem within)
        rw [List.getElem?_append_left within, List.getElem?_eq_getElem within]
        simp only [behind, false_and, Option.some.injEq, exists_eq_left', byte]
        simp only [Bool.true_eq_false, or_false, false_iff]
        omega

/-- The characters that fit leave no more bytes unused than the next one could need. -/
theorem limit_le_fitting (long : limit < size chars) :
    limit ≤ size (Text.fitting limit chars) + 3 := by
  induction chars generalizing limit with
  | nil => contradiction
  | cons c rest ih =>
    rw [size] at long
    unfold Text.fitting
    split
    case isTrue fits =>
      -- The rest is too long for the bytes that the first character leaves.
      have others := @ih (limit - c.utf8Size) (by omega)
      rw [size]
      omega
    case isFalse tooLong =>
      -- Nothing fits, but no character has more than four bytes.
      have four := c.utf8Size_le_four
      rw [size]
      omega

/-- A step back leaves no boundary behind, so that none is ever passed by. -/
theorem LooksAt.boundary_le {boundary : Nat} (looks : LooksAt chars limit offset)
    (found : isBoundary chars boundary = true) (within : boundary ≤ limit) :
    boundary ≤ offset := by
  induction looks with
  | limit => exact within
  | back _ inside ih =>
    -- The offset that is left is not the boundary, since it is none.
    refine Nat.le_of_lt_succ (Nat.lt_of_le_of_ne ih ?_)
    rintro rfl
    rw [found] at inside
    contradiction

/-- A step back does not change where the search stops, and so no number of them does. -/
theorem LooksAt.same_stop (looks : LooksAt chars limit offset) :
    lastBoundary chars offset = lastBoundary chars limit := by
  induction looks with
  | limit => rfl
  | back _ inside ih => rw [← ih, lastBoundary, inside, if_neg Bool.false_ne_true]

/-- The search looks at the place where it stops. -/
theorem LooksAt.of_lastBoundary (looks : LooksAt chars limit offset)
    (found : lastBoundary chars offset = .ok stop) : LooksAt chars limit stop := by
  -- The induction is on what is left of the way, each offset of which is looked at in turn.
  induction offset with
  | zero =>
    rw [lastBoundary, isBoundary, if_pos rfl] at found
    obtain rfl := Except.ok.inj found
    exact looks
  | succ offset ih =>
    rw [lastBoundary] at found
    split at found
    case isTrue boundary =>
      obtain rfl := Except.ok.inj found
      exact looks
    case isFalse inside => exact ih (looks.back (Bool.eq_false_iff.mpr inside)) found

end

section

variable {name : String} {limit : Nat}

/-- A text that is cut has the bytes of its characters that fit. -/
theorem length_cut (limit : Nat) (name : String) :
    (Text.utf8 (Text.cut limit name)).length = size (Text.fitting limit name.toList) := by
  rw [length_utf8, Text.cut, String.toList_ofList]

/-- A text is cut to itself exactly if it fits. -/
theorem cut_eq_self_iff : Text.cut limit name = name ↔ (Text.utf8 name).length ≤ limit := by
  constructor
  · intro whole
    rw [← whole]
    exact Text.length_utf8_cut limit name
  · intro short
    rw [length_utf8] at short
    rw [Text.cut, fitting_eq_self short, String.ofList_toList]

/-- The bytes of what a text begins with are its own first bytes. -/
theorem utf8_eq_take {short : String} (begins : short.toList <+: name.toList) :
    Text.utf8 short = (Text.utf8 name).take (Text.utf8 short).length := by
  obtain ⟨rest, joined⟩ := begins
  have bytes : Text.utf8 short ++ rest.flatMap String.utf8EncodeChar = Text.utf8 name := by
    rw [Text.utf8, Text.utf8, ← joined, List.flatMap_append]
  exact List.prefix_iff_eq_take.mp ⟨_, bytes⟩

/-- A name that is too long has its end looked for among the last few bytes that fit. -/
theorem stopsAt (long : nameLength < (Text.utf8 name).length) :
    StopsAt name (size (Text.fitting nameLength name.toList)) where
  found := lastBoundary_eq
  looked := LooksAt.limit.of_lastBoundary lastBoundary_eq
  bounded offset looks := by
    rw [length_utf8] at long
    -- The characters that fit end at a boundary, and no more than three bytes before the limit.
    have near := limit_le_fitting long
    have reached := looks.boundary_le isBoundary_fitting size_fitting_le
    rw [nameLength] at near reached
    exact ⟨by omega, looks.same_stop.trans lastBoundary_eq⟩

end

/-- Cutting a name always comes to its end, and leaves the longest that fits. -/
theorem names_cut_maximally (name : String) :
    truncate name = .ok (Text.cut nameLength name) ∧
      CutMaximally name (Text.cut nameLength name) := by
  have longest := Text.cut_longest nameLength name
  refine ⟨truncate_eq name, ?_⟩
  constructor
  case boundaries => exact fun offset => isBoundary_iff_byte
  case stops =>
    intro long
    refine ⟨_, stopsAt long, ?_⟩
    rw [← length_cut]
    exact utf8_eq_take longest.begins
  case begins => exact longest.begins
  case fits => exact longest.fits
  case maximal =>
    intro longer begins more
    -- One that fits would be no longer than the longest.
    by_contra fits
    have beyond := longest.longest longer begins (Nat.le_of_not_lt fits)
    exact Nat.not_le_of_lt more beyond.length_le
  case kept => exact cut_eq_self_iff
  case idempotent => rw [truncate_eq, cut_eq_self_iff.mpr longest.fits]
  case monotone =>
    intro other begins
    -- What the name is cut to fits, and so the other name is cut to no less.
    have more := Text.cut_longest nameLength other
    exact ⟨_, truncate_eq other, more.longest _ (longest.begins.trans begins) longest.fits⟩

/-- The longest character behind seven bytes takes the search as far back as it ever goes. -/
example : lastBoundary "Mewtwo 😀".toList nameLength = .ok 7 :=
  rfl

end DungeonHooks.Checked
