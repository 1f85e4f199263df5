import DungeonHooks.Text.Cut

/-! Texts that are cut to a number of bytes. -/

namespace DungeonHooks.Text

/-- Characters that fit into a number of bytes take no more of them. -/
theorem length_fitting (limit : Nat) (chars : List Char) :
    ((fitting limit chars).flatMap String.utf8EncodeChar).length ≤ limit := by
  induction chars generalizing limit with
  | nil => exact Nat.zero_le limit
  | cons c rest ih =>
    unfold fitting
    split
    case isTrue fits =>
      -- The rest has the bytes that the first character leaves.
      have others := ih (limit - c.utf8Size)
      rw [List.flatMap_cons, List.length_append, String.length_utf8EncodeChar]
      omega
    case isFalse => exact Nat.zero_le limit

/-- A text that is cut has at most the bytes it was cut to. -/
theorem length_utf8_cut (limit : Nat) (s : String) : (utf8 (cut limit s)).length ≤ limit := by
  rw [utf8, cut, String.toList_ofList]
  exact length_fitting limit s.toList

/-- Characters that fit are the first ones there are. -/
theorem fitting_prefix (limit : Nat) (chars : List Char) : fitting limit chars <+: chars := by
  induction chars generalizing limit with
  | nil => exact List.prefix_rfl
  | cons c rest ih =>
    unfold fitting
    split
    case isTrue => exact List.cons_prefix_cons.mpr ⟨rfl, ih _⟩
    case isFalse => exact List.nil_prefix

/-- Whatever a text begins with that fits is no more than the characters that fit. -/
theorem prefix_fitting {limit : Nat} {chars other : List Char} (begins : other <+: chars)
    (fits : (other.flatMap String.utf8EncodeChar).length ≤ limit) :
    other <+: fitting limit chars := by
  induction chars generalizing limit other with
  | nil =>
    rw [List.prefix_nil.mp begins]
    exact List.nil_prefix
  | cons c rest ih =>
    rcases List.prefix_cons_iff.mp begins with rfl | ⟨more, rfl, behind⟩
    · exact List.nil_prefix
    · rw [List.flatMap_cons, List.length_append, String.length_utf8EncodeChar] at fits
      -- The first character fits, and the others have the bytes that it leaves.
      rw [fitting, if_pos (by omega)]
      exact List.cons_prefix_cons.mpr ⟨rfl, ih behind (by omega)⟩

/-- A name is the longest that a text begins with among those of some bytes, counted in whole characters. -/
structure LongestWithin (limit : Nat) (s name : String) : Prop where
  begins : name.toList <+: s.toList
  fits : (utf8 name).length ≤ limit
  longest : ∀ other : String, other.toList <+: s.toList → (utf8 other).length ≤ limit →
    other.toList <+: name.toList

/-- A text is cut to the longest beginning that fits. -/
theorem cut_longest (limit : Nat) (s : String) : LongestWithin limit s (cut limit s) where
  begins := by
    rw [cut, String.toList_ofList]
    exact fitting_prefix limit s.toList
  fits := length_utf8_cut limit s
  longest other begins fits := by
    rw [cut, String.toList_ofList]
    exact prefix_fitting begins fits

end DungeonHooks.Text
