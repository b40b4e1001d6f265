/-!
# Texts by bytes

Parts of a text given by counts of bytes of its UTF-8 form.  A count that ends inside a
character, or beyond the end of the text, gives no part.
-/

namespace CodeCursor.Text

/-- The number of bytes of a text's UTF-8 form. -/
def byteLength : List Char → Nat
  | [] => 0
  | c :: rest => c.utf8Size + byteLength rest

/-- The number of bytes before the character with a given index, if the text has that character. -/
def bytesBefore? : List Char → Nat → Option Nat
  | [], _ => none
  | _ :: _, 0 => some 0
  | c :: rest, index + 1 => (bytesBefore? rest index).map (c.utf8Size + ·)

/-- The characters after the first `bytes` bytes, if these end where a character ends. -/
def dropBytes? (bytes : Nat) : List Char → Option (List Char)
  | [] => if bytes = 0 then some [] else none
  | c :: rest =>
    if bytes = 0 then some (c :: rest)
    else if c.utf8Size ≤ bytes then dropBytes? (bytes - c.utf8Size) rest
    else none

/-- The characters of the first `bytes` bytes, if these end where a character ends. -/
def takeBytes? (bytes : Nat) : List Char → Option (List Char)
  | [] => if bytes = 0 then some [] else none
  | c :: rest =>
    if bytes = 0 then some []
    else if c.utf8Size ≤ bytes then (takeBytes? (bytes - c.utf8Size) rest).map (c :: ·)
    else none

@[simp] theorem byteLength_append (a b : List Char) :
    byteLength (a ++ b) = byteLength a + byteLength b := by
  induction a with
  | nil => simp [byteLength]
  | cons c a ih => simp [byteLength, ih, Nat.add_assoc]

theorem bytesBefore?_eq_some_iff {text : List Char} {index bytes : Nat} :
    bytesBefore? text index = some bytes ↔
      index < text.length ∧ byteLength (text.take index) = bytes := by
  induction text generalizing index bytes with
  | nil => simp [bytesBefore?]
  | cons c rest ih =>
    cases index with
    | zero => simp [bytesBefore?, byteLength]
    | succ index =>
      simp only [bytesBefore?, Option.map_eq_some_iff, ih, List.length_cons, List.take_succ_cons,
        byteLength, Nat.add_lt_add_iff_right]
      constructor
      · rintro ⟨before, ⟨hlt, rfl⟩, rfl⟩
        exact ⟨hlt, rfl⟩
      · rintro ⟨hlt, rfl⟩
        exact ⟨_, ⟨hlt, rfl⟩, rfl⟩

/-- Dropping bytes splits the text where they end. -/
theorem dropBytes?_eq_some_iff {bytes : Nat} {text rest : List Char} :
    dropBytes? bytes text = some rest ↔
      ∃ before, text = before ++ rest ∧ byteLength before = bytes := by
  constructor
  · intro h
    induction text generalizing bytes with
    | nil =>
      unfold dropBytes? at h
      split at h
      · rename_i hzero
        obtain rfl := Option.some.inj h
        exact ⟨[], rfl, hzero.symm⟩
      · simp at h
    | cons c text ih =>
      unfold dropBytes? at h
      split at h
      · rename_i hzero
        obtain rfl := Option.some.inj h
        exact ⟨[], rfl, hzero.symm⟩
      · split at h
        · obtain ⟨before, split, length⟩ := ih h
          refine ⟨c :: before, by simp [split], ?_⟩
          simp only [byteLength]
          omega
        · simp at h
  · rintro ⟨before, rfl, rfl⟩
    induction before with
    | nil => cases rest <;> simp [dropBytes?, byteLength]
    | cons c before ih =>
      have := c.utf8Size_pos
      simp [dropBytes?, byteLength, ih]
      omega

theorem takeBytes?_eq_some_iff {bytes : Nat} {text before : List Char} :
    takeBytes? bytes text = some before ↔
      (∃ rest, text = before ++ rest) ∧ byteLength before = bytes := by
  constructor
  · intro h
    induction text generalizing bytes before with
    | nil =>
      unfold takeBytes? at h
      split at h
      · rename_i hzero
        obtain rfl := Option.some.inj h
        exact ⟨⟨[], rfl⟩, hzero.symm⟩
      · simp at h
    | cons c text ih =>
      unfold takeBytes? at h
      split at h
      · rename_i hzero
        obtain rfl := Option.some.inj h
        exact ⟨⟨c :: text, rfl⟩, hzero.symm⟩
      · split at h
        · obtain ⟨part, hpart, rfl⟩ := Option.map_eq_some_iff.1 h
          obtain ⟨⟨rest, split⟩, length⟩ := ih hpart
          refine ⟨⟨rest, by simp [split]⟩, ?_⟩
          simp only [byteLength]
          omega
        · simp at h
  · rintro ⟨⟨rest, rfl⟩, rfl⟩
    induction before with
    | nil => cases rest <;> simp [takeBytes?, byteLength]
    | cons c before ih =>
      have := c.utf8Size_pos
      simp [takeBytes?, byteLength, ih]
      omega

end CodeCursor.Text
