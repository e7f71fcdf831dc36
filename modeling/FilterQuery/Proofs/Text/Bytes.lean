/-
Texts by bytes.

A program that keeps its place in a text as an offset in bytes can miss: an offset in the middle of
a character is the beginning of nothing, and no text can be cut there. Cutting is partial here for
that reason. It succeeds at an offset if and only if the offset is a valid position of the string
(`isValid_iff_dropBytes?`), and what it gives is what follows, or what comes before. A place is
given by the text that is unread there; its offset is what the whole text is longer.
-/
import FilterQuery.Proofs.Text.Lowercase
import FilterQuery.Query.Error

set_option autoImplicit false

namespace FilterQuery

/-! ## Lengths -/

theorem byteLength_cons (c : Char) (s : List Char) :
    byteLength (c :: s) = c.utf8Size + byteLength s :=
  rfl

theorem byteLength_append (s t : List Char) :
    byteLength (s ++ t) = byteLength s + byteLength t := by
  induction s with
  | nil => simp [byteLength]
  | cons c s ih => rw [List.cons_append, byteLength_cons, byteLength_cons, ih, Nat.add_assoc]

/-- The length is the one in UTF-8. -/
theorem byteLength_eq_utf8ByteSize (s : List Char) :
    byteLength s = (String.ofList s).utf8ByteSize := by
  induction s with
  | nil => rfl
  | cons c s ih =>
    have hsplit : String.ofList (c :: s) = String.singleton c ++ String.ofList s := by
      apply String.toList_injective
      simp
    rw [hsplit, String.utf8ByteSize_append, String.utf8ByteSize_singleton, byteLength_cons, ih]

/-- A character of ASCII is one byte. -/
theorem utf8Size_of_ascii {c : Char} (h : c.toNat < 0x80) : c.utf8Size = 1 := by
  rw [Char.utf8Size_eq_one_iff, UInt32.le_iff_toNat_le]
  have hval : c.val.toNat = c.toNat := rfl
  have hlast : (127 : UInt32).toNat = 127 := rfl
  omega

/-- A text in ASCII has as many bytes as characters. -/
theorem byteLength_of_ascii {s : List Char} (h : ∀ c ∈ s, c.toNat < 0x80) :
    byteLength s = s.length := by
  induction s with
  | nil => rfl
  | cons c s ih =>
    rw [byteLength_cons, utf8Size_of_ascii (h c List.mem_cons_self),
      ih fun x hx => h x (List.mem_cons_of_mem c hx), List.length_cons, Nat.add_comm]

/-- A spelling of a word in ASCII is in ASCII, whatever the case of its letters. -/
theorem byteLength_of_spells {word : String} {s : List Char} (h : spells word s = true)
    (hword : word.toList.all (·.toNat < 0x80) = true) : byteLength s = word.length := by
  rw [← length_of_spells h]
  refine byteLength_of_ascii fun c hc => Nat.not_le.1 fun hbig => ?_
  rw [spells, beq_iff_eq] at h
  have hlower : c.toLower ∈ word.toList := h ▸ List.mem_map_of_mem hc
  rw [Text.toLower_of_not_ascii hbig] at hlower
  have := List.all_eq_true.1 hword c hlower
  simp only [decide_eq_true_eq] at this
  omega

namespace Text

/-! ## Cutting at an offset -/

/-- The text from an offset on, unless that is inside a character or behind the end. -/
def dropBytes? : List Char → Nat → Option (List Char)
  | [], n => if n = 0 then some [] else none
  | c :: s, n =>
    if n = 0 then some (c :: s)
    else if c.utf8Size ≤ n then dropBytes? s (n - c.utf8Size)
    else none

/-- The text up to an offset, unless that is inside a character or behind the end. -/
def takeBytes? (s : List Char) (n : Nat) : Option (List Char) :=
  (dropBytes? s n).map fun rest => s.take (s.length - rest.length)

theorem dropBytes?_append (s rest : List Char) :
    dropBytes? (s ++ rest) (byteLength s) = some rest := by
  induction s with
  | nil => cases rest <;> rfl
  | cons c s ih =>
    have hpos := c.utf8Size_pos
    rw [List.cons_append, dropBytes?, byteLength_cons, if_neg (by omega), if_pos (by omega),
      Nat.add_sub_cancel_left, ih]

theorem takeBytes?_append (s rest : List Char) :
    takeBytes? (s ++ rest) (byteLength s) = some s := by
  rw [takeBytes?, dropBytes?_append, Option.map_some, List.length_append, Nat.add_sub_cancel,
    List.take_left]

theorem exists_of_dropBytes? {s rest : List Char} {n : Nat} (h : dropBytes? s n = some rest) :
    ∃ before, s = before ++ rest ∧ byteLength before = n := by
  induction s generalizing n with
  | nil =>
    rw [dropBytes?] at h
    split at h
    · rename_i hn
      exact ⟨[], Option.some.inj h, hn.symm⟩
    · simp at h
  | cons c s ih =>
    rw [dropBytes?] at h
    split at h
    · rename_i hn
      exact ⟨[], Option.some.inj h, hn.symm⟩
    · split at h
      · obtain ⟨before, hs, hlength⟩ := ih h
        refine ⟨c :: before, by rw [hs, List.cons_append], ?_⟩
        rw [byteLength_cons]
        omega
      · simp at h

/-- **A text can be cut where a character begins or the text ends, and nowhere else.** -/
theorem isValid_iff_dropBytes? (text : String) (n : Nat) :
    String.Pos.Raw.IsValid text ⟨n⟩ ↔ (dropBytes? text.toList n).isSome = true := by
  rw [String.Pos.Raw.isValid_iff_exists_append]
  constructor
  · rintro ⟨before, rest, rfl, hn⟩
    have hlength : n = byteLength before.toList := by
      rw [byteLength_eq_utf8ByteSize, String.ofList_toList]
      exact congrArg String.Pos.Raw.byteIdx hn
    rw [String.toList_append, hlength, dropBytes?_append]
    rfl
  · intro h
    obtain ⟨rest, hrest⟩ := Option.isSome_iff_exists.1 h
    obtain ⟨before, htext, hlength⟩ := exists_of_dropBytes? hrest
    refine ⟨String.ofList before, String.ofList rest, ?_, ?_⟩
    · rw [← String.ofList_append, ← htext, String.ofList_toList]
    · rw [String.Pos.Raw.ext_iff, String.byteIdx_rawEndPos, ← byteLength_eq_utf8ByteSize, hlength]

/-! ## Places -/

/-- The offset of a place in a text, where `unread` is what is unread there. -/
def offset (text unread : List Char) : Nat :=
  byteLength text - byteLength unread

variable {text : List Char}

theorem offset_self (text : List Char) : offset text text = 0 :=
  Nat.sub_self _

/-- Where all of `t` is unread, the offset is the length of what stands before it. -/
theorem offset_unread (s t : List Char) : offset (s ++ t) t = byteLength s := by
  rw [offset, byteLength_append, Nat.add_sub_cancel]

/-- At the offset of a place there is what is unread there. -/
theorem dropBytes?_offset {s : List Char} (h : s <:+ text) :
    dropBytes? text (offset text s) = some s := by
  obtain ⟨before, rfl⟩ := h
  rw [offset, byteLength_append, Nat.add_sub_cancel, dropBytes?_append]

/-- Behind some characters the offset is greater by their bytes. -/
theorem offset_append {s t : List Char} (h : s ++ t <:+ text) :
    offset text t = offset text (s ++ t) + byteLength s := by
  obtain ⟨before, rfl⟩ := h
  simp only [offset, byteLength_append]
  omega

theorem offset_cons {c : Char} {s : List Char} (h : c :: s <:+ text) :
    offset text s = offset text (c :: s) + c.utf8Size :=
  offset_append (s := [c]) h

end Text

end FilterQuery
