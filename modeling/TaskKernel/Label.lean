/-!
# Labels

A label is a short description attached to a timer. It keeps as many whole characters of a text as
fit into nine bytes of UTF-8. Its storage has a fixed size: the bytes after the text are zero, and a
length says where the text ends, so that a text may itself hold zero bytes.
-/

namespace TaskKernel

namespace Label

/-- The most bytes of text that a label holds. -/
def maxBytes : Nat := 9

/-- The storage of a label: its text and a terminator. -/
def capacity : Nat := maxBytes + 1

end Label

/-- A short text in UTF-8. -/
structure Label where
  /-- The bytes of the text, padded with zeros. -/
  bytes : Vector UInt8 Label.capacity
  /-- How many of the bytes are text. -/
  length : UInt8
deriving DecidableEq

namespace Label

/-- The label that stores the bytes `b`, which fit. -/
def ofBytes (b : ByteArray) : Label where
  bytes := Vector.ofFn fun i => b.data.getD i 0
  length := UInt8.ofNat b.size

/-- The label without text. -/
def empty : Label := ofBytes ByteArray.empty

/-- The last character boundary of `s` that lies at or before byte `limit`. -/
def lastBoundary (s : String) : (limit : Nat) → Nat
  | 0 => 0
  | n + 1 => if (String.Pos.Raw.mk (n + 1)).isValid s then n + 1 else lastBoundary s n

/-- The label of a text, cut at the last character boundary that fits. -/
def ofString (s : String) : Label :=
  ofBytes (s.toUTF8.extract 0 (lastBoundary s (min s.utf8ByteSize maxBytes)))

/-- The bytes of a label's text. -/
def content (label : Label) : ByteArray := ⟨label.bytes.toArray.extract 0 label.length.toNat⟩

/-- The text of a label; bytes that are no text read as the empty text. -/
def text (label : Label) : String :=
  (String.fromUTF8? label.content).getD ""

theorem lastBoundary_le (s : String) (limit : Nat) : lastBoundary s limit ≤ limit := by
  induction limit with
  | zero => exact Nat.le_refl 0
  | succ n ih =>
    unfold lastBoundary
    split
    · exact Nat.le_refl _
    · exact Nat.le_succ_of_le ih

/-- The padding is no part of the content. -/
theorem content_ofBytes {b : ByteArray} (hfits : b.size ≤ capacity) :
    (ofBytes b).content = b := by
  have hlength : (UInt8.ofNat b.size).toNat = b.size := by
    rw [UInt8.toNat_ofNat']
    exact Nat.mod_eq_of_lt (Nat.lt_of_le_of_lt hfits (by decide))
  apply ByteArray.ext
  simp only [content, ofBytes, hlength]
  apply Array.ext
  · have hsize : b.data.size = b.size := rfl
    simp only [Array.size_extract, Vector.size_toArray, hsize]
    omega
  · intro i hi hib
    have hi' : i < b.size := hib
    simp [Array.getD, hi']

end Label

end TaskKernel
