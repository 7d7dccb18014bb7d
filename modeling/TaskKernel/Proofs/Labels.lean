import Mathlib.Data.List.Basic
import TaskKernel.Label

/-!
# The text of a label

A label cuts its text by walking back from the ninth byte to a character boundary, and reads it back
by decoding its bytes.

* `isValid_lastBoundary`, `le_lastBoundary` — the walk ends at a boundary, the last one within the
  limit;
* `prefix_of_utf8ByteSize_le` — of two beginnings of one text, the one with no more bytes is the
  beginning of the other, so that bytes order the beginnings of a text;
* `fromUTF8?_content_ofString` — what a label stores decodes, and `text_initial`,
  `utf8ByteSize_text_le` and `prefix_text` say to what: to the longest beginning that fits;
* `ofString_eq_iff` — neither the padding nor a zero byte in the text makes two labels alike or
  tells them apart.

The cut is `keepsWholeCharacters`.
-/

namespace TaskKernel

namespace Label

variable {s t u : String}

/-! ## The cut -/

/-- Where the text of `s` is cut. -/
def cut (s : String) : Nat := lastBoundary s (min s.utf8ByteSize maxBytes)

theorem cut_le_utf8ByteSize (s : String) : cut s ≤ s.utf8ByteSize :=
  Nat.le_trans (lastBoundary_le s _) (Nat.min_le_left _ _)

theorem cut_le_maxBytes (s : String) : cut s ≤ maxBytes :=
  Nat.le_trans (lastBoundary_le s _) (Nat.min_le_right _ _)

theorem isValid_lastBoundary (s : String) (limit : Nat) :
    (String.Pos.Raw.mk (lastBoundary s limit)).IsValid s := by
  induction limit with
  | zero => exact String.Pos.Raw.isValid_zero
  | succ n ih =>
    unfold lastBoundary
    split
    case isTrue hvalid => exact String.Pos.Raw.isValid_eq_true_iff.mp hvalid
    case isFalse => exact ih

/-- The walk passes over no boundary. -/
theorem le_lastBoundary {limit stop : Nat} (hstop : stop ≤ limit)
    (hvalid : (String.Pos.Raw.mk stop).IsValid s) : stop ≤ lastBoundary s limit := by
  induction limit with
  | zero => exact hstop
  | succ n ih =>
    unfold lastBoundary
    split
    case isTrue => exact hstop
    case isFalse hinvalid =>
      apply ih
      have hne : stop ≠ n + 1 := by
        intro heq
        exact hinvalid (String.Pos.Raw.isValid_eq_true_iff.mpr (heq ▸ hvalid))
      omega

/-! ## The beginnings of a text -/

theorem toList_prefix_iff : t.toList <+: s.toList ↔ ∃ u, s = t ++ u := by
  constructor
  · rintro ⟨rest, hrest⟩
    refine ⟨String.ofList rest, String.toList_inj.mp ?_⟩
    rw [String.toList_append, String.toList_ofList, hrest]
  · rintro ⟨u, rfl⟩
    exact ⟨u.toList, String.toList_append.symm⟩

/-- A beginning of a text ends at a boundary. -/
theorem isValid_of_initial (h : t.toList <+: s.toList) :
    (String.Pos.Raw.mk t.utf8ByteSize).IsValid s := by
  obtain ⟨u, rfl⟩ := toList_prefix_iff.mp h
  exact String.Pos.Raw.isValid_iff_exists_append.mpr ⟨t, u, rfl, rfl⟩

/-- A beginning of `t` that has as many bytes is `t`. -/
theorem eq_of_prefix_of_utf8ByteSize_le (h : u.toList <+: t.toList)
    (hsize : t.utf8ByteSize ≤ u.utf8ByteSize) : u = t := by
  obtain ⟨rest, rfl⟩ := toList_prefix_iff.mp h
  have hrest : rest.utf8ByteSize = 0 := by
    rw [String.utf8ByteSize_append] at hsize
    omega
  rw [String.utf8ByteSize_eq_zero_iff.mp hrest, String.append_empty]

/-- Bytes order the beginnings of a text. -/
theorem prefix_of_utf8ByteSize_le (ht : t.toList <+: s.toList) (hu : u.toList <+: s.toList)
    (hsize : t.utf8ByteSize ≤ u.utf8ByteSize) : t.toList <+: u.toList := by
  cases List.prefix_or_prefix_of_prefix ht hu with
  | inl htu => exact htu
  | inr hut =>
    have hsame := eq_of_prefix_of_utf8ByteSize_le hut hsize
    exact hsame ▸ List.prefix_refl u.toList

/-- The cut divides a text between two characters. -/
theorem exists_append_cut (s : String) : ∃ t u, s = t ++ u ∧ t.utf8ByteSize = cut s := by
  obtain ⟨t, u, hs, hpos⟩ :=
    String.Pos.Raw.isValid_iff_exists_append.mp (isValid_lastBoundary s _)
  exact ⟨t, u, hs, (congrArg String.Pos.Raw.byteIdx hpos).symm⟩

/-! ## The text of a label -/

theorem fromUTF8?_toByteArray (t : String) : String.fromUTF8? t.toByteArray = some t :=
  dif_pos t.isValidUTF8

theorem content_ofString (s : String) :
    (ofString s).content = s.toByteArray.extract 0 (cut s) := by
  apply content_ofBytes
  have hcut := cut_le_maxBytes s
  have hcapacity : maxBytes ≤ capacity := Nat.le_succ _
  show (s.toByteArray.extract 0 (cut s)).size ≤ capacity
  rw [ByteArray.size_extract]
  omega

/-- What the label of `s` stores are the bytes of the part before the cut. -/
theorem content_ofString_of_append (hs : s = t ++ u) (hcut : t.utf8ByteSize = cut s) :
    (ofString s).content = t.toByteArray := by
  rw [content_ofString, ← hcut, hs, String.toByteArray_append]
  exact ByteArray.extract_append_eq_left String.size_toByteArray.symm

theorem text_ofString_of_append (hs : s = t ++ u) (hcut : t.utf8ByteSize = cut s) :
    (ofString s).text = t := by
  rw [text, content_ofString_of_append hs hcut, fromUTF8?_toByteArray]
  rfl

theorem content_eq_text (s : String) : (ofString s).content = (ofString s).text.toByteArray := by
  obtain ⟨t, u, hs, hcut⟩ := exists_append_cut s
  rw [content_ofString_of_append hs hcut, text_ofString_of_append hs hcut]

/-- What a label stores is text, so reading it never falls back to the empty text. -/
theorem fromUTF8?_content_ofString (s : String) :
    String.fromUTF8? (ofString s).content = some (ofString s).text := by
  rw [content_eq_text]
  exact fromUTF8?_toByteArray _

theorem utf8ByteSize_text (s : String) : (ofString s).text.utf8ByteSize = cut s := by
  obtain ⟨t, u, hs, hcut⟩ := exists_append_cut s
  rw [text_ofString_of_append hs hcut, hcut]

theorem utf8ByteSize_text_le (s : String) : (ofString s).text.utf8ByteSize ≤ maxBytes :=
  utf8ByteSize_text s ▸ cut_le_maxBytes s

theorem text_initial (s : String) : (ofString s).text.toList <+: s.toList := by
  obtain ⟨t, u, hs, hcut⟩ := exists_append_cut s
  rw [text_ofString_of_append hs hcut]
  exact toList_prefix_iff.mpr ⟨u, hs⟩

/-- Whatever beginning fits is a beginning of the label's text. -/
theorem prefix_text (ht : t.toList <+: s.toList) (hfits : t.utf8ByteSize ≤ maxBytes) :
    t.toList <+: (ofString s).text.toList := by
  apply prefix_of_utf8ByteSize_le ht (text_initial s)
  rw [utf8ByteSize_text]
  have hsize : t.utf8ByteSize ≤ s.utf8ByteSize := by
    obtain ⟨u, rfl⟩ := toList_prefix_iff.mp ht
    rw [String.utf8ByteSize_append]
    exact Nat.le_add_right _ _
  exact le_lastBoundary (Nat.le_min.mpr ⟨hsize, hfits⟩) (isValid_of_initial ht)

/-- A text that fits is kept whole. -/
theorem text_ofString_of_fits (hfits : s.utf8ByteSize ≤ maxBytes) : (ofString s).text = s := by
  apply eq_of_prefix_of_utf8ByteSize_le (text_initial s)
  obtain ⟨rest, hrest⟩ := toList_prefix_iff.mp (prefix_text (List.prefix_refl s.toList) hfits)
  rw [hrest, String.utf8ByteSize_append]
  exact Nat.le_add_right _ _

/-- The text determines the whole storage of a label, its padding included. -/
theorem ofString_eq_iff : ofString s = ofString t ↔ (ofString s).text = (ofString t).text := by
  constructor
  · exact congrArg text
  · intro htext
    have hcontent : (ofString s).content = (ofString t).content := by
      rw [content_eq_text, content_eq_text, htext]
    rw [content_ofString, content_ofString] at hcontent
    exact congrArg ofBytes hcontent

/-- The label of `s` holds as many whole characters of it as fit. -/
structure KeepsWholeCharacters (s : String) : Prop where
  /-- The walk back ends at a boundary of `s`. -/
  boundary : (String.Pos.Raw.mk (cut s)).IsValid s
  /-- The bytes before the cut are in `s`, and they leave room for the terminator. -/
  cut_le : cut s ≤ s.utf8ByteSize ∧ cut s < capacity
  /-- The label's bytes decode: its text is not the one that stands for invalid bytes. -/
  decodes : String.fromUTF8? (ofString s).content = some (ofString s).text
  /-- The label's text is the beginning of `s`. -/
  beginning : (ofString s).text.toList <+: s.toList
  fits : (ofString s).text.utf8ByteSize ≤ maxBytes
  /-- No beginning of `s` that fits is longer. -/
  longest : ∀ t : String, t.toList <+: s.toList → t.utf8ByteSize ≤ maxBytes →
    t.toList <+: (ofString s).text.toList
  /-- The label of the label's text is the label. -/
  again : ofString (ofString s).text = ofString s
  /-- The stored arrays and lengths agree exactly if the texts do. -/
  same_iff : ∀ t : String, ofString s = ofString t ↔ (ofString s).text = (ofString t).text

/-- **A label cuts its text between two characters**: whatever the text, its label reads as the
longest beginning of whole characters that has at most nine bytes. A label made from that reading is
the same label, and two labels are equal exactly if they read the same. -/
theorem keepsWholeCharacters (s : String) : KeepsWholeCharacters s where
  boundary := isValid_lastBoundary s _
  cut_le := ⟨cut_le_utf8ByteSize s, Nat.lt_succ_of_le (cut_le_maxBytes s)⟩
  decodes := fromUTF8?_content_ofString s
  beginning := text_initial s
  fits := utf8ByteSize_text_le s
  longest t ht hfits := prefix_text ht hfits
  again := by
    apply ofString_eq_iff.mpr
    exact text_ofString_of_fits (utf8ByteSize_text_le s)
  same_iff _ := ofString_eq_iff

/-- The storage of both is nine zeros after the letter; the length tells them apart. -/
example : ofString "a\x00" ≠ ofString "a" := by decide

/-- The ninth byte would split the last character. -/
example : (ofString "abcdefghé").text = "abcdefgh" := by decide

end Label

end TaskKernel
