import InsertPivot.Document
import InsertPivot.Proofs.Segmentation

/-!
# Slices of a text

A range of byte offsets is a slice of a text when both of its ends lie between characters, in order
(`ByteRange.IsSlice`). `ByteRange.Covers` names the part of the text that the range covers, with what stands before
and behind it: there is such a part exactly where the range is a slice, and `ByteRange.cut?` finds it.
-/

namespace InsertPivot

namespace Text

/-! ## Offsets -/

/-- Sizes in bytes add up. -/
theorem byteSize_append (cs ds : List Char) : byteSize (cs ++ ds) = byteSize cs + byteSize ds := by
  induction cs with
  | nil => exact (Nat.zero_add _).symm
  | cons c cs ih =>
    show c.utf8Size + byteSize (cs ++ ds) = c.utf8Size + byteSize cs + byteSize ds
    rw [ih, Nat.add_assoc]

/-- The size of the characters is the size of the text. -/
theorem byteSize_toList_eq (text : String) : byteSize text.toList = text.utf8ByteSize := by
  rw [byteSize_toList, bytes, Array.length_toList]
  rfl

/-- An offset cuts a text where some of its characters take as many bytes. -/
theorem splitAt?_eq_some_iff {offset : Nat} {cs before behind : List Char} :
    splitAt? offset cs = some (before, behind) ↔ cs = before ++ behind ∧ byteSize before = offset := by
  constructor
  · intro h
    induction cs generalizing offset before with
    | nil =>
      rw [splitAt?] at h
      split at h
      next hzero =>
        cases h
        exact ⟨rfl, hzero.symm⟩
      next => cases h
    | cons c cs ih =>
      rw [splitAt?] at h
      split at h
      next hzero =>
        cases h
        exact ⟨rfl, hzero.symm⟩
      next =>
        split at h
        next => cases h
        next hle =>
          obtain ⟨⟨before', behind'⟩, hrest, heq⟩ := Option.map_eq_some_iff.mp h
          cases heq
          obtain ⟨rfl, hsize⟩ := ih hrest
          refine ⟨rfl, ?_⟩
          show c.utf8Size + byteSize before' = offset
          omega
  · rintro ⟨rfl, rfl⟩
    exact splitAt?_byteSize before behind

namespace ByteRange

/-! ## Ranges -/

/-- Whether a range covers a part of a text, between what stands before and behind it: it starts where the part does,
counted in bytes, and stops where the part does. -/
structure Covers (range : ByteRange) (text before part behind : String) : Prop where
  text_eq : text = before ++ part ++ behind
  start_eq : range.start = before.utf8ByteSize
  stop_eq : range.stop = (before ++ part).utf8ByteSize

/-- Whether the ends of a range are positions between characters of a text, in order. -/
def IsSlice (range : ByteRange) (text : String) : Prop :=
  range.start ≤ range.stop ∧ (⟨range.start⟩ : String.Pos.Raw).IsValid text ∧
    (⟨range.stop⟩ : String.Pos.Raw).IsValid text

/-- A cut is made where both ends of a range fall between characters, and its pieces are the text. -/
theorem cut?_eq_some_iff {range : ByteRange} {cs before covered behind : List Char} :
    range.cut? cs = some (before, covered, behind) ↔
      cs = before ++ (covered ++ behind) ∧ range.start = byteSize before ∧
        range.stop = byteSize (before ++ covered) := by
  unfold cut?
  constructor
  · intro h
    split at h
    next hle =>
      obtain ⟨⟨before', rest⟩, hfirst, h⟩ := Option.bind_eq_some_iff.mp h
      obtain ⟨⟨covered', behind'⟩, hsecond, h⟩ := Option.bind_eq_some_iff.mp h
      cases h
      obtain ⟨rfl, hstart⟩ := splitAt?_eq_some_iff.mp hfirst
      obtain ⟨rfl, hstop⟩ := splitAt?_eq_some_iff.mp hsecond
      refine ⟨rfl, hstart.symm, ?_⟩
      rw [byteSize_append]
      omega
    next => cases h
  · rintro ⟨rfl, hstart, hstop⟩
    rw [byteSize_append] at hstop
    have hsize : range.stop - range.start = byteSize covered := by omega
    rw [if_pos (by omega), hsize, hstart, splitAt?_byteSize]
    show (splitAt? (byteSize covered) (covered ++ behind)).bind _ = _
    rw [splitAt?_byteSize]
    rfl

variable {range : ByteRange} {text before part behind : String}

/-- A range covers the part of a text that the cut finds. -/
theorem covers_iff : range.Covers text before part behind ↔
    range.cut? text.toList = some (before.toList, part.toList, behind.toList) := by
  rw [cut?_eq_some_iff, ← String.toList_append, ← String.toList_append, ← String.toList_append, String.toList_inj,
    byteSize_toList_eq, byteSize_toList_eq]
  constructor
  · rintro ⟨htext, hstart, hstop⟩
    exact ⟨by rw [htext, String.append_assoc], hstart, hstop⟩
  · rintro ⟨htext, hstart, hstop⟩
    exact ⟨by rw [htext, String.append_assoc], hstart, hstop⟩

/-- The range from the start to the size of a text covers all of it. -/
theorem covers_all (text : String) : (⟨0, text.utf8ByteSize⟩ : ByteRange).Covers text "" text "" :=
  ⟨by simp, by simp, by simp⟩

/-- What is written in place of a part is covered by as many bytes from where the part starts. -/
theorem Covers.replaced (h : range.Covers text before part behind) (new : String) :
    (⟨range.start, range.start + new.utf8ByteSize⟩ : ByteRange).Covers (before ++ new ++ behind) before new behind :=
  ⟨rfl, h.start_eq, by rw [String.utf8ByteSize_append, h.start_eq]⟩

/-- The ends of a range are such positions exactly where it covers a part of the text. -/
theorem isSlice_iff : range.IsSlice text ↔ ∃ before part behind, range.Covers text before part behind := by
  constructor
  · rintro ⟨hle, hstart, hstop⟩
    obtain ⟨before, rest, hfirst, hbefore⟩ := String.Pos.Raw.isValid_iff_exists_append.mp hstart
    obtain ⟨through, behind, hsecond, hthrough⟩ := String.Pos.Raw.isValid_iff_exists_append.mp hstop
    have hstart_eq : range.start = before.utf8ByteSize := congrArg String.Pos.Raw.byteIdx hbefore
    have hstop_eq : range.stop = through.utf8ByteSize := congrArg String.Pos.Raw.byteIdx hthrough
    obtain ⟨part, rfl⟩ : ∃ part, through = before ++ part := by
      -- both are starts of the text, and the one that ends first is a start of the other
      have hbefore' : before.toList <+: text.toList := ⟨rest.toList, by rw [hfirst, String.toList_append]⟩
      have hthrough' : through.toList <+: text.toList := ⟨behind.toList, by rw [hsecond, String.toList_append]⟩
      obtain ⟨cs, hcs⟩ | ⟨cs, hcs⟩ := List.prefix_or_prefix_of_prefix hbefore' hthrough'
      · exact ⟨String.ofList cs, String.toList_inj.mp (by rw [String.toList_append, String.toList_ofList, hcs])⟩
      · obtain rfl : through ++ String.ofList cs = before :=
          String.toList_inj.mp (by rw [String.toList_append, String.toList_ofList, hcs])
        rw [String.utf8ByteSize_append] at hstart_eq
        have hnothing : String.ofList cs = "" := String.utf8ByteSize_eq_zero_iff.mp (by omega)
        exact ⟨"", by rw [hnothing, String.append_empty, String.append_empty]⟩
    exact ⟨before, part, behind, hsecond, hstart_eq, hstop_eq⟩
  · rintro ⟨before, part, behind, rfl, hstart, hstop⟩
    refine ⟨?_, ?_, ?_⟩
    · rw [hstart, hstop, String.utf8ByteSize_append]
      exact Nat.le_add_right _ _
    · exact String.Pos.Raw.isValid_iff_exists_append.mpr
        ⟨before, part ++ behind, String.append_assoc, String.Pos.Raw.ext hstart⟩
    · exact String.Pos.Raw.isValid_iff_exists_append.mpr ⟨before ++ part, behind, rfl, String.Pos.Raw.ext hstop⟩

end ByteRange

end Text

/-! ## Slices as the document takes them -/

open Text (ByteRange)

variable {range : ByteRange} {text before part behind : String}

theorem textSize_eq (text : String) : textSize text = text.utf8ByteSize :=
  Text.byteSize_toList_eq text

/-- What a range covers is the slice. -/
theorem slice?_of_covers (h : range.Covers text before part behind) : slice? text range = some part := by
  simp only [slice?, ByteRange.covers_iff.mp h, Option.map_some, String.ofList_toList]

/-- What a range covers is replaced, and nothing else. -/
theorem spliced_of_covers (h : range.Covers text before part behind) (new : String) :
    spliced text range new = before ++ new ++ behind := by
  simp only [spliced, ByteRange.covers_iff.mp h, String.ofList_toList]

/-- A range gives a slice if and only if both its ends fall between characters, in order. -/
theorem isSome_slice?_iff : (slice? text range).isSome ↔ range.IsSlice text := by
  rw [ByteRange.isSlice_iff]
  constructor
  · intro h
    obtain ⟨⟨before, covered, behind⟩, hcut⟩ := Option.isSome_iff_exists.mp (by rwa [slice?, Option.isSome_map] at h)
    refine ⟨String.ofList before, String.ofList covered, String.ofList behind, ByteRange.covers_iff.mpr ?_⟩
    simpa using hcut
  · rintro ⟨before, part, behind, h⟩
    rw [slice?_of_covers h]
    rfl

end InsertPivot
