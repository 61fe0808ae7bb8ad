import InsertPivot.Fragment
import InsertPivot.Text.Bytes
import InsertPivot.Text.Ranges

/-!
# What the fragments of a text are

`Fragment.split` looks for candidates from left to right. `Segmentation` says what it finds without saying how
to look: the fragments make up the text, a fragment is a statement by its first six bytes, and each fragment is
either a whole candidate or a gap that no candidate starts in, never two gaps in a row. A text has exactly one
segmentation, and `split` yields it.

A gap is judged with the text behind it, since a candidate that starts in a gap may end beyond it.
-/

namespace InsertPivot

/-! ## Bytes -/

namespace Text

/-- The bytes of a text. -/
def bytes (text : String) : List UInt8 :=
  text.toByteArray.data.toList

/-- A byte, or the capital letter when it is a small ASCII letter. -/
def upperByte (b : UInt8) : UInt8 :=
  if 0x61 ≤ b ∧ b ≤ 0x7a then b - 0x20 else b

/-- The bytes of a text are those of its characters, one character behind the other. -/
theorem bytes_eq (text : String) : bytes text = text.toList.flatMap String.utf8EncodeChar := by
  rw [bytes, ← String.utf8Encode_toList, List.utf8Encode, List.data_toByteArray]

/-- The size that the search counts in is the number of bytes. -/
theorem byteSize_toList (text : String) : byteSize text.toList = (bytes text).length := by
  rw [bytes_eq]
  induction text.toList with
  | nil => rfl
  | cons c cs ih =>
    rw [List.flatMap_cons, List.length_append, String.length_utf8EncodeChar, ← ih]
    rfl

theorem splitAt?_zero (cs : List Char) : splitAt? 0 cs = some ([], cs) := by
  cases cs <;> rfl

/-- A cut behind a piece, counted in bytes, gives back the piece and what follows it. -/
theorem splitAt?_byteSize (cs ds : List Char) : splitAt? (byteSize cs) (cs ++ ds) = some (cs, ds) := by
  induction cs with
  | nil => exact splitAt?_zero ds
  | cons c cs ih =>
    have hpos := Char.utf8Size_pos c
    show splitAt? (c.utf8Size + byteSize cs) (c :: (cs ++ ds)) = _
    rw [splitAt?, if_neg (by omega), if_neg (by omega), Nat.add_sub_cancel_left, ih]
    rfl

/-- In ASCII, to raise a character and to raise its byte come to the same. -/
theorem upperByte_toUInt8 {c : Char} (hc : c.toNat < 0x80) : upperByte c.toUInt8 = c.toUpper.toUInt8 := by
  have hall : ∀ n < 0x80, upperByte (Char.ofNat n).toUInt8 = (Char.ofNat n).toUpper.toUInt8 := by decide
  have := hall c.toNat hc
  rwa [Char.ofNat_toNat] at this

/-- Outside of ASCII, to raise a character leaves it as it is. -/
theorem toUpper_eq_of_not_lt {c : Char} (hc : ¬ c.toNat < 0x80) : c.toUpper = c := by
  unfold Char.toUpper
  rw [dif_neg]
  rintro ⟨-, hle⟩
  have : c.toNat ≤ 0x7a := hle
  omega

theorem toUpper_lt {c : Char} (hc : c.toNat < 0x80) : c.toUpper.toNat < 0x80 := by
  have hall : ∀ n < 0x80, (Char.ofNat n).toUpper.toNat < 0x80 := by decide
  have := hall c.toNat hc
  rwa [Char.ofNat_toNat] at this

theorem toNat_toUInt8 {c : Char} (hc : c.toNat < 0x80) : c.toUInt8.toNat = c.toNat := by
  show c.val.toNat % 256 = c.val.toNat
  have : c.val.toNat < 0x80 := hc
  omega

/-- In ASCII a byte tells its character. -/
theorem toUInt8_injective {c d : Char} (hc : c.toNat < 0x80) (hd : d.toNat < 0x80) (h : c.toUInt8 = d.toUInt8) :
    c = d := by
  have hnat : c.toNat = d.toNat := by rw [← toNat_toUInt8 hc, ← toNat_toUInt8 hd, h]
  rw [← Char.ofNat_toNat c, hnat, Char.ofNat_toNat]

/-- An ASCII character is one byte. -/
theorem encode_of_lt {c : Char} (hc : c.toNat < 0x80) : String.utf8EncodeChar c = [c.toUInt8] := by
  have hle : c.val.toNat ≤ 0x7f := Nat.le_of_lt_succ hc
  rw [String.utf8EncodeChar, if_pos hle]
  rfl

/-- A character beyond ASCII starts with a byte beyond ASCII. -/
theorem exists_encode_of_not_lt {c : Char} (hc : ¬ c.toNat < 0x80) :
    ∃ b bs, String.utf8EncodeChar c = b :: bs ∧ 0x80 ≤ b.toNat := by
  have hlt : ¬ c.val.toNat ≤ 0x7f := fun h => hc (Nat.lt_succ_of_le h)
  simp only [String.utf8EncodeChar, if_neg hlt]
  split
  · refine ⟨_, _, rfl, ?_⟩
    simp only [UInt8.toNat_ofNat']
    omega
  · split
    · refine ⟨_, _, rfl, ?_⟩
      simp only [UInt8.toNat_ofNat']
      omega
    · refine ⟨_, _, rfl, ?_⟩
      simp only [UInt8.toNat_ofNat']
      omega

end Text

namespace Fragment

open Text (bytes upperByte)

/-! ## The word `INSERT` -/

/-- A word is found if and only if the text starts with it, in any case. -/
theorem afterWord?_eq_some_iff {word cs rest : List Char} :
    afterWord? word cs = some rest ↔ ∃ w, cs = w ++ rest ∧ w.map Char.toUpper = word := by
  induction word generalizing cs with
  | nil =>
    constructor
    · rintro ⟨⟩
      exact ⟨[], rfl, rfl⟩
    · rintro ⟨w, rfl, hw⟩
      rw [List.map_eq_nil_iff.mp hw]
      rfl
  | cons u word ih =>
    cases cs with
    | nil =>
      constructor
      · rintro ⟨⟩
      · rintro ⟨w, hcs, hw⟩
        rw [(List.append_eq_nil_iff.mp hcs.symm).1] at hw
        cases hw
    | cons c cs =>
      rw [afterWord?]
      constructor
      · intro h
        split at h
        next hc =>
          obtain ⟨w, rfl, hw⟩ := ih.mp h
          exact ⟨c :: w, rfl, by rw [List.map_cons, hc, hw]⟩
        next => cases h
      · rintro ⟨w, hcs, hw⟩
        obtain ⟨d, ds, rfl, hd, hds⟩ := List.map_eq_cons_iff.mp hw
        cases hcs
        rw [if_pos hd]
        exact ih.mpr ⟨ds, rfl, hds⟩

/-- Whether a text starts with an ASCII word is a matter of its first bytes. -/
theorem isSome_afterWord?_iff {word : List Char} (hword : ∀ w ∈ word, w.toNat < 0x80) (cs : List Char) :
    (afterWord? word cs).isSome ↔
      ((cs.flatMap String.utf8EncodeChar).take word.length).map upperByte = word.map Char.toUInt8 := by
  induction word generalizing cs with
  | nil => simp [afterWord?]
  | cons w word ih =>
    have hw : w.toNat < 0x80 := hword w List.mem_cons_self
    have hrest := ih fun w h => hword w (List.mem_cons_of_mem _ h)
    cases cs with
    | nil => simp [afterWord?]
    | cons c cs =>
      rw [afterWord?, List.flatMap_cons]
      by_cases hc : c.toNat < 0x80
      · rw [Text.encode_of_lt hc, List.singleton_append, List.length_cons, List.take_succ_cons, List.map_cons,
          List.map_cons, List.cons.injEq, Text.upperByte_toUInt8 hc, ← hrest]
        by_cases heq : c.toUpper = w
        · simp [heq]
        · have hne : c.toUpper.toUInt8 ≠ w.toUInt8 := fun h => heq (Text.toUInt8_injective (Text.toUpper_lt hc) hw h)
          simp [heq, hne]
      · obtain ⟨b, bs, hbytes, hb⟩ := Text.exists_encode_of_not_lt hc
        have hupper : upperByte b = b := by
          unfold upperByte
          rw [if_neg]
          rintro ⟨-, hle⟩
          have : b.toNat ≤ 0x7a := hle
          omega
        have hne : b ≠ w.toUInt8 := by
          intro h
          have := Text.toNat_toUInt8 hw
          rw [← h] at this
          omega
        have hchar : c.toUpper ≠ w := by
          rw [Text.toUpper_eq_of_not_lt hc]
          rintro rfl
          exact hc hw
        rw [hbytes, List.cons_append, List.length_cons, List.take_succ_cons, List.map_cons, List.map_cons,
          List.cons.injEq, hupper, if_neg hchar]
        simp [hne]

/-! ## Candidates and gaps -/

/-- The word `INSERT` in any ASCII case, a space, one character of any kind, and all up to the first semicolon
behind that character. -/
def IsCandidate (cs : List Char) : Prop :=
  ∃ w c body, cs = w ++ ' ' :: c :: (body ++ [';']) ∧ w.map Char.toUpper = leadWord ∧ ';' ∉ body

/-- Whether a candidate starts a text: the word `INSERT` and a space do, and a semicolon follows anywhere behind
one more character. -/
def StartsCandidate (cs : List Char) : Prop :=
  ∃ w c body, cs = w ++ ' ' :: c :: body ∧ w.map Char.toUpper = leadWord ∧ ';' ∈ body

/-- Whether no candidate starts in a piece of a text, with the text behind it. -/
def IsGap (piece behind : List Char) : Prop :=
  ∀ rest, rest <:+ piece → rest ≠ [] → ¬ StartsCandidate (rest ++ behind)

/-- An opening is `INSERT` in any case, a space and one character more, whichever it is. -/
theorem opening?_eq_some_iff {cs body : List Char} :
    opening? cs = some body ↔ ∃ w c, cs = w ++ ' ' :: c :: body ∧ w.map Char.toUpper = leadWord := by
  unfold opening?
  constructor
  · intro h
    split at h
    next c body' hafter =>
      cases h
      obtain ⟨w, rfl, hw⟩ := afterWord?_eq_some_iff.mp hafter
      exact ⟨w, c, rfl, hw⟩
    next => cases h
  · rintro ⟨w, c, rfl, hw⟩
    simp only [afterWord?_eq_some_iff.mpr ⟨w, rfl, hw⟩]

/-- A candidate starts where an opening stands that some semicolon follows. -/
theorem startsCandidate_iff {cs : List Char} : StartsCandidate cs ↔ ∃ body, opening? cs = some body ∧ ';' ∈ body := by
  constructor
  · rintro ⟨w, c, body, hcs, hw, hmem⟩
    exact ⟨body, opening?_eq_some_iff.mpr ⟨w, c, hcs, hw⟩, hmem⟩
  · rintro ⟨body, hopen, hmem⟩
    obtain ⟨w, c, hcs, hw⟩ := opening?_eq_some_iff.mp hopen
    exact ⟨w, c, body, hcs, hw, hmem⟩

/-- Whatever spells `INSERT` has six characters. -/
theorem length_of_lead {w : List Char} (hw : w.map Char.toUpper = leadWord) : w.length = 6 := by
  rw [← List.length_map (f := Char.toUpper), hw]
  rfl

/-- All openings are of one length. -/
theorem length_of_opening {w : List Char} (hw : w.map Char.toUpper = leadWord) (c : Char) :
    (w ++ [' ', c]).length = openingSize := by
  rw [List.length_append, length_of_lead hw]
  rfl

/-- As many characters as an opening has are the opening. -/
theorem take_of_opening {w : List Char} (hw : w.map Char.toUpper = leadWord) (c : Char) (body : List Char) :
    (w ++ ' ' :: c :: body).take openingSize = w ++ [' ', c] := by
  rw [← length_of_opening hw c, show w ++ ' ' :: c :: body = (w ++ [' ', c]) ++ body by simp, List.take_left]

/-- What follows the opening of a candidate is the text without as many characters as an opening has. -/
theorem eq_drop_of_opening? {cs body : List Char} (h : opening? cs = some body) : body = cs.drop openingSize := by
  obtain ⟨w, c, rfl, hw⟩ := opening?_eq_some_iff.mp h
  rw [← length_of_opening hw c, show w ++ ' ' :: c :: body = (w ++ [' ', c]) ++ body by simp, List.drop_left]

/-- What is taken up to a semicolon holds that one, at its end. -/
theorem throughSemicolon?_eq_some_iff {cs found rest : List Char} :
    throughSemicolon? cs = some (found, rest) ↔ ∃ body, found = body ++ [';'] ∧ cs = found ++ rest ∧ ';' ∉ body := by
  induction cs generalizing found with
  | nil =>
    constructor
    · rintro ⟨⟩
    · rintro ⟨body, rfl, hcs, -⟩
      simp at hcs
  | cons c cs ih =>
    rw [throughSemicolon?]
    by_cases hc : c = ';'
    · subst hc
      rw [if_pos rfl]
      constructor
      · rintro ⟨⟩
        exact ⟨[], rfl, rfl, List.not_mem_nil⟩
      · rintro ⟨body, rfl, hcs, hmem⟩
        cases body with
        | nil =>
          cases hcs
          rfl
        | cons d body =>
          cases hcs
          exact absurd List.mem_cons_self hmem
    · rw [if_neg hc, Option.map_eq_some_iff]
      constructor
      · rintro ⟨⟨found', rest'⟩, hfound, heq⟩
        cases heq
        obtain ⟨body, rfl, rfl, hmem⟩ := ih.mp hfound
        exact ⟨c :: body, rfl, rfl, List.not_mem_cons_of_ne_of_not_mem (Ne.symm hc) hmem⟩
      · rintro ⟨body, rfl, hcs, hmem⟩
        cases body with
        | nil =>
          cases hcs
          exact absurd rfl hc
        | cons d body =>
          cases hcs
          exact ⟨(body ++ [';'], rest), ih.mpr ⟨body, rfl, rfl, fun h => hmem (List.mem_cons_of_mem _ h)⟩, rfl⟩

/-- Nothing is taken if and only if there is no semicolon. -/
theorem throughSemicolon?_eq_none_iff {cs : List Char} : throughSemicolon? cs = none ↔ ';' ∉ cs := by
  induction cs with
  | nil => simp [throughSemicolon?]
  | cons c cs ih =>
    rw [throughSemicolon?]
    by_cases hc : c = ';'
    · simp [hc]
    · rw [if_neg hc, Option.map_eq_none_iff, ih, List.mem_cons, not_or]
      exact ⟨fun h => ⟨Ne.symm hc, h⟩, And.right⟩

/-! ## The first candidate -/

theorem isGap_nil (behind : List Char) : IsGap [] behind := by
  intro rest hrest hne
  exact absurd (List.suffix_nil.mp hrest) hne

/-- A gap is read character by character: no candidate starts at its first one, and its rest is a gap. -/
theorem isGap_cons_iff {c : Char} {piece behind : List Char} :
    IsGap (c :: piece) behind ↔ ¬ StartsCandidate (c :: piece ++ behind) ∧ IsGap piece behind := by
  constructor
  · intro h
    exact ⟨h _ List.suffix_rfl (List.cons_ne_nil _ _), fun rest hrest => h rest (hrest.trans (List.suffix_cons _ _))⟩
  · rintro ⟨hhere, hrest⟩ rest hsuffix hne
    obtain rfl | hsuffix := List.suffix_cons_iff.mp hsuffix
    · exact hhere
    · exact hrest rest hsuffix hne

/-- What is found as the first candidate is one, and what stands before it is a gap. -/
theorem of_seek_eq_some {cs gap found rest : List Char} (h : seek cs = some (gap, found, rest)) :
    cs = gap ++ (found ++ rest) ∧ IsGap gap (found ++ rest) ∧ IsCandidate found := by
  induction cs generalizing gap with
  | nil => cases h
  | cons c cs ih =>
    rw [seek] at h
    cases hopen : opening? (c :: cs) with
    | some body =>
      rw [hopen] at h
      obtain ⟨⟨found', rest'⟩, hthrough, heq⟩ := Option.map_eq_some_iff.mp h
      obtain ⟨inside, rfl, rfl, hmem⟩ := throughSemicolon?_eq_some_iff.mp hthrough
      simp only [Prod.mk.injEq] at heq
      obtain ⟨rfl, rfl, rfl⟩ := heq
      obtain ⟨w, d, hcs, hw⟩ := opening?_eq_some_iff.mp hopen
      rw [hcs, take_of_opening hw]
      exact ⟨by simp, isGap_nil _, w, d, inside, by simp, hw, hmem⟩
    | none =>
      rw [hopen] at h
      obtain ⟨⟨gap', found', rest'⟩, hseek, heq⟩ := Option.map_eq_some_iff.mp h
      simp only [Prod.mk.injEq] at heq
      obtain ⟨rfl, rfl, rfl⟩ := heq
      obtain ⟨rfl, hgap, hfound⟩ := ih hseek
      refine ⟨rfl, isGap_cons_iff.mpr ⟨?_, hgap⟩, hfound⟩
      rintro hstarts
      obtain ⟨body, hbody, -⟩ := startsCandidate_iff.mp hstarts
      rw [List.cons_append, hopen] at hbody
      cases hbody

/-- Where no candidate is found, the whole text is a gap. -/
theorem isGap_of_seek_eq_none {cs : List Char} (h : seek cs = none) : IsGap cs [] := by
  induction cs with
  | nil => exact isGap_nil []
  | cons c cs ih =>
    rw [seek] at h
    cases hopen : opening? (c :: cs) with
    | some body =>
      rw [hopen] at h
      have hmem : ';' ∉ body := throughSemicolon?_eq_none_iff.mp (Option.map_eq_none_iff.mp h)
      -- a candidate that starts later has its semicolon later too
      intro rest hrest _ hstarts
      rw [List.append_nil] at hstarts
      obtain ⟨body', hopen', hmem'⟩ := startsCandidate_iff.mp hstarts
      refine hmem (List.IsSuffix.mem hmem' ?_)
      obtain rfl := eq_drop_of_opening? hopen
      obtain rfl := eq_drop_of_opening? hopen'
      refine List.suffix_of_suffix_length_le ((List.drop_suffix _ _).trans hrest) (List.drop_suffix _ _) ?_
      rw [List.length_drop, List.length_drop]
      exact Nat.sub_le_sub_right hrest.length_le _
    | none =>
      rw [hopen] at h
      refine isGap_cons_iff.mpr ⟨?_, ih (Option.map_eq_none_iff.mp h)⟩
      rw [List.append_nil, startsCandidate_iff, hopen]
      rintro ⟨body, ⟨⟩, -⟩

/-- In a gap that nothing follows, the search finds nothing. -/
theorem seek_isGap {piece : List Char} (h : IsGap piece []) : seek piece = none := by
  cases hseek : seek piece with
  | none => rfl
  | some found =>
    obtain ⟨gap, found, rest⟩ := found
    obtain ⟨rfl, -, w, c, body, rfl, hw, hmem⟩ := of_seek_eq_some hseek
    refine absurd ⟨w, c, body ++ ';' :: rest, ?_, hw, by simp⟩
      (h (w ++ ' ' :: c :: (body ++ [';']) ++ rest) (List.suffix_append _ _) (by simp))
    simp

/-- A candidate at the start is what the search finds, whatever follows it. -/
theorem seek_isCandidate {found : List Char} (h : IsCandidate found) (rest : List Char) :
    seek (found ++ rest) = some ([], found, rest) := by
  obtain ⟨w, c, body, rfl, hw, hmem⟩ := h
  have hopen : opening? (w ++ ' ' :: c :: (body ++ [';']) ++ rest) = some (body ++ [';'] ++ rest) :=
    opening?_eq_some_iff.mpr ⟨w, c, by simp, hw⟩
  have hthrough : throughSemicolon? (body ++ [';'] ++ rest) = some (body ++ [';'], rest) :=
    throughSemicolon?_eq_some_iff.mpr ⟨body, rfl, rfl, hmem⟩
  have htake : (w ++ ' ' :: c :: (body ++ [';']) ++ rest).take openingSize = w ++ [' ', c] := by
    rw [List.append_assoc, List.cons_append, List.cons_append, take_of_opening hw]
  cases hcs : w ++ ' ' :: c :: (body ++ [';']) ++ rest with
  | nil => simp at hcs
  | cons d ds =>
    rw [hcs] at hopen htake
    rw [seek, hopen]
    simp only [hthrough, Option.map_some, htake]
    simp

/-- In a gap before a candidate nothing opens a candidate: the semicolon that ends the one behind the gap would
end that one too. -/
theorem opening?_of_isGap {gap found rest : List Char} (hgap : IsGap gap (found ++ rest)) (hfound : IsCandidate found)
    {part : List Char} (hpart : part <:+ gap) (hne : part ≠ []) : opening? (part ++ (found ++ rest)) = none := by
  cases hopen : opening? (part ++ (found ++ rest)) with
  | none => rfl
  | some body =>
    refine absurd (startsCandidate_iff.mpr ⟨body, hopen, ?_⟩) (hgap part hpart hne)
    obtain ⟨w, d, inside, rfl, hw, -⟩ := hfound
    have hlong : openingSize ≤ (part ++ (w ++ ' ' :: d :: inside)).length := by
      simp only [List.length_append, List.length_cons, length_of_lead hw, openingSize]
      omega
    have hsplit : part ++ (w ++ ' ' :: d :: (inside ++ [';']) ++ rest) =
        (part ++ (w ++ ' ' :: d :: inside)) ++ ';' :: rest := by simp
    rw [eq_drop_of_opening? hopen, hsplit, List.drop_append_of_le_length hlong]
    simp

/-- A gap before a candidate is passed over. -/
theorem seek_isGap_append {gap found rest : List Char} (hgap : IsGap gap (found ++ rest)) (hfound : IsCandidate found) :
    seek (gap ++ (found ++ rest)) = some (gap, found, rest) := by
  induction gap with
  | nil => exact seek_isCandidate hfound rest
  | cons c gap ih =>
    have hopen := opening?_of_isGap hgap hfound List.suffix_rfl (List.cons_ne_nil c gap)
    rw [List.cons_append] at hopen ⊢
    rw [seek, hopen]
    simp only [ih (isGap_cons_iff.mp hgap).2, Option.map_some]

/-! ## Segmentations -/

/-- Whether a fragment is read as SQL. -/
def isStatement : Fragment → Bool
  | .statement _ => true
  | .passthrough _ => false

/-- The text that some fragments make up. -/
def joined (fragments : List Fragment) : String :=
  String.join (fragments.map text)

/-- Fragments as the cut of a text. -/
structure Segmentation (whole : String) (fragments : List Fragment) : Prop where
  joined_eq : joined fragments = whole
  nonempty : ∀ f ∈ fragments, f.text ≠ ""
  /-- The bytes before a cut are those of some characters of the text. -/
  boundary : ∀ before behind, fragments = before ++ behind →
    Text.splitAt? (bytes (joined before)).length whole.toList = some ((joined before).toList, (joined behind).toList)
  /-- A statement is known by its first six bytes. -/
  lead : ∀ f ∈ fragments, f.isStatement ↔ ((bytes f.text).take 6).map upperByte = bytes "INSERT"
  candidate_or_gap : ∀ f behind, f :: behind <:+ fragments →
    IsCandidate f.text.toList ∧ f.isStatement ∨ IsGap f.text.toList (joined behind).toList
  gaps_apart : ∀ f g behind, f :: g :: behind <:+ fragments → IsCandidate f.text.toList ∨ IsCandidate g.text.toList

@[simp] theorem joined_nil : joined [] = "" := rfl

@[simp] theorem joined_cons (f : Fragment) (fragments : List Fragment) :
    joined (f :: fragments) = f.text ++ joined fragments :=
  String.join_cons

theorem joined_singleton (f : Fragment) : joined [f] = f.text := by
  rw [joined_cons, joined_nil, String.append_empty]

/-- Fragments behind others are joined behind them. -/
theorem joined_append (before behind : List Fragment) : joined (before ++ behind) = joined before ++ joined behind := by
  rw [joined, List.map_append, String.join_append]
  rfl

@[simp] theorem text_ofChars (cs : List Char) : (ofChars cs).text = String.ofList cs := by
  unfold ofChars
  split <;> rfl

/-- A cut piece is a statement if and only if it starts as one. -/
theorem isStatement_ofChars (cs : List Char) : (ofChars cs).isStatement = startsStatement cs := by
  unfold ofChars
  split
  next h => exact h.symm
  next h => exact (Bool.eq_false_iff.mpr h).symm

/-- What a fragment is follows from its text. -/
theorem eq_ofChars {f : Fragment} (h : f.isStatement ↔ startsStatement f.text.toList) : f = ofChars f.text.toList := by
  unfold ofChars
  cases f with
  | statement t => rw [if_pos (h.mp rfl), text, String.ofList_toList]
  | passthrough t => rw [if_neg fun hs => Bool.false_ne_true (h.mpr hs), text, String.ofList_toList]

/-- Whether a text starts as a statement is told by its first six bytes, in any case. -/
theorem startsStatement_iff (t : String) :
    startsStatement t.toList ↔ ((bytes t).take 6).map upperByte = bytes "INSERT" := by
  have hword : bytes "INSERT" = leadWord.map Char.toUInt8 := by
    rw [Text.bytes_eq]
    decide
  rw [startsStatement, isSome_afterWord?_iff (by decide), Text.bytes_eq t, hword]
  rfl

/-- Every candidate starts as a statement. -/
theorem startsStatement_of_isCandidate {cs : List Char} (h : IsCandidate cs) : startsStatement cs := by
  obtain ⟨w, c, body, rfl, hw, -⟩ := h
  rw [startsStatement, afterWord?_eq_some_iff.mpr ⟨w, rfl, hw⟩]
  rfl

/-! ## What the search cuts -/

/-- Where nothing is found, the text is one gap. -/
theorem splitChars_of_none {cs : List Char} (h : seek cs = none) : splitChars cs = ofGap cs := by
  rw [splitChars]
  split
  next => rfl
  next hsome =>
    rw [h] at hsome
    cases hsome

/-- Where a candidate is found, the text is the gap before it, the candidate and what is cut behind it. -/
theorem splitChars_of_some {cs gap found rest : List Char} (h : seek cs = some (gap, found, rest)) :
    splitChars cs = ofGap gap ++ ofChars found :: splitChars rest := by
  rw [splitChars]
  split
  next hnone =>
    rw [h] at hnone
    cases hnone
  next hsome =>
    rw [h] at hsome
    cases hsome
    rfl

/-- A gap that is not empty is one fragment. -/
theorem ofGap_of_ne {cs : List Char} (h : cs ≠ []) : ofGap cs = [ofChars cs] := by
  cases cs with
  | nil => exact absurd rfl h
  | cons c cs => rfl

/-- The cut of a text as the search makes it: a gap, which may be empty, before each candidate and at the end. -/
inductive Cut : List Char → List Fragment → Prop where
  | last {gap : List Char} : IsGap gap [] → Cut gap (ofGap gap)
  | next {gap found rest : List Char} {fragments : List Fragment} :
      IsGap gap (found ++ rest) → IsCandidate found → Cut rest fragments →
        Cut (gap ++ (found ++ rest)) (ofGap gap ++ ofChars found :: fragments)

/-- What the search cuts are the pieces of a cut. -/
theorem cut_splitChars (cs : List Char) : Cut cs (splitChars cs) := by
  fun_induction splitChars cs with
  | case1 cs hseek => exact .last (isGap_of_seek_eq_none hseek)
  | case2 cs gap found rest hseek _ ih =>
    obtain ⟨rfl, hgap, hfound⟩ := of_seek_eq_some hseek
    exact .next hgap hfound ih

theorem joined_ofGap (cs : List Char) : joined (ofGap cs) = String.ofList cs := by
  cases cs with
  | nil => rfl
  | cons c cs => simp [ofGap]

/-- The pieces of a cut are the text. -/
theorem Cut.joined_eq {cs : List Char} {fragments : List Fragment} (h : Cut cs fragments) :
    joined fragments = String.ofList cs := by
  induction h with
  | last _ => exact joined_ofGap _
  | next _ _ _ ih =>
    rw [joined_append, joined_ofGap, joined_cons, text_ofChars, ih, String.ofList_append, String.ofList_append]

/-- The fragments are classified by their texts, and none is empty. -/
theorem Cut.ofChars {cs : List Char} {fragments : List Fragment} (h : Cut cs fragments) :
    ∀ f ∈ fragments, ∃ piece, piece ≠ [] ∧ f = Fragment.ofChars piece := by
  have hofGap (gap : List Char) : ∀ f ∈ ofGap gap, ∃ piece, piece ≠ [] ∧ f = Fragment.ofChars piece := by
    intro f hf
    cases gap with
    | nil => cases hf
    | cons c gap => exact ⟨c :: gap, List.cons_ne_nil _ _, List.mem_singleton.mp hf⟩
  induction h with
  | last _ => exact hofGap _
  | next _ hfound _ ih =>
    intro f hf
    obtain hf | hf := List.mem_append.mp hf
    · exact hofGap _ f hf
    · obtain rfl | hf := List.mem_cons.mp hf
      · refine ⟨_, ?_, rfl⟩
        obtain ⟨w, c, body, rfl, -⟩ := hfound
        simp
      · exact ih f hf

/-- Each piece of a cut is a candidate, or a gap in front of what follows it. -/
theorem Cut.candidate_or_gap {cs : List Char} {fragments : List Fragment} (h : Cut cs fragments) :
    ∀ f behind, f :: behind <:+ fragments →
      IsCandidate f.text.toList ∨ IsGap f.text.toList (joined behind).toList := by
  induction h with
  | @last gap hgap =>
    intro f behind hsuffix
    by_cases hnil : gap = []
    · subst hnil
      cases List.suffix_nil.mp hsuffix
    · rw [ofGap_of_ne hnil] at hsuffix
      obtain heq | hsuffix := List.suffix_cons_iff.mp hsuffix
      · cases heq
        rw [text_ofChars, String.toList_ofList]
        exact .inr hgap
      · cases List.suffix_nil.mp hsuffix
  | @next gap found rest fragments hgap hfound hrest ih =>
    intro f behind hsuffix
    have htail (h : f :: behind <:+ Fragment.ofChars found :: fragments) :
        IsCandidate f.text.toList ∨ IsGap f.text.toList (joined behind).toList := by
      obtain heq | h := List.suffix_cons_iff.mp h
      · cases heq
        rw [text_ofChars, String.toList_ofList]
        exact .inl hfound
      · exact ih f behind h
    by_cases hnil : gap = []
    · subst hnil
      exact htail hsuffix
    · rw [ofGap_of_ne hnil, List.singleton_append] at hsuffix
      obtain heq | hsuffix := List.suffix_cons_iff.mp hsuffix
      · cases heq
        rw [joined_cons, text_ofChars, text_ofChars, hrest.joined_eq, String.toList_ofList, String.toList_append,
          String.toList_ofList, String.toList_ofList]
        exact .inr hgap
      · exact htail hsuffix

/-- Of two pieces side by side, one is a candidate. -/
theorem Cut.gaps_apart {cs : List Char} {fragments : List Fragment} (h : Cut cs fragments) :
    ∀ f g behind, f :: g :: behind <:+ fragments → IsCandidate f.text.toList ∨ IsCandidate g.text.toList := by
  induction h with
  | @last gap hgap =>
    intro f g behind hsuffix
    have hlength := hsuffix.length_le
    cases gap <;> simp [ofGap] at hlength
  | @next gap found rest fragments hgap hfound hrest ih =>
    intro f g behind hsuffix
    have hcandidate : IsCandidate (Fragment.ofChars found).text.toList := by
      rwa [text_ofChars, String.toList_ofList]
    have htail (h : f :: g :: behind <:+ Fragment.ofChars found :: fragments) :
        IsCandidate f.text.toList ∨ IsCandidate g.text.toList := by
      obtain heq | h := List.suffix_cons_iff.mp h
      · cases heq
        exact .inl hcandidate
      · exact ih f g behind h
    by_cases hnil : gap = []
    · subst hnil
      exact htail hsuffix
    · rw [ofGap_of_ne hnil] at hsuffix
      obtain heq | hsuffix := List.suffix_cons_iff.mp hsuffix
      · cases heq
        exact .inr hcandidate
      · exact htail hsuffix

/-- The pieces of a cut are a segmentation. -/
theorem Cut.segmentation {cs : List Char} {fragments : List Fragment} (h : Cut cs fragments) :
    Segmentation (String.ofList cs) fragments where
  joined_eq := h.joined_eq
  nonempty := by
    intro f hf
    obtain ⟨piece, hne, rfl⟩ := h.ofChars f hf
    rw [text_ofChars]
    exact fun heq => hne (String.ofList_eq_empty_iff.mp heq)
  boundary := by
    rintro before behind rfl
    rw [← Text.byteSize_toList, ← h.joined_eq, joined_append, String.toList_append]
    exact Text.splitAt?_byteSize _ _
  lead := by
    intro f hf
    obtain ⟨piece, -, rfl⟩ := h.ofChars f hf
    rw [isStatement_ofChars, ← startsStatement_iff, text_ofChars, String.toList_ofList]
  candidate_or_gap := by
    intro f behind hsuffix
    obtain hcandidate | hgap := h.candidate_or_gap f behind hsuffix
    · refine .inl ⟨hcandidate, ?_⟩
      obtain ⟨piece, -, rfl⟩ := h.ofChars f (hsuffix.mem List.mem_cons_self)
      rw [text_ofChars, String.toList_ofList] at hcandidate
      rw [isStatement_ofChars]
      exact startsStatement_of_isCandidate hcandidate
    · exact .inr hgap
  gaps_apart := h.gaps_apart

/-! ## There is no other cut -/

/-- Fragments that are classified by their texts, none of them empty, each a candidate or a gap and no two gaps
in a row, are what the search finds. -/
theorem eq_splitChars : ∀ fragments : List Fragment,
    (∀ f ∈ fragments, f.text.toList ≠ [] ∧ f = ofChars f.text.toList) →
    (∀ f behind, f :: behind <:+ fragments → IsCandidate f.text.toList ∨ IsGap f.text.toList (joined behind).toList) →
    (∀ f g behind, f :: g :: behind <:+ fragments → IsCandidate f.text.toList ∨ IsCandidate g.text.toList) →
    splitChars (joined fragments).toList = fragments
  | [], _, _, _ => by rw [splitChars_of_none (by rfl)]; rfl
  | f :: fragments, hclass, hshape, hapart => by
    obtain ⟨hne, hf⟩ := hclass f List.mem_cons_self
    rw [joined_cons, String.toList_append]
    obtain hcandidate | hgap := hshape f fragments List.suffix_rfl
    · have ih := eq_splitChars fragments (fun g hg => hclass g (List.mem_cons_of_mem _ hg))
        (fun g behind h => hshape g behind (h.trans (List.suffix_cons _ _)))
        (fun g g' behind h => hapart g g' behind (h.trans (List.suffix_cons _ _)))
      rw [splitChars_of_some (seek_isCandidate hcandidate _), ih, ← hf]
      rfl
    · cases fragments with
      | nil =>
        rw [joined_nil, String.toList_empty, List.append_nil, splitChars_of_none (seek_isGap hgap), ofGap_of_ne hne,
          ← hf]
      | cons g fragments =>
        rw [joined_cons, String.toList_append] at hgap ⊢
        -- a gap is followed by a candidate
        have hcandidate : IsCandidate g.text.toList := by
          obtain hcandidate | hcandidate := hapart f g fragments List.suffix_rfl
          · obtain ⟨w, c, body, heq, hw, -⟩ := hcandidate
            refine absurd ⟨w, c, body ++ ';' :: (g.text.toList ++ (joined fragments).toList), ?_, hw, by simp⟩
              (hgap f.text.toList List.suffix_rfl hne)
            rw [heq]
            simp
          · exact hcandidate
        have ih := eq_splitChars fragments
          (fun h hh => hclass h (List.mem_cons_of_mem _ (List.mem_cons_of_mem _ hh)))
          (fun h behind hs => hshape h behind (hs.trans ((List.suffix_cons _ _).trans (List.suffix_cons _ _))))
          (fun h h' behind hs => hapart h h' behind (hs.trans ((List.suffix_cons _ _).trans (List.suffix_cons _ _))))
        obtain ⟨-, hg⟩ := hclass g (List.mem_cons_of_mem _ List.mem_cons_self)
        rw [splitChars_of_some (seek_isGap_append hgap hcandidate), ih, ofGap_of_ne hne, ← hf, ← hg]
        rfl

/-- A text is cut in one way. -/
theorem Cut.splitChars_eq {cs : List Char} {fragments : List Fragment} (h : Cut cs fragments) :
    splitChars cs = fragments := by
  induction h with
  | last hgap => exact splitChars_of_none (seek_isGap hgap)
  | next hgap hfound _ ih => rw [splitChars_of_some (seek_isGap_append hgap hfound), ih]

/-- The fragments of a text are its one segmentation. -/
theorem segmentation_iff_split (whole : String) (fragments : List Fragment) :
    Segmentation whole fragments ↔ fragments = split whole := by
  constructor
  · intro h
    have hsplit := eq_splitChars fragments
      (fun f hf => ⟨fun heq => h.nonempty f hf (String.toList_eq_nil_iff.mp heq),
        eq_ofChars ((h.lead f hf).trans (startsStatement_iff f.text).symm)⟩)
      (fun f behind hsuffix => (h.candidate_or_gap f behind hsuffix).imp_left And.left) h.gaps_apart
    rw [h.joined_eq] at hsplit
    exact hsplit.symm
  · rintro rfl
    have h := (cut_splitChars whole.toList).segmentation
    rwa [String.ofList_toList] at h

end Fragment

end InsertPivot
