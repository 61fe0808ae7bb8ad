import Mathlib.Data.List.TakeWhile
import InsertPivot.Json

/-!
# JSON documents and their texts

`Json.Completes` says which documents a document with parts can become: the same in all but the parts, each of which
is encoded in view of its place. There is one such document, which `Json.complete` makes.

A document without parts has a text, and no other document has the same text (`pretty_injective`). Two texts are
compared from their first characters on. These tell the kinds of two values apart (`opens_pretty`), and what follows a
value shows where it ends: only a number could go on, so it has to be said that no digit follows (`Ends`).
-/

namespace InsertPivot.Json

variable {α : Type}

/-! ## Filling parts in -/

/-- Whether a document without parts is what a document with parts becomes, at a place, when its parts are encoded. -/
inductive Completes (encode : List Nat → α → Json Empty) : List Nat → Json α → Json Empty → Prop where
  | null {place : List Nat} : Completes encode place .null .null
  | boolean {place : List Nat} (value : Bool) : Completes encode place (.boolean value) (.boolean value)
  | number {place : List Nat} (value : Int) : Completes encode place (.number value) (.number value)
  | text {place : List Nat} (value : String) : Completes encode place (.text value) (.text value)
  | array {place : List Nat} {elements : List (Json α)} {filled : List (Json Empty)} :
      filled.length = elements.length →
      (∀ n element found, elements[n]? = some element → filled[n]? = some found →
        Completes encode (place ++ [n]) element found) →
      Completes encode place (.array elements) (.array filled)
  | object {place : List Nat} {members : List (String × Json α)} {filled : List (String × Json Empty)} :
      filled.map Prod.fst = members.map Prod.fst →
      (∀ n member found, members[n]? = some member → filled[n]? = some found →
        Completes encode (place ++ [n]) member.2 found.2) →
      Completes encode place (.object members) (.object filled)
  | part {place : List Nat} (found : α) : Completes encode place (.part found) (encode place found)

section Complete

variable {encode : List Nat → α → Json Empty} {place : List Nat}

/-- A list keeps its length. -/
theorem length_completeElements (number : Nat) (elements : List (Json α)) :
    (completeElements encode place number elements).length = elements.length := by
  induction elements generalizing number with
  | nil => rfl
  | cons element rest ih => simp only [completeElements, List.length_cons, ih]

/-- Each value of a list is completed at its own place. -/
theorem getElem?_completeElements (number n : Nat) (elements : List (Json α)) :
    (completeElements encode place number elements)[n]? =
      elements[n]?.map (complete encode (place ++ [number + n])) := by
  induction elements generalizing number n with
  | nil => rfl
  | cons element rest ih =>
    cases n with
    | zero => rfl
    | succ n =>
      simp only [completeElements, List.getElem?_cons_succ, ih]
      rw [Nat.add_right_comm, Nat.add_assoc]

/-- The names of members do not depend on what is filled in. -/
theorem names_completeMembers (number : Nat) (members : List (String × Json α)) :
    (completeMembers encode place number members).map Prod.fst = members.map Prod.fst := by
  induction members generalizing number with
  | nil => rfl
  | cons member rest ih => simp only [completeMembers, List.map_cons, ih]

/-- The value of each member is completed at its own place. -/
theorem getElem?_completeMembers (number n : Nat) (members : List (String × Json α)) :
    (completeMembers encode place number members)[n]? =
      members[n]?.map fun member => (member.1, complete encode (place ++ [number + n]) member.2) := by
  induction members generalizing number n with
  | nil => rfl
  | cons member rest ih =>
    cases n with
    | zero => rfl
    | succ n =>
      simp only [completeMembers, List.getElem?_cons_succ, ih]
      rw [Nat.add_right_comm, Nat.add_assoc]

mutual

/-- Filling in completes a draft: nothing but the parts is touched, and each of them is encoded. -/
theorem completes_complete : ∀ (place : List Nat) (draft : Json α), Completes encode place draft (complete encode place draft)
  | _, .null => .null
  | _, .boolean value => .boolean value
  | _, .number value => .number value
  | _, .text value => .text value
  | place, .array elements => by
    refine .array (length_completeElements 0 elements) fun n element found helement hfound => ?_
    rw [getElem?_completeElements, helement, Nat.zero_add] at hfound
    cases hfound
    exact completes_completeElements _ elements element (List.mem_of_getElem? helement)
  | place, .object members => by
    refine .object (names_completeMembers 0 members) fun n member found hmember hfound => ?_
    rw [getElem?_completeMembers, hmember, Nat.zero_add] at hfound
    cases hfound
    exact completes_completeMembers _ members member (List.mem_of_getElem? hmember)
  | _, .part found => .part found
termination_by structural _ draft => draft

/-- Filling in completes each value of a list. -/
theorem completes_completeElements : ∀ (place : List Nat) (elements : List (Json α)),
    ∀ element ∈ elements, Completes encode place element (complete encode place element)
  | place, first :: rest, element, hmem => by
    rcases List.mem_cons.mp hmem with heq | hmem
    · rw [heq]
      exact completes_complete place first
    · exact completes_completeElements place rest element hmem
termination_by structural _ elements => elements

/-- Filling in completes the value of each member. -/
theorem completes_completeMembers : ∀ (place : List Nat) (members : List (String × Json α)),
    ∀ member ∈ members, Completes encode place member.2 (complete encode place member.2)
  | place, (_, value) :: rest, member, hmem => by
    rcases List.mem_cons.mp hmem with heq | hmem
    · rw [heq]
      exact completes_complete place value
    · exact completes_completeMembers place rest member hmem
termination_by structural _ members => members

end

end Complete

/-! ## Characters of a text -/

section Text

variable {r s : List Char}

/-- The first character of a text in quotes, and what stands behind it. -/
def unescape : List Char → Option (Char × List Char)
  | '\\' :: 'u' :: '0' :: '0' :: high :: low :: rest =>
    ((List.range 0x20).find? fun n => hexDigit (n / 16) = high && hexDigit (n % 16) = low).map fun n => (Char.ofNat n, rest)
  | '\\' :: c :: rest =>
    ([('n', '\n'), ('r', '\r'), ('t', '\t'), ('b', '\x08'), ('f', '\x0c')].lookup c).map (·, rest) <|> some (c, rest)
  | c :: rest => some (c, rest)
  | [] => none

/-- A character that was written is read back, whatever follows it. -/
theorem unescape_escapeChar (c : Char) (r : List Char) : unescape (escapeChar c ++ r) = some (c, r) := by
  unfold escapeChar
  split
  case h_8 hquote hbackslash hnewline hreturn htab hbackspace hfeed =>
    split
    next hcontrol =>
      have hfind : ∀ m < 0x20, ((List.range 0x20).find? fun n =>
          hexDigit (n / 16) = hexDigit (m / 16) && hexDigit (n % 16) = hexDigit (m % 16)) = some m := by
        decide
      simp only [List.cons_append, List.nil_append, unescape]
      rw [hfind c.toNat hcontrol, Option.map_some, Char.ofNat_toNat]
    next =>
      rw [List.singleton_append, unescape]
      · exact fun _ _ _ h _ => hbackslash h
      · exact fun _ _ h _ => hbackslash h
  all_goals rfl

/-- No character is written so that it starts with a quote, which therefore ends a text. -/
theorem escapeChar_ne_quote (c : Char) (r : List Char) : escapeChar c ++ r ≠ '\x22' :: s := by
  intro h
  have hc := unescape_escapeChar c r
  rw [h] at hc
  cases hc
  cases h

/-- Escaped characters up to a quote are those of one text. -/
theorem escaped_append_inj {cs ds : List Char}
    (h : cs.flatMap escapeChar ++ '\x22' :: r = ds.flatMap escapeChar ++ '\x22' :: s) : cs = ds ∧ r = s := by
  induction cs generalizing ds with
  | nil =>
    cases ds with
    | nil => exact ⟨rfl, (List.cons.inj h).2⟩
    | cons d ds =>
      rw [List.flatMap_cons, List.append_assoc] at h
      exact absurd h.symm (escapeChar_ne_quote d _)
  | cons c cs ih =>
    cases ds with
    | nil =>
      rw [List.flatMap_cons, List.append_assoc] at h
      exact absurd h (escapeChar_ne_quote c _)
    | cons d ds =>
      rw [List.flatMap_cons, List.append_assoc, List.flatMap_cons, List.append_assoc] at h
      have hfirst := congrArg unescape h
      rw [unescape_escapeChar, unescape_escapeChar, Option.some.injEq, Prod.mk.injEq] at hfirst
      obtain ⟨rfl, hrest⟩ := hfirst
      obtain ⟨rfl, hrs⟩ := ih hrest
      exact ⟨rfl, hrs⟩

/-- A text is written as its characters, each for itself, between two quotes. -/
theorem toList_quote (value : String) :
    (quote value).toList = '\x22' :: (value.toList.flatMap escapeChar ++ ['\x22']) := by
  simp [quote]

/-- Where two texts with something behind them are written alike, they are the same text with the same behind it. -/
theorem quote_append_inj {v w : String} (h : (quote v).toList ++ r = (quote w).toList ++ s) : v = w ∧ r = s := by
  simp only [toList_quote, List.cons_append, List.append_assoc, List.nil_append, List.cons.injEq, true_and] at h
  obtain ⟨hvw, hrs⟩ := escaped_append_inj h
  exact ⟨String.toList_inj.mp hvw, hrs⟩

/-! ## Numbers -/

/-- Whether a number may end here: no digit follows. -/
def Ends (r : List Char) : Prop :=
  ∀ c ∈ r.head?, ¬ c.isDigit

/-- The digits of a number end where the number ends. -/
theorem takeWhile_digits (n : Nat) (hr : Ends r) :
    (Nat.toDigits 10 n ++ r).takeWhile Char.isDigit = Nat.toDigits 10 n := by
  have hdigits : ∀ c ∈ Nat.toDigits 10 n, c.isDigit :=
    fun c hc => Nat.isDigit_of_mem_toDigits (by decide) (by decide) hc
  have hnone : r.takeWhile Char.isDigit = [] := by
    cases r with
    | nil => rfl
    | cons c r => rw [List.takeWhile_cons_of_neg (hr c rfl)]
  rw [List.takeWhile_append_of_pos hdigits, hnone, List.append_nil]

/-- Where two whole numbers are written alike, they are the same number with the same behind it. -/
theorem digits_append_inj {m n : Nat} (hr : Ends r) (hs : Ends s)
    (h : Nat.toDigits 10 m ++ r = Nat.toDigits 10 n ++ s) : m = n ∧ r = s := by
  have hdigits := congrArg (List.takeWhile Char.isDigit) h
  rw [takeWhile_digits m hr, takeWhile_digits n hs] at hdigits
  refine ⟨?_, List.append_cancel_left (hdigits ▸ h)⟩
  rw [← Nat.ofDigitChars_ten_toDigits (n := m), hdigits, Nat.ofDigitChars_ten_toDigits]

/-- The first digit of a number is no sign. -/
theorem digits_append_ne (n : Nat) (r : List Char) {c : Char} (hc : ¬ c.isDigit) : Nat.toDigits 10 n ++ r ≠ c :: s := by
  intro h
  cases hdigits : Nat.toDigits 10 n with
  | nil => exact Nat.toDigits_ne_nil hdigits
  | cons d ds =>
    rw [hdigits] at h
    obtain ⟨rfl, -⟩ := List.cons.inj h
    exact hc (Nat.isDigit_of_mem_toDigits (by decide) (by decide) (hdigits ▸ List.mem_cons_self))

theorem toList_ofNat (n : Nat) : (toString (Int.ofNat n)).toList = Nat.toDigits 10 n := by
  rw [Int.toString_eq_repr, Int.repr, Nat.toList_repr]

theorem toList_negSucc (n : Nat) : (toString (Int.negSucc n)).toList = '-' :: Nat.toDigits 10 (n + 1) := by
  rw [Int.toString_eq_repr, Int.repr, String.toList_append, Nat.toList_repr]
  rfl

/-- Where two numbers are written alike, they are the same number with the same behind it. -/
theorem number_append_inj {m n : Int} (hr : Ends r) (hs : Ends s)
    (h : (toString m).toList ++ r = (toString n).toList ++ s) : m = n ∧ r = s := by
  have hsign : ¬ '-'.isDigit := by decide
  cases m with
  | ofNat m =>
    cases n with
    | ofNat n =>
      rw [toList_ofNat, toList_ofNat] at h
      obtain ⟨rfl, hrs⟩ := digits_append_inj hr hs h
      exact ⟨rfl, hrs⟩
    | negSucc n =>
      rw [toList_ofNat, toList_negSucc] at h
      exact absurd h (digits_append_ne m r hsign)
  | negSucc m =>
    cases n with
    | ofNat n =>
      rw [toList_ofNat, toList_negSucc] at h
      exact absurd h.symm (digits_append_ne n s hsign)
    | negSucc n =>
      rw [toList_negSucc, toList_negSucc] at h
      obtain ⟨hmn, hrs⟩ := digits_append_inj hr hs (List.cons.inj h).2
      exact ⟨by rw [Nat.succ.inj hmn], hrs⟩

/-! ## Lines between brackets -/

/-- What stands behind the first of several lines between brackets. -/
def behind (level : Nat) (closing : Char) (lines : List String) : List Char :=
  lines.flatMap (fun line => ',' :: ((newline (level + 1)).toList ++ line.toList)) ++ (newline level).toList ++ [closing]

/-- A line starts with two blanks for each level. -/
theorem toList_newline (level : Nat) : (newline level).toList = '\n' :: List.replicate (2 * level) ' ' :=
  String.toList_ofList

variable {level : Nat} {opening closing : Char}

/-- Behind the last line stands the closing bracket, on a line of its own. -/
theorem behind_nil_append :
    behind level closing [] ++ r = '\n' :: (List.replicate (2 * level) ' ' ++ closing :: r) := by
  simp [behind, toList_newline]

/-- Behind a line that is not the last stand a comma and the next one. -/
theorem behind_cons_append (line : String) (lines : List String) :
    behind level closing (line :: lines) ++ r =
      ',' :: ((newline (level + 1)).toList ++ (line.toList ++ (behind level closing lines ++ r))) := by
  simp [behind]

/-- A value may end where a line does. -/
theorem ends_behind (lines : List String) : Ends (behind level closing lines ++ r) := by
  cases lines with
  | nil =>
    rw [behind_nil_append]
    rintro c ⟨⟩
    decide
  | cons line lines =>
    rw [behind_cons_append]
    rintro c ⟨⟩
    decide

/-- Lines with commas between them, told from the first one. -/
theorem toList_intercalate (line : String) (lines : List String) :
    (("," ++ newline (level + 1)).intercalate (line :: lines)).toList =
      line.toList ++ lines.flatMap fun line => ',' :: ((newline (level + 1)).toList ++ line.toList) := by
  induction lines generalizing line with
  | nil => simp [String.intercalate_singleton]
  | cons next lines ih =>
    rw [String.intercalate_cons_cons, String.toList_append, String.toList_append, ih next]
    simp

/-- Brackets with nothing in them stand side by side. -/
theorem bracketed_nil_append :
    (bracketed (.singleton opening) (.singleton closing) level []).toList ++ r = opening :: closing :: r := by
  simp [bracketed]

/-- Behind the opening bracket stands the first line. -/
theorem bracketed_cons_append (line : String) (lines : List String) :
    (bracketed (.singleton opening) (.singleton closing) level (line :: lines)).toList ++ r =
      opening :: ((newline (level + 1)).toList ++ (line.toList ++ (behind level closing lines ++ r))) := by
  simp only [bracketed, String.toList_append, toList_intercalate, behind, String.toList_singleton, List.append_assoc,
    List.cons_append, List.nil_append]

/-- Whether the text of an item shows which item it is and where it ends. -/
def Told {ι : Type} (write : ι → String) (a : ι) : Prop :=
  ∀ (b : ι) (r s : List Char), Ends r → Ends s → (write a).toList ++ r = (write b).toList ++ s → a = b ∧ r = s

variable {ι : Type} {write : ι → String} {as bs : List ι}

/-- Lists of lines are told by what is written, if each of their lines is. -/
theorem behind_append_inj (hwrite : ∀ a ∈ as, Told write a)
    (h : behind level closing (as.map write) ++ r = behind level closing (bs.map write) ++ s) :
    as = bs ∧ r = s := by
  induction as generalizing bs with
  | nil =>
    cases bs with
    | nil => exact ⟨rfl, List.append_cancel_left h⟩
    | cons b bs =>
      rw [List.map_nil, List.map_cons, behind_nil_append, behind_cons_append] at h
      cases h
  | cons a as ih =>
    cases bs with
    | nil =>
      rw [List.map_nil, List.map_cons, behind_nil_append, behind_cons_append] at h
      cases h
    | cons b bs =>
      rw [List.map_cons, List.map_cons, behind_cons_append, behind_cons_append] at h
      obtain ⟨rfl, hrest⟩ := hwrite a List.mem_cons_self b _ _ (ends_behind _) (ends_behind _)
        (List.append_cancel_left (List.cons.inj h).2)
      obtain ⟨rfl, hrs⟩ := ih (fun a ha => hwrite a (List.mem_cons_of_mem _ ha)) hrest
      exact ⟨rfl, hrs⟩

/-- The lines between brackets are those of one list of items. -/
theorem bracketed_append_inj (hwrite : ∀ a ∈ as, Told write a) (hclosing : closing ≠ '\n')
    (h : (bracketed (.singleton opening) (.singleton closing) level (as.map write)).toList ++ r =
      (bracketed (.singleton opening) (.singleton closing) level (bs.map write)).toList ++ s) : as = bs ∧ r = s := by
  cases as with
  | nil =>
    cases bs with
    | nil => exact ⟨rfl, List.append_cancel_left h⟩
    | cons b bs =>
      rw [List.map_nil, List.map_cons, bracketed_nil_append, bracketed_cons_append, toList_newline] at h
      exact absurd (List.cons.inj (List.cons.inj h).2).1 hclosing
  | cons a as =>
    cases bs with
    | nil =>
      rw [List.map_nil, List.map_cons, bracketed_nil_append, bracketed_cons_append, toList_newline] at h
      exact absurd (List.cons.inj (List.cons.inj h).2).1.symm hclosing
    | cons b bs =>
      rw [List.map_cons, List.map_cons, bracketed_cons_append, bracketed_cons_append] at h
      obtain ⟨rfl, hrest⟩ := hwrite a List.mem_cons_self b _ _ (ends_behind _) (ends_behind _)
        (List.append_cancel_left (List.cons.inj h).2)
      obtain ⟨rfl, hrs⟩ := behind_append_inj (fun a ha => hwrite a (List.mem_cons_of_mem _ ha)) hrest
      exact ⟨rfl, hrs⟩

end Text

/-! ## Documents -/

/-- Which kind of value starts with a character. -/
def kindOf : Char → Nat
  | 'n' => 0
  | 't' | 'f' => 1
  | '\x22' => 3
  | '[' => 4
  | '\x7b' => 5
  | _ => 2

/-- A digit starts a number. -/
theorem kindOf_digit {c : Char} (hc : c.isDigit) : kindOf c = 2 := by
  unfold kindOf
  split <;> first | rfl | cases hc

/-- The text of a member of an object. -/
def memberText (level : Nat) (member : String × Json Empty) : String :=
  quote member.1 ++ ": " ++ pretty level member.2

/-- The values of a list are written each for itself. -/
theorem prettyElements_eq_map (level : Nat) (elements : List (Json Empty)) :
    prettyElements level elements = elements.map (pretty level) := by
  induction elements with
  | nil => rfl
  | cons element rest ih => rw [prettyElements, ih, List.map_cons]

/-- The members of an object are written each for itself. -/
theorem prettyMembers_eq_map (level : Nat) (members : List (String × Json Empty)) :
    prettyMembers level members = members.map (memberText level) := by
  induction members with
  | nil => rfl
  | cons member rest ih => rw [prettyMembers, ih, List.map_cons, memberText]

theorem pretty_array (level : Nat) (elements : List (Json Empty)) :
    pretty level (array elements) =
      bracketed (.singleton '[') (.singleton ']') level (elements.map (pretty (level + 1))) := by
  rw [pretty, prettyElements_eq_map]
  rfl

theorem pretty_object (level : Nat) (members : List (String × Json Empty)) :
    pretty level (object members) =
      bracketed (.singleton '\x7b') (.singleton '\x7d') level (members.map (memberText (level + 1))) := by
  rw [pretty, prettyMembers_eq_map]
  rfl

/-- What stands in brackets starts with the opening one. -/
theorem opens_bracketed (opening closing : Char) (level : Nat) (lines : List String) :
    ∃ cs, (bracketed (.singleton opening) (.singleton closing) level lines).toList = opening :: cs := by
  rw [← List.append_nil (String.toList _)]
  cases lines with
  | nil => exact ⟨_, bracketed_nil_append⟩
  | cons line lines => exact ⟨_, bracketed_cons_append line lines⟩

/-- A number starts with a digit or a minus sign. -/
theorem opens_number (n : Int) : ∃ c cs, (toString n).toList = c :: cs ∧ kindOf c = 2 := by
  cases n with
  | ofNat n =>
    rw [toList_ofNat]
    obtain ⟨c, cs, hdigits⟩ := List.exists_cons_of_ne_nil (Nat.toDigits_ne_nil (n := n) (b := 10))
    have hc : c ∈ Nat.toDigits 10 n := hdigits ▸ List.mem_cons_self
    exact ⟨c, cs, hdigits, kindOf_digit (Nat.isDigit_of_mem_toDigits (by decide) (by decide) hc)⟩
  | negSucc n => exact ⟨_, _, toList_negSucc n, rfl⟩

/-- The text of a value starts with a character of its kind. -/
theorem opens_pretty (level : Nat) (document : Json Empty) :
    ∃ c cs, (pretty level document).toList = c :: cs ∧ kindOf c = document.ctorIdx := by
  cases document with
  | null => exact ⟨'n', ['u', 'l', 'l'], by rw [pretty]; rfl, rfl⟩
  | boolean value =>
    cases value with
    | false => exact ⟨'f', ['a', 'l', 's', 'e'], by rw [pretty]; rfl, rfl⟩
    | true => exact ⟨'t', ['r', 'u', 'e'], by rw [pretty]; rfl, rfl⟩
  | number value =>
    rw [pretty]
    exact opens_number value
  | text value => exact ⟨'\x22', _, by rw [pretty, toList_quote], rfl⟩
  | array elements =>
    obtain ⟨cs, h⟩ := opens_bracketed '[' ']' level (elements.map (pretty (level + 1)))
    exact ⟨'[', cs, by rw [pretty_array, h], rfl⟩
  | object members =>
    obtain ⟨cs, h⟩ := opens_bracketed '\x7b' '\x7d' level (members.map (memberText (level + 1)))
    exact ⟨'\x7b', cs, by rw [pretty_object, h], rfl⟩
  | part found => exact found.elim

/-- `true` and `false` are told apart by their first letters. -/
theorem boolean_append_inj {v w : Bool} {r s : List Char}
    (h : (if v then "true" else "false").toList ++ r = (if w then "true" else "false").toList ++ s) : v = w ∧
    r = s := by
  cases v <;> cases w <;> simp_all

/-- Values with one text are of one kind. -/
theorem ctorIdx_eq_of_pretty {level : Nat} {a b : Json Empty} {r s : List Char}
    (h : (pretty level a).toList ++ r = (pretty level b).toList ++ s) : a.ctorIdx = b.ctorIdx := by
  obtain ⟨c, cs, ha, hc⟩ := opens_pretty level a
  obtain ⟨d, ds, hb, hd⟩ := opens_pretty level b
  rw [ha, hb, List.cons_append, List.cons_append] at h
  rw [← hc, ← hd, (List.cons.inj h).1]

mutual

/-- The text of a value shows which value it is and where it ends. -/
theorem told_pretty : ∀ (document : Json Empty) (level : Nat), Told (pretty level) document
  -- what a value starts with tells its kind, so that each kind is compared with itself alone
  | .null, level, b, r, s, hr, hs, h => by
    have hkind := ctorIdx_eq_of_pretty h
    cases b <;> cases hkind
    exact ⟨rfl, List.append_cancel_left h⟩
  | .boolean value, level, b, r, s, hr, hs, h => by
    have hkind := ctorIdx_eq_of_pretty h
    cases b <;> cases hkind
    rw [pretty, pretty] at h
    obtain ⟨rfl, hrs⟩ := boolean_append_inj h
    exact ⟨rfl, hrs⟩
  | .number value, level, b, r, s, hr, hs, h => by
    have hkind := ctorIdx_eq_of_pretty h
    cases b <;> cases hkind
    rw [pretty, pretty] at h
    obtain ⟨rfl, hrs⟩ := number_append_inj hr hs h
    exact ⟨rfl, hrs⟩
  | .text value, level, b, r, s, hr, hs, h => by
    have hkind := ctorIdx_eq_of_pretty h
    cases b <;> cases hkind
    rw [pretty, pretty] at h
    obtain ⟨rfl, hrs⟩ := quote_append_inj h
    exact ⟨rfl, hrs⟩
  | .array elements, level, b, r, s, hr, hs, h => by
    have hkind := ctorIdx_eq_of_pretty h
    cases b <;> cases hkind
    rw [pretty_array, pretty_array] at h
    obtain ⟨rfl, hrs⟩ := bracketed_append_inj (told_elements elements (level + 1)) (by decide) h
    exact ⟨rfl, hrs⟩
  | .object members, level, b, r, s, hr, hs, h => by
    have hkind := ctorIdx_eq_of_pretty h
    cases b <;> cases hkind
    rw [pretty_object, pretty_object] at h
    obtain ⟨rfl, hrs⟩ := bracketed_append_inj (told_members members (level + 1)) (by decide) h
    exact ⟨rfl, hrs⟩

/-- Each value of a list is told by its text. -/
theorem told_elements : ∀ (elements : List (Json Empty)) (level : Nat),
    ∀ element ∈ elements, Told (pretty level) element
  | first :: rest, level, element, hmem => by
    rcases List.mem_cons.mp hmem with heq | hmem
    · rw [heq]
      exact told_pretty first level
    · exact told_elements rest level element hmem

/-- Each member of an object is told by its line. -/
theorem told_members : ∀ (members : List (String × Json Empty)) (level : Nat),
    ∀ member ∈ members, Told (memberText level) member
  | (name, value) :: rest, level, member, hmem => by
    rcases List.mem_cons.mp hmem with heq | hmem
    · rw [heq]
      intro other r s hr hs h
      simp only [memberText, String.toList_append, List.append_assoc] at h
      obtain ⟨hname, h⟩ := quote_append_inj h
      obtain ⟨hvalue, hrs⟩ := told_pretty value level other.2 r s hr hs (List.append_cancel_left h)
      exact ⟨Prod.ext hname hvalue, hrs⟩
    · exact told_members rest level member hmem

end

end InsertPivot.Json
