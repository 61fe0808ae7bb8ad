import Mathlib.Data.List.Count
import InsertPivot.Proofs.Quoting

/-!
# Strings side by side

Strings that stand side by side are joined into one of the first one's kind: their bodies are put one behind the
other and written between the quotes of the first, with a quote doubled where it would end the string. Whether
the result denotes what the strings denote depends on the quotes in it.

A quote of the first kind may stand alone in a string of the other kind. It is doubled where it is written, and
then denotes itself, unless it stands beside another such quote or where a backslash was written just before:
there it is taken for one half of a pair, or for a quote that needs no other. A doubled quote of the other kind
denotes one quote where it was read and two where it is written. `Seamless` says that none of this happens.
-/

namespace InsertPivot.Sql

/-! ## What a body denotes -/

/-- What a character behind a backslash denotes, with the backslash. -/
def unescaped : Char → List Char
  | '0' => ['\x00']
  | 'b' => ['\x08']
  | 'n' => ['\n']
  | 'r' => ['\r']
  | 't' => ['\t']
  | 'Z' => ['\x1a']
  | '%' => ['\\', '%']
  | '_' => ['\\', '_']
  | c => [c]

/-- What a body between such quotes denotes: a doubled quote is one quote, and a character behind a backslash what
it stands for. Nothing, where the quotes end before the body does, or not with it. -/
def denoted? (quote : Char) : List Char → Option (List Char)
  | [] => some []
  | c :: cs =>
    if c = quote then
      match cs with
      | d :: ds => if d = quote then (denoted? quote ds).map (c :: ·) else none
      | [] => none
    else if c = '\\' then
      match cs with
      | d :: ds => (denoted? quote ds).map (unescaped d ++ ·)
      | [] => none
    else (denoted? quote cs).map (c :: ·)

/-- What a part of a body between such quotes denotes. -/
def Part.denoted (quote : Char) : Part → List Char
  | plain c => [c]
  | doubled => [quote]
  | escaped c => unescaped c

variable {quote : Char}

@[simp] theorem denoted?_nil : denoted? quote [] = some [] := rfl

/-- A plain character denotes itself. -/
theorem denoted?_plain {c : Char} (hquote : c ≠ quote) (hslash : c ≠ '\\') (cs : List Char) :
    denoted? quote (c :: cs) = (denoted? quote cs).map (c :: ·) := by
  rw [denoted?.eq_def]
  simp only [if_neg hquote, if_neg hslash]

/-- Two quotes denote one. -/
theorem denoted?_pair (cs : List Char) :
    denoted? quote (quote :: quote :: cs) = (denoted? quote cs).map (quote :: ·) := by
  simp [denoted?]

/-- A quote alone denotes nothing. -/
theorem denoted?_lone {cs : List Char} (h : cs.head? ≠ some quote) : denoted? quote (quote :: cs) = none := by
  cases cs with
  | nil => simp [denoted?]
  | cons d cs =>
    have hne : d ≠ quote := fun heq => h (congrArg some heq)
    simp [denoted?, hne]

/-- Behind a backslash a character denotes what the language says. -/
theorem denoted?_escaped (hquote : quote ≠ '\\') (c : Char) (cs : List Char) :
    denoted? quote ('\\' :: c :: cs) = (denoted? quote cs).map (unescaped c ++ ·) := by
  simp [denoted?, hquote.symm]

/-- A body denotes what its parts denote. -/
theorem denoted?_bodyOf (hquote : quote ≠ '\\') {parts : List Part} (h : ∀ part ∈ parts, part.Fits quote true) :
    denoted? quote (bodyOf quote parts) = some (parts.flatMap (Part.denoted quote)) := by
  induction parts with
  | nil => rfl
  | cons part parts ih =>
    obtain ⟨hpart, hparts⟩ := List.forall_mem_cons.mp h
    rw [bodyOf_cons, List.flatMap_cons]
    cases part with
    | plain c =>
      obtain ⟨hne, hslash⟩ := hpart
      have hslash : c ≠ '\\' := by simpa using hslash
      simp [Part.chars, denoted?_plain hne hslash, ih hparts, Part.denoted]
    | doubled => simp [Part.chars, denoted?_pair, ih hparts, Part.denoted]
    | escaped c => simp [Part.chars, denoted?_escaped hquote, ih hparts, Part.denoted]

/-- Where a body denotes something, it is a row of parts. -/
theorem exists_parts_of_denoted? {cs s : List Char} (h : denoted? quote cs = some s) :
    ∃ parts : List Part, (∀ part ∈ parts, part.Fits quote true) ∧ cs = bodyOf quote parts := by
  have hcons (part : Part) (hpart : part.Fits quote true) {cs : List Char}
      (hcs : ∃ parts : List Part, (∀ part ∈ parts, part.Fits quote true) ∧ cs = bodyOf quote parts) :
      ∃ parts : List Part, (∀ part ∈ parts, part.Fits quote true) ∧ part.chars quote ++ cs = bodyOf quote parts := by
    obtain ⟨parts, hparts, rfl⟩ := hcs
    exact ⟨part :: parts, List.forall_mem_cons.mpr ⟨hpart, hparts⟩, rfl⟩
  fun_induction denoted? quote cs generalizing s with
  | case1 => exact ⟨[], by simp, rfl⟩
  | case2 ds ih =>
    obtain ⟨s', hs', -⟩ := Option.map_eq_some_iff.mp h
    exact hcons .doubled trivial (ih hs')
  | case3 => cases h
  | case4 => cases h
  | case5 d ds hne ih =>
    obtain ⟨s', hs', -⟩ := Option.map_eq_some_iff.mp h
    exact hcons (.escaped d) rfl (ih hs')
  | case6 => cases h
  | case7 c cs hne hslash ih =>
    obtain ⟨s', hs', -⟩ := Option.map_eq_some_iff.mp h
    exact hcons (.plain c) ⟨hne, by simpa using hslash⟩ (ih hs')

/-- The parts that a body between such quotes is a row of, if it is one. -/
def partsOf (quote : Char) : List Char → List Part
  | [] => []
  | [c] => [.plain c]
  | c :: d :: cs =>
    if c = '\\' then .escaped d :: partsOf quote cs
    else if c = quote ∧ d = quote then .doubled :: partsOf quote cs
    else .plain c :: partsOf quote (d :: cs)

/-- The parts of a body can be told from it. -/
theorem partsOf_bodyOf (hquote : quote ≠ '\\') {parts : List Part} (h : ∀ part ∈ parts, part.Fits quote true) :
    partsOf quote (bodyOf quote parts) = parts := by
  induction parts with
  | nil => rfl
  | cons part parts ih =>
    obtain ⟨hpart, hparts⟩ := List.forall_mem_cons.mp h
    rw [bodyOf_cons]
    cases part with
    | plain c =>
      obtain ⟨hne, hslash⟩ := hpart
      have hslash : c ≠ '\\' := by simpa using hslash
      have hrest := ih hparts
      cases hbody : bodyOf quote parts with
      | nil =>
        rw [hbody] at hrest
        rw [← hrest]
        rfl
      | cons d ds =>
        rw [hbody] at hrest
        simp [Part.chars, partsOf, hslash, hne, hrest]
    | doubled => simp [Part.chars, partsOf, hquote, ih hparts]
    | escaped c => simp [Part.chars, partsOf, ih hparts]

/-! ## A joined body as it is written -/

/-- What is denoted by a body that is written between such quotes, where the text before it ends with a backslash
or not. -/
def rewritten? (quote : Char) (escaped : Bool) (cs : List Char) : Option (List Char) :=
  denoted? quote (escapeFrom quote escaped cs)

@[simp] theorem rewritten?_nil (escaped : Bool) : rewritten? quote escaped [] = some [] := rfl

/-- A plain character is written as it stands and denotes itself. -/
theorem rewritten?_plain {c : Char} (hquote : c ≠ quote) (hslash : c ≠ '\\') (escaped : Bool) (cs : List Char) :
    rewritten? quote escaped (c :: cs) = (rewritten? quote false cs).map (c :: ·) := by
  rw [rewritten?, escapeFrom_of_ne hquote, denoted?_plain hquote hslash, decide_eq_false hslash, rewritten?]

/-- Two quotes are written as they stand and denote one. -/
theorem rewritten?_pair (escaped : Bool) (cs : List Char) :
    rewritten? quote escaped (quote :: quote :: cs) = (rewritten? quote escaped cs).map (quote :: ·) := by
  cases escaped with
  | true => rw [rewritten?, escapeFrom_escaped, escapeFrom_escaped, denoted?_pair, rewritten?]
  | false => rw [rewritten?, escapeFrom_pair, denoted?_pair, rewritten?]

/-- An escape is written as it stands and denotes what it did. Behind an escaped quote or backslash the next quote
is taken for an escaped one. -/
theorem rewritten?_escaped (hquote : quote ≠ '\\') (escaped : Bool) (c : Char) (cs : List Char) :
    rewritten? quote escaped ('\\' :: c :: cs) =
      (rewritten? quote (decide (c = quote ∨ c = '\\')) cs).map (unescaped c ++ ·) := by
  rw [rewritten?, escapeFrom_of_ne hquote.symm]
  by_cases hc : c = quote
  · subst hc
    simp [escapeFrom_escaped, denoted?_escaped hquote, rewritten?]
  · simp [escapeFrom_of_ne hc, denoted?_escaped hquote, hc, rewritten?]

/-- A lone quote is doubled. -/
theorem rewritten?_lone {cs : List Char} (h : cs.head? ≠ some quote) :
    rewritten? quote false (quote :: cs) = (rewritten? quote false cs).map (quote :: ·) := by
  rw [rewritten?, escapeFrom_lone h, denoted?_pair, rewritten?]

/-- To escape quotes makes none at the start. -/
theorem head?_escapeFrom {cs : List Char} (h : cs.head? ≠ some quote) (escaped : Bool) :
    (escapeFrom quote escaped cs).head? ≠ some quote := by
  cases cs with
  | nil => simp [escapeFrom]
  | cons c cs =>
    have hne : c ≠ quote := fun heq => h (congrArg some heq)
    simpa [escapeFrom_of_ne hne] using hne

/-- A lone quote behind a backslash is kept as it is, and ends the string. -/
theorem rewritten?_kept {cs : List Char} (h : cs.head? ≠ some quote) :
    rewritten? quote true (quote :: cs) = none := by
  rw [rewritten?, escapeFrom_escaped, denoted?_lone (head?_escapeFrom h true)]

/-! ## Seams -/

/-- Whether a lone quote of the first kind may stand behind a part of a string in quotes `own`, and nothing where
the part is not written as what it denotes: `free` says whether a lone quote may stand before it. -/
def Part.next? (quote own : Char) (free : Bool) : Part → Option Bool
  | plain c => if c = quote then (if free then some false else none) else some true
  | doubled => if own = quote then some free else none
  | escaped c => some !decide (c = quote ∨ c = '\\')

/-- Whether parts, each of a string in quotes of its own, are written between quotes of the first kind as what they
denote. -/
def Joins (quote : Char) : (free : Bool) → List (Char × Part) → Prop
  | _, [] => True
  | free, (own, part) :: parts => ∃ next, part.next? quote own free = some next ∧ Joins quote next parts

/-- The characters of some parts. -/
def written (parts : List (Char × Part)) : List Char :=
  parts.flatMap fun part => part.2.chars part.1

/-- What some parts denote. -/
def meant (parts : List (Char × Part)) : List Char :=
  parts.flatMap fun part => part.2.denoted part.1

/-- Whether each part stands in quotes of its own, which are of one of two kinds. -/
def AllFit (quote other : Char) (parts : List (Char × Part)) : Prop :=
  ∀ part ∈ parts, (part.1 = quote ∨ part.1 = other) ∧ part.2.Fits part.1 true

variable {other : Char}

/-- A quote before what is no quote is doubled, unless a backslash was written before it. -/
theorem rewritten?_pending {escaped pending : Bool} {cs s : List Char} (h : cs.head? ≠ some quote)
    (hs : rewritten? quote escaped (if pending then quote :: cs else cs) = some s) :
    ∃ s', rewritten? quote (escaped && !pending) cs = some s' ∧ s = (if pending then quote :: s' else s') ∧
      (pending && escaped) = false := by
  cases pending with
  | false => exact ⟨s, by simpa using hs, rfl, rfl⟩
  | true =>
    cases escaped with
    | true =>
      rw [if_pos rfl, rewritten?_kept h] at hs
      cases hs
    | false =>
      rw [if_pos rfl, rewritten?_lone h] at hs
      obtain ⟨s', hs', rfl⟩ := Option.map_eq_some_iff.mp hs
      exact ⟨s', hs', rfl, rfl⟩

/-- No quote of the first kind is gained where a joined body is written, and none of the other kind is lost, but
for a lone quote that is doubled. -/
theorem count_rewritten? (hquote : quote ≠ '\\') (hslash : other ≠ '\\') (hother : other ≠ quote)
    {parts : List (Char × Part)}
    (h : AllFit quote other parts) (escaped pending : Bool) {s : List Char}
    (hs : rewritten? quote escaped (if pending then quote :: written parts else written parts) = some s) :
    s.count quote ≤ (meant parts).count quote + (if pending && !escaped then 1 else 0) ∧
      (meant parts).count other ≤ s.count other := by
  induction parts generalizing escaped pending s with
  | nil =>
    obtain ⟨s', hs', rfl, hpending⟩ := rewritten?_pending (by simp [written]) hs
    cases hs'
    cases pending <;> cases escaped <;> simp_all [meant, hother.symm]
  | cons unit parts ih =>
    obtain ⟨own, part⟩ := unit
    obtain ⟨⟨hown, hfits⟩, hparts⟩ := List.forall_mem_cons.mp h
    have hwritten : written ((own, part) :: parts) = part.chars own ++ written parts := rfl
    have hmeant : meant ((own, part) :: parts) = part.denoted own ++ meant parts := rfl
    rw [hmeant, List.count_append, List.count_append]
    rw [hwritten] at hs
    -- a part that starts with no quote of the first kind is written by itself
    have halone (x : List Char) (escaped' : Bool) (hhead : (part.chars own ++ written parts).head? ≠ some quote)
        (hstep : ∀ escaped, rewritten? quote escaped (part.chars own ++ written parts) =
          (rewritten? quote escaped' (written parts)).map (x ++ ·))
        (hx : x.count quote ≤ (part.denoted own).count quote ∧ (part.denoted own).count other ≤ x.count other) :
        s.count quote ≤ (part.denoted own).count quote + (meant parts).count quote + (if pending && !escaped then 1 else 0) ∧
          (part.denoted own).count other + (meant parts).count other ≤ s.count other := by
      obtain ⟨s', hs', rfl, hpending⟩ := rewritten?_pending hhead hs
      rw [hstep] at hs'
      obtain ⟨s'', hs'', rfl⟩ := Option.map_eq_some_iff.mp hs'
      obtain ⟨hle, hge⟩ := ih hparts escaped' false (by simpa using hs'')
      cases pending with
      | false => simp at hle ⊢; omega
      | true =>
        cases escaped with
        | true => cases hpending
        | false => simp [hother.symm] at hle ⊢; omega
    cases part with
    | plain c =>
      obtain ⟨hne, hslash⟩ := hfits
      have hslash : c ≠ '\\' := by simpa using hslash
      by_cases hc : c = quote
      · subst hc
        cases pending with
        | false =>
          obtain ⟨hle, hge⟩ := ih hparts escaped true (by simpa [Part.chars] using hs)
          cases escaped <;> simp [Part.denoted, hother.symm] at hle ⊢ <;> omega
        | true =>
          rw [if_pos rfl, Part.chars, List.singleton_append, rewritten?_pair] at hs
          obtain ⟨s', hs', rfl⟩ := Option.map_eq_some_iff.mp hs
          obtain ⟨hle, hge⟩ := ih hparts escaped false (by simpa using hs')
          simp [Part.denoted, hother.symm] at hle ⊢
          omega
      · exact halone [c] false (by simpa [Part.chars] using hc) (fun escaped => rewritten?_plain hc hslash escaped _)
          ⟨Nat.le_refl _, Nat.le_refl _⟩
    | doubled =>
      obtain rfl | rfl := hown
      · cases pending with
        | false =>
          rw [if_neg Bool.false_ne_true, Part.chars, List.cons_append, List.singleton_append, rewritten?_pair] at hs
          obtain ⟨s', hs', rfl⟩ := Option.map_eq_some_iff.mp hs
          obtain ⟨hle, hge⟩ := ih hparts escaped false (by simpa using hs')
          simp [Part.denoted, hother.symm] at hle ⊢
          omega
        | true =>
          rw [if_pos rfl, Part.chars, List.cons_append, List.singleton_append, rewritten?_pair] at hs
          obtain ⟨s', hs', rfl⟩ := Option.map_eq_some_iff.mp hs
          obtain ⟨hle, hge⟩ := ih hparts escaped true (by simpa using hs')
          simp [Part.denoted, hother.symm] at hle ⊢
          omega
      · refine halone [own, own] false (by simpa [Part.chars] using hother) (fun escaped => ?_) ?_
        · rw [Part.chars, List.cons_append, List.singleton_append, rewritten?_plain hother hslash,
            rewritten?_plain hother hslash, Option.map_map]
          rfl
        · simp [Part.denoted, hother]
    | escaped c =>
      exact halone (unescaped c) _ (by simpa [Part.chars] using hquote.symm)
        (fun escaped => rewritten?_escaped hquote escaped c _)
        ⟨Nat.le_refl _, Nat.le_refl _⟩

/-- Behind a part that is written as what it denotes, parts join if the others do. -/
theorem joins_cons {free : Bool} {own : Char} {part : Part} {parts : List (Char × Part)} (next : Bool)
    (h : part.next? quote own free = some next) : Joins quote free ((own, part) :: parts) ↔ Joins quote next parts := by
  constructor
  · rintro ⟨next', hnext, hjoins⟩
    rw [h] at hnext
    cases hnext
    exact hjoins
  · exact fun hjoins => ⟨next, h, hjoins⟩

/-- Parts do not join where the first one is not written as what it denotes. -/
theorem not_joins_cons {free : Bool} {own : Char} {part : Part} {parts : List (Char × Part)}
    (h : part.next? quote own free = none) : ¬Joins quote free ((own, part) :: parts) := by
  rintro ⟨next, hnext, -⟩
  rw [h] at hnext
  cases hnext

/-- A joined body denotes what its parts denote exactly where they join: behind a quote that stands alone so far
(`pending`), or behind a backslash (`escaped`), no other quote may stand alone. -/
theorem rewritten?_eq_iff_joins (hquote : quote ≠ '\\') (hslash : other ≠ '\\') (hother : other ≠ quote)
    {parts : List (Char × Part)} (h : AllFit quote other parts) (escaped pending : Bool)
    (hstate : (escaped && pending) = false) :
    rewritten? quote escaped (if pending then quote :: written parts else written parts) =
        some (if pending then quote :: meant parts else meant parts) ↔
      Joins quote (!escaped && !pending) parts := by
  induction parts generalizing escaped pending with
  | nil =>
    refine ⟨fun _ => trivial, fun _ => ?_⟩
    cases pending with
    | false => rfl
    | true =>
      cases escaped with
      | true => cases hstate
      | false => exact rewritten?_lone (by simp [written])
  | cons unit parts ih =>
    obtain ⟨own, part⟩ := unit
    obtain ⟨⟨hown, hfits⟩, hparts⟩ := List.forall_mem_cons.mp h
    have hwritten : written ((own, part) :: parts) = part.chars own ++ written parts := rfl
    have hmeant : meant ((own, part) :: parts) = part.denoted own ++ meant parts := rfl
    rw [hwritten, hmeant]
    have hcount := count_rewritten? hquote hslash hother hparts
    -- what stands before a part that starts with no quote of the first kind does not matter
    have halone (x : List Char) (escaped' : Bool) (hhead : (part.chars own ++ written parts).head? ≠ some quote)
        (hstep : ∀ escaped, rewritten? quote escaped (part.chars own ++ written parts) =
          (rewritten? quote escaped' (written parts)).map (x ++ ·)) :
        rewritten? quote escaped
            (if pending then quote :: (part.chars own ++ written parts) else part.chars own ++ written parts) =
            some (if pending then quote :: (part.denoted own ++ meant parts) else part.denoted own ++ meant parts) ↔
          ∃ s, rewritten? quote escaped' (written parts) = some s ∧ x ++ s = part.denoted own ++ meant parts := by
      cases pending with
      | false => simp [hstep]
      | true =>
        cases escaped with
        | true => cases hstate
        | false => simp [rewritten?_lone hhead, hstep]
    cases part with
    | plain c =>
      obtain ⟨hne, hplain⟩ := hfits
      have hplain : c ≠ '\\' := by simpa using hplain
      by_cases hc : c = quote
      · subst hc
        cases pending with
        | false =>
          cases escaped with
          | false =>
            rw [joins_cons false (by simp [Part.next?])]
            exact ih hparts false true rfl
          | true =>
            refine iff_of_false (fun heq => ?_) (not_joins_cons (by simp [Part.next?]))
            have hle := (hcount true true heq).1
            simp only [Bool.false_eq_true, reduceIte, Part.denoted, List.cons_append, List.nil_append,
              List.count_cons_self, Bool.not_true, Bool.and_false] at hle
            omega
        | true =>
          cases escaped with
          | true => cases hstate
          | false =>
            refine iff_of_false (fun heq => ?_) (not_joins_cons (by simp [Part.next?]))
            rw [if_pos rfl, if_pos rfl, Part.chars, List.singleton_append, rewritten?_pair] at heq
            obtain ⟨s, hs, hcons⟩ := Option.map_eq_some_iff.mp heq
            have hle := (hcount false false hs).1
            cases hcons
            simp only [Part.denoted, List.cons_append, List.nil_append, List.count_cons_self, Bool.and_true,
              Bool.not_false, Bool.false_eq_true, reduceIte] at hle
            omega
      · rw [halone [c] false (by simpa [Part.chars] using hc) (fun escaped => rewritten?_plain hc hplain escaped _),
          joins_cons true (by simp [Part.next?, hc])]
        simpa [Part.denoted] using ih hparts false false rfl
    | doubled =>
      obtain rfl | rfl := hown
      · rw [joins_cons (!escaped && !pending) (by simp [Part.next?]), ← ih hparts escaped pending hstate]
        cases pending <;> simp [Part.chars, Part.denoted, rewritten?_pair]
      · have hstep (escaped : Bool) : rewritten? quote escaped (Part.doubled.chars own ++ written parts) =
            (rewritten? quote false (written parts)).map ([own, own] ++ ·) := by
          rw [Part.chars, List.cons_append, List.singleton_append, rewritten?_plain hother hslash,
            rewritten?_plain hother hslash, Option.map_map]
          rfl
        rw [halone [own, own] false (by simpa [Part.chars] using hother) hstep]
        refine iff_of_false ?_ (not_joins_cons (by simp [Part.next?, hother]))
        rintro ⟨s, hs, heq⟩
        have hle := (hcount false false hs).2
        have hmore : own :: s = meant parts := by simpa [Part.denoted] using heq
        rw [← hmore, List.count_cons_self] at hle
        omega
    | escaped c =>
      rw [halone (unescaped c) _ (by simpa [Part.chars] using hquote.symm)
          (fun escaped => rewritten?_escaped hquote escaped c _),
        joins_cons _ rfl]
      simpa [Part.denoted] using ih hparts (decide (c = quote ∨ c = '\\')) false (by simp)

end InsertPivot.Sql
