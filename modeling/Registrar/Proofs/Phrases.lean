import Mathlib.Data.List.TakeWhile
import Registrar.Violation.ConstraintName

/-!
# Phrases in a message

A message is read from the left, and the first place where a phrase is complete counts.  A
text in front that cannot begin the phrase is passed over, and what follows the phrase is not
looked at; so a phrase says the same wherever it stands and whatever comes after it.
-/

namespace Registrar

namespace Text

/-! ## Pieces -/

theorem joinWith_eq_intercalate (sep : List Char) (pieces : List (List Char)) :
    joinWith sep pieces = sep.intercalate pieces := by
  induction pieces with
  | nil => rfl
  | cons piece rest ih =>
    cases rest with
    | nil => simp [joinWith]
    | cons next more =>
      have hmore : next :: more ≠ [] := List.cons_ne_nil next more
      rw [joinWith_cons sep piece hmore, ih, List.intercalate_cons_cons]

theorem mem_intercalate {c : Char} {sep : List Char} {pieces : List (List Char)}
    (h : c ∈ sep.intercalate pieces) : c ∈ sep ∨ ∃ piece ∈ pieces, c ∈ piece := by
  induction pieces with
  | nil => simp at h
  | cons piece rest ih =>
    cases rest with
    | nil => exact .inr ⟨piece, List.mem_cons_self, by simpa using h⟩
    | cons next more =>
      rw [List.intercalate_cons_cons, List.mem_append, List.mem_append] at h
      rcases h with (hpiece | hsep) | hrest
      · exact .inr ⟨piece, List.mem_cons_self, hpiece⟩
      · exact .inl hsep
      · rcases ih hrest with hsep | ⟨other, hother, hc⟩
        · exact .inl hsep
        · exact .inr ⟨other, List.mem_cons_of_mem piece hother, hc⟩

theorem splitAt_of_notMem {sep : Char} {piece : List Char} (h : sep ∉ piece) :
    splitAt sep piece = [piece] := by
  induction piece with
  | nil => rfl
  | cons c piece ih =>
    have hc : c ≠ sep := fun hc => h (hc ▸ List.mem_cons_self)
    have hpiece : sep ∉ piece := fun hmem => h (List.mem_cons_of_mem c hmem)
    simp [splitAt, hc, ih hpiece]

theorem splitAt_append {sep : Char} {piece : List Char} (h : sep ∉ piece) (rest : List Char) :
    splitAt sep (piece ++ sep :: rest) = piece :: splitAt sep rest := by
  induction piece with
  | nil => simp [splitAt]
  | cons c piece ih =>
    have hc : c ≠ sep := fun hc => h (hc ▸ List.mem_cons_self)
    have hpiece : sep ∉ piece := fun hmem => h (List.mem_cons_of_mem c hmem)
    simp [splitAt, hc, ih hpiece]

/-- Pieces come apart at the character that they were joined by. -/
theorem splitAt_intercalate_self {sep : Char} {first : List Char} {others : List (List Char)}
    (h : ∀ piece ∈ first :: others, sep ∉ piece) :
    splitAt sep ([sep].intercalate (first :: others)) = first :: others := by
  induction others generalizing first with
  | nil => simpa using splitAt_of_notMem (h first List.mem_cons_self)
  | cons next more ih =>
    have hmore : ∀ piece ∈ next :: more, sep ∉ piece := fun piece hpiece =>
      h piece (List.mem_cons_of_mem first hpiece)
    rw [List.intercalate_cons_cons, List.append_assoc, List.singleton_append,
      splitAt_append (h first List.mem_cons_self), ih hmore]

/-- Pieces that are joined by a comma and a blank come apart with the blank in front. -/
theorem splitAt_intercalate {first : List Char} {others : List (List Char)}
    (hfirst : ',' ∉ first) (hothers : ∀ piece ∈ others, ',' ∉ piece) :
    splitAt ',' ([',', ' '].intercalate (first :: others)) =
      first :: others.map (' ' :: ·) := by
  induction others generalizing first with
  | nil => simpa using splitAt_of_notMem hfirst
  | cons next more ih =>
    have hnext : ',' ∉ ' ' :: next := by simpa using hothers next List.mem_cons_self
    have hmore : ∀ piece ∈ more, ',' ∉ piece := fun piece hpiece =>
      hothers piece (List.mem_cons_of_mem next hpiece)
    have hmerge : ' ' :: [',', ' '].intercalate (next :: more) =
        [',', ' '].intercalate ((' ' :: next) :: more) := by
      cases more <;> simp
    have hcut : [',', ' '].intercalate (first :: next :: more) =
        first ++ ',' :: [',', ' '].intercalate ((' ' :: next) :: more) := by
      rw [List.intercalate_cons_cons, ← hmerge]
      simp
    rw [hcut, splitAt_append hfirst, ih hnext hmore, List.map_cons]

/-! ## Blanks -/

theorem trim_of_unblank {s : List Char} (h : ∀ c ∈ s, isBlank c = false) : trim s = s := by
  have hkept : ∀ {l : List Char}, (∀ c ∈ l, isBlank c = false) → l.dropWhile isBlank = l := by
    intro l hl
    cases l with
    | nil => rfl
    | cons c rest => simp [hl c List.mem_cons_self]
  have hback : ∀ c ∈ s.reverse, isBlank c = false := fun c hc => h c (List.mem_reverse.mp hc)
  unfold trim trimStart trimEnd
  rw [hkept h, hkept hback, List.reverse_reverse]

theorem trim_blank_cons {c : Char} (hc : isBlank c) (s : List Char) : trim (c :: s) = trim s := by
  simp [trim, trimStart, hc]

end Text

namespace Violation

open Text

/-! ## Parts -/

/-- Parts that are listed with a comma and a blank between them are read back. -/
theorem parts_intercalate {first : List Char} {others : List (List Char)}
    (hcomma : ∀ part ∈ first :: others, ',' ∉ part)
    (hblank : ∀ part ∈ first :: others, ∀ c ∈ part, isBlank c = false) :
    parts ([',', ' '].intercalate (first :: others)) = first :: others := by
  have hothers : ∀ part ∈ others, ',' ∉ part := fun part hpart =>
    hcomma part (List.mem_cons_of_mem first hpart)
  have hspace : isBlank ' ' = true := by decide
  have htrim : ∀ part ∈ others, (trim ∘ (' ' :: ·)) part = id part := by
    intro part hpart
    rw [Function.comp, trim_blank_cons hspace]
    exact trim_of_unblank (hblank part (List.mem_cons_of_mem first hpart))
  rw [parts, splitAt_intercalate (hcomma first List.mem_cons_self) hothers, List.map_cons,
    List.map_map, List.map_congr_left htrim, List.map_id,
    trim_of_unblank (hblank first List.mem_cons_self)]

/-! ## Up to a character -/

theorem upTo?_eq_some_iff {stop : Char} {s front rest : List Char} :
    upTo? stop s = some (front, rest) ↔ stop ∉ front ∧ s = front ++ stop :: rest := by
  induction s generalizing front with
  | nil => simp [upTo?]
  | cons c s ih =>
    by_cases hc : c = stop
    · subst hc
      cases front with
      | nil => simp [upTo?]
      | cons d front =>
        simp only [upTo?, if_true, Option.some.injEq, Prod.mk.injEq, List.cons_append,
          List.cons.injEq, List.mem_cons, not_or]
        constructor
        · rintro ⟨hnil, -⟩
          cases hnil
        · rintro ⟨⟨hne, -⟩, heq, -⟩
          exact absurd heq hne
    · simp only [upTo?, if_neg hc, Option.map_eq_some_iff, Prod.exists, Prod.mk.injEq]
      constructor
      · rintro ⟨before, after, hread, rfl, rfl⟩
        obtain ⟨hmem, rfl⟩ := ih.mp hread
        simp [hmem, Ne.symm hc]
      · rintro ⟨hmem, heq⟩
        cases front with
        | nil => exact absurd (List.cons.inj heq).1 hc
        | cons d front =>
          obtain ⟨rfl, hs⟩ := List.cons.inj heq
          have hfront : stop ∉ front := fun h => hmem (List.mem_cons_of_mem _ h)
          exact ⟨front, rest, ih.mpr ⟨hfront, hs⟩, rfl, rfl⟩

theorem someUpTo?_eq_some_iff {stop : Char} {s front rest : List Char} :
    someUpTo? stop s = some (front, rest) ↔
      front ≠ [] ∧ stop ∉ front ∧ s = front ++ stop :: rest := by
  rw [someUpTo?, Option.filter_eq_some_iff, upTo?_eq_some_iff, decide_eq_true_eq, and_comm]

/-- A text as far as its first `stop`. -/
def cutAt (stop : Char) (s : List Char) : List Char :=
  s.takeWhile (· != stop)

theorem cutAt_eq_self_iff {stop : Char} {s : List Char} : cutAt stop s = s ↔ stop ∉ s := by
  rw [cutAt, List.takeWhile_eq_self_iff]
  constructor
  · intro hkept hmem
    simpa using hkept stop hmem
  · intro hstop c hc
    have hne : c ≠ stop := fun heq => hstop (heq ▸ hc)
    simpa using hne

theorem cutAt_append {stop : Char} {front : List Char} (h : stop ∉ front) (rest : List Char) :
    cutAt stop (front ++ stop :: rest) = front := by
  have hfront : ∀ c ∈ front, (c != stop) = true := by
    intro c hc
    have hne : c ≠ stop := fun heq => h (heq ▸ hc)
    simpa using hne
  simp [cutAt, List.takeWhile_append_of_pos hfront]

/-- The text that a `stop` follows may hold others itself. -/
theorem upTo?_cutAt (stop : Char) (s rest : List Char) :
    ∃ more, upTo? stop (s ++ stop :: rest) = some (cutAt stop s, more) := by
  by_cases hmem : stop ∈ s
  · obtain ⟨front, more, rfl, hfront⟩ := List.eq_append_cons_of_mem hmem
    rw [cutAt_append hfront]
    refine ⟨more ++ stop :: rest, upTo?_eq_some_iff.mpr ⟨hfront, ?_⟩⟩
    rw [List.append_assoc, List.cons_append]
  · rw [cutAt_eq_self_iff.mpr hmem]
    exact ⟨rest, upTo?_eq_some_iff.mpr ⟨hmem, rfl⟩⟩

/-! ## The first complete phrase -/

section FirstMatch

variable {α : Type} {read : List Char → Option α} {front rest : List Char}

theorem firstMatch_of_some {s : List Char} {a : α} (h : read s = some a) :
    firstMatch read s = some a := by
  cases s with
  | nil => exact h
  | cons c s => simp [firstMatch, h]

/-- A phrase is found exactly if it stands somewhere in the text. -/
theorem firstMatch_isSome_iff {s : List Char} :
    (firstMatch read s).isSome ↔ ∃ here, here <:+ s ∧ (read here).isSome := by
  induction s with
  | nil => simp [firstMatch]
  | cons c s ih =>
    simp only [List.suffix_cons_iff, or_and_right, exists_or, exists_eq_left]
    cases hread : read (c :: s) with
    | some a => simp [firstMatch, hread]
    | none => simp [firstMatch, hread, ih]

/-- A text at no place of which a phrase begins is passed over. -/
theorem firstMatch_append
    (h : ∀ later, later ≠ [] → later <:+ front → read (later ++ rest) = none) :
    firstMatch read (front ++ rest) = firstMatch read rest := by
  induction front with
  | nil => rfl
  | cons c front ih =>
    have hhere : read (c :: (front ++ rest)) = none :=
      h (c :: front) (List.cons_ne_nil c front) List.suffix_rfl
    have hlater : ∀ later, later ≠ [] → later <:+ front → read (later ++ rest) = none :=
      fun later hne hsuffix => h later hne (hsuffix.trans (List.suffix_cons c front))
    simp [firstMatch, hhere, ih hlater]

/-- So is one whose characters never begin a phrase. -/
theorem firstMatch_append_of_head (h : ∀ c ∈ front, ∀ s, read (c :: s) = none) :
    firstMatch read (front ++ rest) = firstMatch read rest := by
  apply firstMatch_append
  intro later hne hsuffix
  obtain ⟨c, s, rfl⟩ := List.exists_cons_of_ne_nil hne
  have hmem : c ∈ front := hsuffix.subset List.mem_cons_self
  exact h c hmem (s ++ rest)

end FirstMatch

theorem keyHere?_cons_of_ne {c : Char} (h : c ≠ 'K') (s : List Char) :
    keyHere? (c :: s) = none := by
  have hphrase : "Key (".toList = 'K' :: "ey (".toList := rfl
  simp [keyHere?, hphrase, afterPrefix?, Ne.symm h]

theorem quotedAfterHere?_cons_of_ne {c d : Char} (h : c ≠ d) (phrase s : List Char) :
    quotedAfterHere? (d :: phrase) (c :: s) = none := by
  simp [quotedAfterHere?, afterPrefix?, Ne.symm h]

theorem tableHere?_cons_of_ne {c : Char} (htable : c ≠ 't') (hrelation : c ≠ 'r')
    (s : List Char) : tableHere? (c :: s) = none := by
  have htable' : quotedAfterHere? "table \"".toList (c :: s) = none :=
    quotedAfterHere?_cons_of_ne htable "able \"".toList s
  have hrelation' : quotedAfterHere? "relation \"".toList (c :: s) = none :=
    quotedAfterHere?_cons_of_ne hrelation "elation \"".toList s
  rw [tableHere?, htable', hrelation']
  rfl

theorem quotedAfterHere?_eq_some_iff {phrase s name : List Char} :
    quotedAfterHere? phrase s = some name ↔
      name ≠ [] ∧ '"' ∉ name ∧ ∃ after, s = phrase ++ (name ++ '"' :: after) := by
  simp only [quotedAfterHere?, Option.bind_eq_bind, Option.bind_eq_some_iff,
    afterPrefix?_eq_some_iff, someUpTo?_eq_some_iff, Prod.exists, Option.some.injEq]
  constructor
  · rintro ⟨_, rfl, _, after, ⟨hne, hquote, rfl⟩, rfl⟩
    exact ⟨hne, hquote, after, rfl⟩
  · rintro ⟨hne, hquote, after, rfl⟩
    exact ⟨_, rfl, name, after, ⟨hne, hquote, rfl⟩, rfl⟩

theorem quotedAfterHere?_append {name : List Char} (hne : name ≠ []) (hquote : '"' ∉ name)
    (phrase rest : List Char) :
    quotedAfterHere? phrase (phrase ++ (name ++ '"' :: rest)) = some name :=
  quotedAfterHere?_eq_some_iff.mpr ⟨hne, hquote, rest, rfl⟩

/-! ## Keys -/

theorem keyHere?_eq_some_iff {s columns values : List Char} :
    keyHere? s = some (columns, values) ↔
      columns ≠ [] ∧ ')' ∉ columns ∧ ')' ∉ values ∧ ∃ after,
        s = "Key (".toList ++ (columns ++ (")=(".toList ++ (values ++ ')' :: after))) := by
  simp only [keyHere?, Option.bind_eq_bind, Option.bind_eq_some_iff, afterPrefix?_eq_some_iff,
    someUpTo?_eq_some_iff, upTo?_eq_some_iff, Prod.exists, Option.some.injEq, Prod.mk.injEq]
  constructor
  · rintro ⟨_, rfl, _, _, ⟨hne, hcolumns, rfl⟩, _, rfl, _, after, ⟨hvalues, rfl⟩, rfl, rfl⟩
    exact ⟨hne, hcolumns, hvalues, after, rfl⟩
  · rintro ⟨hne, hcolumns, hvalues, after, rfl⟩
    exact ⟨_, rfl, columns, _, ⟨hne, hcolumns, rfl⟩, _, rfl, values, after, ⟨hvalues, rfl⟩,
      rfl, rfl⟩

theorem keyHere?_append {columns : List Char} (hne : columns ≠ []) (hcolumns : ')' ∉ columns)
    (values after : List Char) :
    keyHere? ("Key (".toList ++ (columns ++ (")=(".toList ++ (values ++ ')' :: after)))) =
      some (columns, cutAt ')' values) := by
  obtain ⟨more, hread⟩ := upTo?_cutAt ')' values after
  obtain ⟨hclosing, hcut⟩ := upTo?_eq_some_iff.mp hread
  exact keyHere?_eq_some_iff.mpr ⟨hne, hcolumns, hclosing, more, by rw [hcut]⟩

/-- Columns and values are read wherever the phrase stands, the values as far as their first
closing parenthesis. -/
theorem key?_append {before columns : List Char} (hbefore : 'K' ∉ before)
    (hne : columns ≠ []) (hcolumns : ')' ∉ columns) (values after : List Char) :
    key? (before ++ ("Key (".toList ++ (columns ++ (")=(".toList ++ (values ++ ')' :: after))))) =
      some (columns, cutAt ')' values) := by
  have hskip : ∀ c ∈ before, ∀ s, keyHere? (c :: s) = none := by
    intro c hc s
    have hkey : c ≠ 'K' := fun heq => hbefore (heq ▸ hc)
    exact keyHere?_cons_of_ne hkey s
  unfold key?
  rw [firstMatch_append_of_head hskip]
  exact firstMatch_of_some (keyHere?_append hne hcolumns values after)

theorem key?_eq_none {text : List Char} (h : 'K' ∉ text) : key? text = none := by
  have hskip : ∀ c ∈ text, ∀ s, keyHere? (c :: s) = none := by
    intro c hc s
    have hkey : c ≠ 'K' := fun heq => h (heq ▸ hc)
    exact keyHere?_cons_of_ne hkey s
  have hpassed : firstMatch keyHere? (text ++ []) = firstMatch keyHere? [] :=
    firstMatch_append_of_head hskip
  rwa [List.append_nil] at hpassed

/-- With its columns known, the name of a constraint gives its table. -/
theorem tableOfName?_eq_some_iff {suffix columns name table : List Char} :
    tableOfName? suffix columns name = some table ↔
      table ≠ [] ∧ name = table ++ ['_'] ++ joinWith ['_'] (parts columns) ++ suffix := by
  simp only [tableOfName?, Option.bind_eq_bind, Option.bind_eq_some_iff,
    beforeSuffix?_eq_some_iff]
  constructor
  · rintro ⟨_, rfl, _, rfl, front, rfl, htable⟩
    by_cases hne : front = []
    · rw [if_pos hne] at htable
      cases htable
    · rw [if_neg hne] at htable
      cases htable
      exact ⟨hne, rfl⟩
  · rintro ⟨hne, rfl⟩
    exact ⟨_, rfl, _, rfl, table, rfl, if_neg hne⟩

end Violation

end Registrar
