import Mathlib.Data.List.Forall2
import Mathlib.Data.List.TakeWhile
import Registrar.Text.Blank
import Registrar.Text.Lowercase

/-!
# Spellings

A text spells a word if it is the word up to the case of ASCII letters (`SameLetters`), where there
may be blanks around it (`IsCore`).  Folding a text, lowercasing it and trimming it find out just
this: the folding of ASCII letters for every word in small letters, and the lowercase form of
Unicode for those that the Kelvin sign cannot spell (`lowercase_eq_iff_sameLetters`).
-/

namespace Registrar.Text

variable {c d : Char} {s t w core : List Char}

/-! ## Capitals and small letters -/

/-- The same character, or the capital and the small form of one ASCII letter. -/
inductive SameLetter (c d : Char) : Prop
  | same (h : c = d)
  | capital (hc : 'A' ≤ c ∧ c ≤ 'Z') (h : d.toNat = c.toNat + 32)
  | small (hd : 'A' ≤ d ∧ d ≤ 'Z') (h : c.toNat = d.toNat + 32)

abbrev SameLetters : List Char → List Char → Prop :=
  List.Forall₂ SameLetter

theorem isCapital_iff : 'A' ≤ c ∧ c ≤ 'Z' ↔ 65 ≤ c.toNat ∧ c.toNat ≤ 90 := by
  simp only [Char.le_def, UInt32.le_iff_toNat_le]
  rfl

theorem toNat_lowerAscii (c : Char) :
    (lowerAscii c).toNat = if 'A' ≤ c ∧ c ≤ 'Z' then c.toNat + 32 else c.toNat := by
  unfold lowerAscii
  split
  case isTrue hc =>
    have hscalar : (c.toNat + 32).isValidChar := by
      rw [isCapital_iff] at hc
      exact .inl (by omega)
    rw [Char.ofNat, dif_pos hscalar]
    rfl
  case isFalse => rfl

theorem lowerAscii_eq_lowerAscii_iff : lowerAscii c = lowerAscii d ↔ SameLetter c d := by
  have hcapital := @isCapital_iff
  rw [← Char.toNat_inj, toNat_lowerAscii, toNat_lowerAscii]
  constructor
  · intro h
    by_cases hc : 'A' ≤ c ∧ c ≤ 'Z' <;> by_cases hd : 'A' ≤ d ∧ d ≤ 'Z'
    · simp only [hc, hd, and_self, if_true, Nat.add_right_cancel_iff] at h
      exact .same (Char.toNat_inj.mp h)
    · rw [if_pos hc, if_neg hd] at h
      exact .capital hc h.symm
    · rw [if_neg hc, if_pos hd] at h
      exact .small hd h
    · rw [if_neg hc, if_neg hd] at h
      exact .same (Char.toNat_inj.mp h)
  · rintro (rfl | ⟨hc, h⟩ | ⟨hd, h⟩)
    · rfl
    · have hd : ¬('A' ≤ d ∧ d ≤ 'Z') := by
        rw [isCapital_iff] at hc ⊢
        omega
      rw [if_pos hc, if_neg hd, h]
    · have hc : ¬('A' ≤ c ∧ c ≤ 'Z') := by
        rw [isCapital_iff] at hd ⊢
        omega
      rw [if_neg hc, if_pos hd, h]

theorem fold_eq_fold_iff : fold s = fold t ↔ SameLetters s t := by
  rw [← List.forall₂_eq_eq_eq, fold, fold, List.forall₂_map_left_iff, List.forall₂_map_right_iff]
  simp only [lowerAscii_eq_lowerAscii_iff]

/-- In small letters. -/
theorem fold_eq_iff_sameLetters (hw : fold w = w) : fold s = w ↔ SameLetters s w := by
  rw [← fold_eq_fold_iff, hw]

/-! ## Lowercase -/

/-- A word in small ASCII letters without a `k`, which the Kelvin sign has for its small form. -/
def IsPlain (w : List Char) : Prop :=
  fold w = w ∧ ∀ d ∈ w, d.toNat < 128 ∧ d ≠ 'k'

-- The characters of the word are gone through, not all characters that there are.
instance (w : List Char) : Decidable (IsPlain w) :=
  @instDecidableAnd _ _ inferInstance (List.decidableBAll _ w)

theorem map_lower_eq_iff_sameLetters (hw : IsPlain w) : s.map lower = w ↔ SameLetters s w := by
  rw [← fold_eq_iff_sameLetters hw.1]
  by_cases hkelvin : '\u212A' ∈ s
  · constructor
    · rintro rfl
      exact absurd rfl (hw.2 _ (List.mem_map_of_mem hkelvin)).2
    · rintro rfl
      exact absurd (hw.2 _ (List.mem_map_of_mem hkelvin)).1 (by decide)
  · have hfold : s.map lower = fold s :=
      List.map_congr_left fun c hc => if_neg (ne_of_mem_of_not_mem hc hkelvin)
    rw [hfold]

theorem lowercase_eq_iff_sameLetters (hw : IsPlain w) : lowercase s = w ↔ SameLetters s w :=
  (lowercase_eq_iff_map_lower fun d hd => (hw.2 d hd).1).trans (map_lower_eq_iff_sameLetters hw)

/-! ## Blanks around -/

/-- What is left of a text without the blanks around it. -/
def IsCore (s core : List Char) : Prop :=
  ∃ before after, s = before ++ core ++ after ∧ (∀ c ∈ before, isBlank c) ∧
    (∀ c ∈ after, isBlank c) ∧ (∀ c ∈ core.head?, ¬isBlank c) ∧ ∀ c ∈ core.getLast?, ¬isBlank c

theorem trimStart_eq_iff : trimStart s = t ↔
    ∃ before, s = before ++ t ∧ (∀ c ∈ before, isBlank c) ∧ ∀ c ∈ t.head?, ¬isBlank c := by
  constructor
  · rintro rfl
    have hbefore : ∀ c ∈ s.takeWhile isBlank, isBlank c := fun c => List.mem_takeWhile_imp
    have hhead : ∀ c ∈ (s.dropWhile isBlank).head?, ¬isBlank c := by
      intro c hc
      have hnot := List.head?_dropWhile_not isBlank s
      rw [Option.mem_def.mp hc] at hnot
      simpa using hnot
    exact ⟨s.takeWhile isBlank, List.takeWhile_append_dropWhile.symm, hbefore, hhead⟩
  · rintro ⟨before, rfl, hbefore, hhead⟩
    rw [trimStart, List.dropWhile_append_of_pos hbefore]
    cases t with
    | nil => rfl
    | cons c rest => exact trimStart_of_head (by simpa using hhead c rfl)

theorem trimEnd_eq_iff : trimEnd s = t ↔
    ∃ after, s = t ++ after ∧ (∀ c ∈ after, isBlank c) ∧ ∀ c ∈ t.getLast?, ¬isBlank c := by
  have hback : trimEnd s = t ↔ trimStart s.reverse = t.reverse := List.reverse_eq_iff
  rw [hback, trimStart_eq_iff, List.head?_reverse]
  constructor
  · rintro ⟨before, hs, hbefore, hlast⟩
    have hback : s = t ++ before.reverse := by simpa using congrArg List.reverse hs
    have hafter : ∀ c ∈ before.reverse, isBlank c := by simpa using hbefore
    exact ⟨before.reverse, hback, hafter, hlast⟩
  · rintro ⟨after, rfl, hafter, hlast⟩
    have hbefore : ∀ c ∈ after.reverse, isBlank c := by simpa using hafter
    exact ⟨after.reverse, List.reverse_append, hbefore, hlast⟩

theorem trim_eq_iff_isCore : trim s = core ↔ IsCore s core := by
  rw [trim, trimEnd_eq_iff]
  constructor
  · rintro ⟨after, hstart, hafter, hlast⟩
    obtain ⟨before, rfl, hbefore, hhead⟩ := trimStart_eq_iff.mp hstart
    refine ⟨before, after, (List.append_assoc ..).symm, hbefore, hafter, fun c hc => hhead c ?_,
      hlast⟩
    rw [List.head?_append, hc]
    rfl
  · rintro ⟨before, after, rfl, hbefore, hafter, hhead, hlast⟩
    cases core with
    | nil =>
      -- Nothing but blanks, all of which the start has.
      have hblank : ∀ c ∈ before ++ after, isBlank c := by
        intro c hc
        exact (List.mem_append.mp hc).elim (hbefore c) (hafter c)
      have hstart : trimStart (before ++ [] ++ after) = [] :=
        trimStart_eq_iff.mpr ⟨before ++ after, by simp, hblank, nofun⟩
      exact ⟨[], hstart, nofun, nofun⟩
    | cons c rest =>
      have hstart : trimStart (before ++ c :: rest ++ after) = c :: rest ++ after :=
        trimStart_eq_iff.mpr ⟨before, List.append_assoc .., hbefore, hhead⟩
      exact ⟨after, hstart, hafter, hlast⟩

/-! ## Looking for words -/

/-- A search that finds just the values with a property. -/
theorem found_or_absent {α : Type} {found : Option α} {p : α → Prop}
    (h : ∀ a, found = some a ↔ p a) :
    (∃ a, found = some a ∧ p a) ∨ found = none ∧ ∀ a, ¬p a := by
  cases found with
  | some a => exact .inl ⟨a, rfl, (h a).mp rfl⟩
  | none => exact .inr ⟨rfl, fun a ha => nomatch (h a).mpr ha⟩

/-- If no two values have the same image, looking for an image finds its value. -/
theorem find?_beq_eq_some_iff {α β : Type} [BEq β] [LawfulBEq β] {all : List α} {f : α → β}
    (hall : ∀ a, a ∈ all) (hf : Function.Injective f) {a : α} {b : β} :
    (all.find? fun a => f a == b) = some a ↔ f a = b := by
  constructor
  · intro h
    simpa using List.find?_some h
  · rintro rfl
    cases hfound : all.find? fun a' => f a' == f a with
    | none => exact absurd (List.find?_eq_none.mp hfound a (hall a)) (by simp)
    | some a' =>
      have himage : f a' = f a := by simpa using List.find?_some hfound
      rw [hf himage]

section Words

variable {α : Type} {all : List α} {word : α → String} {text : String}

/-- The words of all values, each with a plain word of its own. -/
structure PlainWords (all : List α) (word : α → String) : Prop where
  mem_all : ∀ a, a ∈ all
  injective : Function.Injective fun a => (word a).toList
  plain : ∀ a, IsPlain (word a).toList

theorem find?_lowercase_eq_some_iff (h : PlainWords all word) {a : α} :
    (all.find? fun a => (word a).toList == lowercase text.toList) = some a ↔
      SameLetters text.toList (word a).toList := by
  rw [find?_beq_eq_some_iff h.mem_all h.injective, eq_comm]
  exact lowercase_eq_iff_sameLetters (h.plain a)

theorem lowercase_mem_map_iff (h : PlainWords all word) :
    String.ofList (lowercase text.toList) ∈ all.map word ↔
      ∃ a, SameLetters text.toList (word a).toList := by
  have hword : ∀ a, word a = String.ofList (lowercase text.toList) ↔
      SameLetters text.toList (word a).toList := by
    intro a
    rw [← String.toList_inj, String.toList_ofList, eq_comm]
    exact lowercase_eq_iff_sameLetters (h.plain a)
  simp [hword, h.mem_all]

end Words

end Registrar.Text
