import Mathlib.Algebra.Group.Nat.Defs
import Registrar.Proofs.Phrases
import Registrar.Uuid

/-!
# Identifiers read back

An identifier is written as five groups of hexadecimal digits with hyphens between them.  The
groups are parts of one number of 32 digits, so that the text is read back as the identifier
that was written (`ofChars?_toChars`).  It holds lowercase digits and hyphens and nothing else.
-/

namespace Registrar.Uuid

open Text

/-! ## Digits -/

theorem length_hexDigits (count n : Nat) : (hexDigits count n).length = count := by
  induction count generalizing n with
  | zero => rfl
  | succ count ih => simp [hexDigits, ih]

theorem exists_of_mem_hexDigits {count n : Nat} {c : Char} (h : c ∈ hexDigits count n) :
    ∃ d < 16, c = hexDigit d := by
  induction count generalizing n with
  | zero => exact absurd h List.not_mem_nil
  | succ count ih =>
    rcases List.mem_append.mp h with hfront | hlast
    · exact ih hfront
    · exact ⟨n % 16, Nat.mod_lt n (by decide), List.mem_singleton.mp hlast⟩

theorem hexDigit_ne {d : Nat} (hd : d < 16) {c : Char} (hc : hexValue? c = none) :
    hexDigit d ≠ c := by
  rintro rfl
  rw [hexValue?_hexDigit hd] at hc
  cases hc

/-- The digits of a number are those of its upper part and those of its lower part. -/
theorem hexDigits_append (upper lower n : Nat) :
    hexDigits upper (n >>> (4 * lower)) ++ hexDigits lower n = hexDigits (upper + lower) n := by
  induction lower generalizing n with
  | zero => simp [hexDigits]
  | succ lower ih =>
    have hshift : n >>> (4 * (lower + 1)) = (n / 16) >>> (4 * lower) := by
      rw [Nat.mul_succ, Nat.add_comm, Nat.shiftRight_add, Nat.shiftRight_eq_div_pow n 4]
    rw [hexDigits, hshift, ← List.append_assoc, ih]
    rfl

theorem readHex?_append (s : List Char) (c : Char) :
    readHex? (s ++ [c]) = (readHex? s).bind fun n => (hexValue? c).map (16 * n + ·) := by
  simp [readHex?, List.foldlM_append]

theorem readHex?_hexDigits (count n : Nat) :
    readHex? (hexDigits count n) = some (n % 16 ^ count) := by
  induction count generalizing n with
  | zero => simp [hexDigits, readHex?, Nat.mod_one]
  | succ count ih =>
    have hdigit : n % 16 < 16 := Nat.mod_lt n (by decide)
    have hlower : n % 16 ^ (count + 1) = 16 * (n / 16 % 16 ^ count) + n % 16 := by
      rw [Nat.pow_succ', Nat.mod_mul, Nat.add_comm]
    rw [hexDigits, readHex?_append, ih, hexValue?_hexDigit hdigit, hlower]
    rfl

/-! ## Groups of digits -/

/-- The groups of digits that an identifier is written in. -/
def digitGroups (u : Uuid) : List (List Char) :=
  [hexDigits 8 (u.toNat >>> 96), hexDigits 4 (u.toNat >>> 80), hexDigits 4 (u.toNat >>> 64),
    hexDigits 4 (u.toNat >>> 48), hexDigits 12 u.toNat]

variable (u : Uuid)

theorem toChars_eq_intercalate : u.toChars = ['-'].intercalate u.digitGroups := by
  simp [toChars, digitGroups]

theorem exists_of_mem_digitGroups {group : List Char} (hgroup : group ∈ u.digitGroups) {c : Char}
    (hc : c ∈ group) : ∃ d < 16, c = hexDigit d := by
  simp only [digitGroups, List.mem_cons, List.not_mem_nil, or_false] at hgroup
  rcases hgroup with rfl | rfl | rfl | rfl | rfl <;> exact exists_of_mem_hexDigits hc

theorem flatten_digitGroups : u.digitGroups.flatten = hexDigits 32 u.toNat := by
  have hlast := hexDigits_append 4 12 u.toNat
  have hfourth := hexDigits_append 4 16 u.toNat
  have hthird := hexDigits_append 4 20 u.toNat
  have hsecond := hexDigits_append 8 24 u.toNat
  rw [← hsecond, ← hthird, ← hfourth, ← hlast]
  simp [digitGroups]

theorem readHyphenated?_toChars : readHyphenated? u.toChars = some u := by
  have hhyphen : ∀ group ∈ u.digitGroups, '-' ∉ group := by
    intro group hgroup hmem
    obtain ⟨d, hd, heq⟩ := u.exists_of_mem_digitGroups hgroup hmem
    exact hexDigit_ne hd rfl heq.symm
  have hsplit : splitAt '-' u.toChars = u.digitGroups := by
    rw [toChars_eq_intercalate]
    exact splitAt_intercalate_self hhyphen
  have hlengths : u.digitGroups.map List.length = [8, 4, 4, 4, 12] := by
    simp [digitGroups, length_hexDigits]
  have hbound : u.toNat < 16 ^ 32 := u.bits.isLt
  rw [readHyphenated?, hsplit, if_pos hlengths, flatten_digitGroups, readHex?_hexDigits,
    Nat.mod_eq_of_lt hbound, Option.map_some, ofNat, toNat, BitVec.ofNat_toNat, BitVec.setWidth_eq]

theorem exists_toChars : ∃ d < 16, ∃ s, u.toChars = hexDigit d :: s ∧ '-' ∈ s := by
  cases hfirst : hexDigits 8 (u.toNat >>> 96) with
  | nil =>
    have hlength := length_hexDigits 8 (u.toNat >>> 96)
    rw [hfirst] at hlength
    cases hlength
  | cons c more =>
    have hmem : c ∈ hexDigits 8 (u.toNat >>> 96) := hfirst ▸ List.mem_cons_self
    obtain ⟨d, hd, rfl⟩ := exists_of_mem_hexDigits hmem
    rw [toChars, hfirst]
    exact ⟨d, hd, _, rfl, by simp⟩

/-- A text with a hyphen that begins neither with a brace nor with `u` can only be five groups. -/
theorem ofChars?_of_hyphen {c : Char} {s : List Char} (hbrace : c ≠ '\x7b') (hurn : c ≠ 'u')
    (hhyphen : '-' ∈ c :: s) : ofChars? (c :: s) = readHyphenated? (c :: s) := by
  have hphrase : "urn:uuid:".toList = 'u' :: "rn:uuid:".toList := rfl
  have hafter : afterPrefix? "urn:uuid:".toList (c :: s) = none := by
    rw [hphrase, afterPrefix?, if_neg (Ne.symm hurn)]
  have hcontains : (c :: s).contains '-' = true := List.contains_iff_mem.mpr hhyphen
  unfold ofChars?
  split
  · rename_i rest heq
    exact absurd (List.cons.inj heq).1 hbrace
  · rw [hafter, if_pos hcontains]

theorem ofChars?_toChars : ofChars? u.toChars = some u := by
  obtain ⟨d, hd, s, htext, hhyphen⟩ := u.exists_toChars
  have hread := u.readHyphenated?_toChars
  rw [htext] at hread ⊢
  rw [ofChars?_of_hyphen (hexDigit_ne hd rfl) (hexDigit_ne hd rfl) (List.mem_cons_of_mem _ hhyphen),
    hread]

/-! ## Characters of the text -/

theorem forall_mem_toText {P : Char → Prop} (hhyphen : P '-') (hdigits : ∀ d < 16, P (hexDigit d)) :
    ∀ c ∈ u.toText.toList, P c := by
  intro c hc
  rw [toText, String.toList_ofList, toChars_eq_intercalate] at hc
  rcases mem_intercalate hc with hjoint | ⟨group, hgroup, hc⟩
  · rwa [List.mem_singleton.mp hjoint]
  · obtain ⟨d, hd, rfl⟩ := u.exists_of_mem_digitGroups hgroup hc
    exact hdigits d hd

theorem notMem_toText {c : Char} (hvalue : hexValue? c = none) (hhyphen : c ≠ '-') :
    c ∉ u.toText.toList := by
  intro hmem
  have hne : ∀ other ∈ u.toText.toList, other ≠ c :=
    u.forall_mem_toText (Ne.symm hhyphen) fun d hd => hexDigit_ne hd hvalue
  exact hne c hmem rfl

theorem closing_notMem_toText : ')' ∉ u.toText.toList :=
  u.notMem_toText rfl (by decide)

theorem comma_notMem_toText : ',' ∉ u.toText.toList :=
  u.notMem_toText rfl (by decide)

theorem isBlank_of_mem_toText : ∀ c ∈ u.toText.toList, isBlank c = false :=
  u.forall_mem_toText (by decide) (by decide)

end Registrar.Uuid
