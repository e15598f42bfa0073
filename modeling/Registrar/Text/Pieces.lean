/-!
# Cutting text

Text is cut at a separator, at a known beginning or at a known end.  Cutting at
a separator loses nothing: the pieces joined by it give the text again.
-/

namespace Registrar.Text

/-- The pieces of a text between the occurrences of one character; a text
without it is one piece. -/
def splitAt (sep : Char) : List Char → List (List Char)
  | [] => [[]]
  | c :: rest =>
    if c = sep then [] :: splitAt sep rest
    else
      match splitAt sep rest with
      | [] => [[c]]
      | piece :: pieces => (c :: piece) :: pieces

def joinWith (sep : List Char) : List (List Char) → List Char
  | [] => []
  | [piece] => piece
  | piece :: pieces => piece ++ sep ++ joinWith sep pieces

/-- What follows the beginning `p`, if the text begins so. -/
def afterPrefix? : (p s : List Char) → Option (List Char)
  | [], s => some s
  | _ :: _, [] => none
  | c :: p, d :: s => if c = d then afterPrefix? p s else none

/-- What precedes the end `e`, if the text ends so. -/
def beforeSuffix? (e s : List Char) : Option (List Char) :=
  (afterPrefix? e.reverse s.reverse).map List.reverse

theorem splitAt_ne_nil (sep : Char) (s : List Char) : splitAt sep s ≠ [] := by
  induction s with
  | nil => simp [splitAt]
  | cons c rest ih =>
    simp only [splitAt]
    split
    · simp
    · split <;> simp

theorem joinWith_cons (sep piece : List Char) {pieces : List (List Char)}
    (h : pieces ≠ []) :
    joinWith sep (piece :: pieces) = piece ++ sep ++ joinWith sep pieces := by
  cases pieces with
  | nil => exact absurd rfl h
  | cons next rest => rfl

theorem joinWith_splitAt (sep : Char) (s : List Char) :
    joinWith [sep] (splitAt sep s) = s := by
  induction s with
  | nil => rfl
  | cons c rest ih =>
    simp only [splitAt]
    by_cases hc : c = sep
    · rw [if_pos hc, joinWith_cons _ _ (splitAt_ne_nil sep rest), ih, hc]
      rfl
    · rw [if_neg hc]
      cases hrest : splitAt sep rest with
      | nil => exact absurd hrest (splitAt_ne_nil sep rest)
      | cons piece pieces =>
        rw [hrest] at ih
        cases pieces with
        | nil => simpa [joinWith] using ih
        | cons next more => simpa [joinWith] using ih

theorem afterPrefix?_append (p s : List Char) :
    afterPrefix? p (p ++ s) = some s := by
  induction p with
  | nil => rfl
  | cons c p ih => simp [afterPrefix?, ih]

theorem eq_append_of_afterPrefix? {p s rest : List Char}
    (h : afterPrefix? p s = some rest) : s = p ++ rest := by
  induction p generalizing s with
  | nil => simpa [afterPrefix?] using h
  | cons c p ih =>
    cases s with
    | nil => simp [afterPrefix?] at h
    | cons d s =>
      simp only [afterPrefix?] at h
      split at h
      next heq => rw [heq, ih h]; rfl
      next => cases h

theorem afterPrefix?_eq_some_iff {p s rest : List Char} :
    afterPrefix? p s = some rest ↔ s = p ++ rest :=
  ⟨eq_append_of_afterPrefix?, fun h => h ▸ afterPrefix?_append p rest⟩

theorem beforeSuffix?_eq_some_iff {e s rest : List Char} :
    beforeSuffix? e s = some rest ↔ s = rest ++ e := by
  simp only [beforeSuffix?, Option.map_eq_some_iff, afterPrefix?_eq_some_iff]
  constructor
  · rintro ⟨r, hr, rfl⟩
    have hs := congrArg List.reverse hr
    simpa using hs
  · rintro rfl
    exact ⟨rest.reverse, by simp, by simp⟩

end Registrar.Text
