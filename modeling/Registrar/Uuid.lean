import Registrar.Text.Hex
import Registrar.Text.Pieces

/-!
# Identifiers

Every row and every unit of work has an identifier of 128 bits.  Identifiers
are ordered as numbers, which is the order of their bytes.  They are written as
five groups of lowercase hexadecimal digits; they are read in that form, also
inside braces or after `urn:uuid:`, and without the hyphens, in either case.
-/

namespace Registrar

structure Uuid where
  bits : BitVec 128
  deriving DecidableEq, Inhabited

namespace Uuid

open Text

def ofNat (n : Nat) : Uuid :=
  ⟨BitVec.ofNat 128 n⟩

def toNat (u : Uuid) : Nat :=
  u.bits.toNat

instance : LT Uuid where
  lt u v := u.toNat < v.toNat

instance : LE Uuid where
  le u v := u.toNat ≤ v.toNat

instance (u v : Uuid) : Decidable (u < v) :=
  inferInstanceAs (Decidable (u.toNat < v.toNat))

instance (u v : Uuid) : Decidable (u ≤ v) :=
  inferInstanceAs (Decidable (u.toNat ≤ v.toNat))

theorem toNat_inj {u v : Uuid} : u.toNat = v.toNat ↔ u = v := by
  cases u
  cases v
  simp [toNat, BitVec.toNat_inj]

/-- The lowest `count` hexadecimal digits of a number. -/
def hexDigits : (count n : Nat) → List Char
  | 0, _ => []
  | count + 1, n => hexDigits count (n / 16) ++ [hexDigit (n % 16)]

/-- The written form, hyphenated in lowercase. -/
def toChars (u : Uuid) : List Char :=
  let n := u.toNat
  hexDigits 8 (n >>> 96) ++ '-' :: hexDigits 4 (n >>> 80) ++
    '-' :: hexDigits 4 (n >>> 64) ++ '-' :: hexDigits 4 (n >>> 48) ++
    '-' :: hexDigits 12 n

def toText (u : Uuid) : String :=
  String.ofList u.toChars

def readHex? (s : List Char) : Option Nat :=
  s.foldlM (fun n c => (hexValue? c).map (16 * n + ·)) 0

/-- Reads exactly 32 hexadecimal digits. -/
def readPlain? (s : List Char) : Option Uuid :=
  if s.length = 32 then (readHex? s).map ofNat else none

/-- Reads five groups of 8, 4, 4, 4 and 12 digits. -/
def readHyphenated? (s : List Char) : Option Uuid :=
  let groups := splitAt '-' s
  if groups.map List.length = [8, 4, 4, 4, 12] then
    (readHex? groups.flatten).map ofNat
  else none

def ofChars? (s : List Char) : Option Uuid :=
  match s with
  | '\x7b' :: rest => beforeSuffix? ['\x7d'] rest >>= readHyphenated?
  | _ =>
    match afterPrefix? "urn:uuid:".toList s with
    | some rest => readHyphenated? rest
    | none => if s.contains '-' then readHyphenated? s else readPlain? s

def ofText? (s : String) : Option Uuid :=
  ofChars? s.toList

end Uuid

end Registrar
