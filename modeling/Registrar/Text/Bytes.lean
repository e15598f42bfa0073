/-!
# Bytes as text

A directory name or a stored column arrives as bytes.  Well-formed UTF-8 is
read exactly; for display, every longest ill-formed piece is shown as one
replacement character.
-/

namespace Registrar.Text

/-- The text whose UTF-8 form the bytes are. -/
def ofBytes? (bytes : List UInt8) : Option String :=
  String.fromUTF8? ⟨bytes.toArray⟩

/-- The UTF-8 form of a text. -/
def toBytes (s : String) : List UInt8 :=
  s.toByteArray.data.toList

theorem ofBytes?_eq_some_iff {bytes : List UInt8} {s : String} :
    ofBytes? bytes = some s ↔ toBytes s = bytes := by
  unfold ofBytes? String.fromUTF8?
  split
  case isTrue hvalid =>
    rw [Option.some_inj]
    constructor
    · rintro rfl
      exact List.toList_toArray
    · rintro rfl
      exact String.toByteArray_inj.mp rfl
  case isFalse hinvalid =>
    simp only [reduceCtorEq, false_iff]
    rintro rfl
    exact hinvalid s.isValidUTF8

/-- How many continuation bytes a leading byte asks for, and the range its
first continuation byte must lie in. -/
def leadShape? (b : UInt8) : Option (Nat × UInt8 × UInt8) :=
  if 0xC2 ≤ b && b ≤ 0xDF then some (1, 0x80, 0xBF)
  else if b == 0xE0 then some (2, 0xA0, 0xBF)
  else if b == 0xED then some (2, 0x80, 0x9F)
  else if 0xE1 ≤ b && b ≤ 0xEF then some (2, 0x80, 0xBF)
  else if b == 0xF0 then some (3, 0x90, 0xBF)
  else if b == 0xF4 then some (3, 0x80, 0x8F)
  else if 0xF1 ≤ b && b ≤ 0xF3 then some (3, 0x80, 0xBF)
  else none

/-- The continuation bytes found, at most `count` of them. -/
def continuation (count : Nat) (low high : UInt8) : List UInt8 → List UInt8
  | [] => []
  | b :: rest =>
    match count with
    | 0 => []
    | n + 1 =>
      if low ≤ b && b ≤ high then b :: continuation n 0x80 0xBF rest else []

def scalarOf (count : Nat) (lead : UInt8) (more : List UInt8) : Char :=
  let first := lead.toNat % (1 <<< (6 - count))
  Char.ofNat (more.foldl (fun n b => 64 * n + b.toNat % 64) first)

/-- Text for display. -/
def display (bytes : List UInt8) : List Char :=
  match bytes with
  | [] => []
  | b :: rest =>
    if b < 0x80 then Char.ofNat b.toNat :: display rest
    else
      match leadShape? b with
      | none => '\uFFFD' :: display rest
      | some (count, low, high) =>
        let more := continuation count low high rest
        let c := if more.length = count then scalarOf count b more else '\uFFFD'
        c :: display (rest.drop more.length)
termination_by bytes.length
decreasing_by all_goals simp only [List.length_drop, List.length_cons]; omega

end Registrar.Text
