import Registrar.Text.Digits

/-!
# Phone numbers

A phone number is written in its international form: a plus sign, a digit that
is not zero, and seven to fourteen more digits, with nothing before or after.
-/

namespace Registrar

def isPhone (s : String) : Bool :=
  match s.toList with
  | '+' :: first :: rest =>
    '1' ≤ first && first ≤ '9' && rest.all Text.isDigit &&
      7 ≤ rest.length && rest.length ≤ 14
  | _ => false

end Registrar
