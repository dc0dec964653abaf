import DisplayInventory.Decimal.Binary
import DisplayInventory.Text.Layout

/-!
# Numbers with two decimal places

A clock is known in thousandths of the unit in which it is shown.  It is divided as a binary
fraction and then rounded to hundredths: exact ties go to the even hundredth, and a value whose
decimal expansion ends halfway goes where its binary fraction lies.
-/

namespace DisplayInventory.Decimal

/-- `thousandths / 1000` in hundredths. -/
def hundredths (thousandths : Nat) : Nat :=
  (Binary.nearest thousandths 1000).rounded 100

def showHundredths (n : Nat) : String :=
  Text.decimal (n / 100) ++ "." ++ Text.decimal (n % 100 / 10) ++ Text.decimal (n % 10)

def showThousandths (thousandths : Nat) : String :=
  showHundredths (hundredths thousandths)

end DisplayInventory.Decimal
