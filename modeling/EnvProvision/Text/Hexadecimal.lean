namespace EnvProvision.Text

def hexDigit? (c : Char) : Option Nat :=
  if c.isDigit then some (c.toNat - '0'.toNat)
  else if 'a' ≤ c ∧ c ≤ 'f' then some (c.toNat - 'a'.toNat + 10)
  else if 'A' ≤ c ∧ c ≤ 'F' then some (c.toNat - 'A'.toNat + 10)
  else none

example : hexDigit? '7' = some 7 ∧ hexDigit? 'c' = some 12 ∧ hexDigit? 'F' = some 15 ∧
    hexDigit? 'g' = none := by decide

end EnvProvision.Text
