import EnvProvision.Decimal.Shortest

namespace EnvProvision.Yaml

inductive Value where
  | null
  | bool (b : Bool)
  | int (i : Int)
  | float (x : Binary64)
  | text (s : String)
  | sequence (items : List Value)
  | mapping (entries : List (Value × Value))
  | tagged (tag : String) (content : Value)

namespace Value

-- Numbers are written without an exponent from 0.00001 up to below 10^16, and a whole one ends in
-- `.0`.
def layout : DecimalLayout where
  firstPlain := -4
  lastPlain := 16
  wholeSuffix := ".0"
  exponentMark := "e"
  zero := "0.0"
  infinity := ".inf"
  nan := ".nan"

def scalarText? : Value → Option String
  | null => some ""
  | bool b => some (if b then "true" else "false")
  | int i => some (toString i)
  | float x => some (layout.write x)
  | text s => some s
  | tagged _ content => content.scalarText?
  | sequence _ | mapping _ => none

mutual

def same : Value → Value → Bool
  | null, null => true
  | bool a, bool b => a = b
  | int a, int b => a = b
  | float a, float b => a.sameValue b
  | text a, text b => a = b
  | sequence as, sequence bs => sameItems as bs
  | mapping as, mapping bs => as.length = bs.length && includedIn as bs
  | tagged t a, tagged u b => t = u && same a b
  | _, _ => false

def sameItems : List Value → List Value → Bool
  | [], [] => true
  | a :: as, b :: bs => same a b && sameItems as bs
  | _, _ => false

def includedIn : List (Value × Value) → List (Value × Value) → Bool
  | [], _ => true
  | (key, value) :: rest, bs =>
    bs.any (fun (k, v) => same key k && same value v) && includedIn rest bs

end

end Value

end EnvProvision.Yaml
