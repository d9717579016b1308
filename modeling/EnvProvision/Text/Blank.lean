namespace EnvProvision.Text

-- White space outside ASCII: next line, the no-break space, and the spaces and separators of the
-- blocks from Ogham to CJK punctuation.
def isWideBlank (c : Char) : Bool :=
  let n := c.toNat
  n == 0x85 || n == 0xA0 || n == 0x1680 || (0x2000 ≤ n && n ≤ 0x200A) ||
    n == 0x2028 || n == 0x2029 || n == 0x202F || n == 0x205F || n == 0x3000

-- The Unicode property `White_Space`.
def isBlank (c : Char) : Bool :=
  (0x09 ≤ c.toNat && c.toNat ≤ 0x0D) || c == ' ' || isWideBlank c

def trimStart (cs : List Char) : List Char :=
  cs.dropWhile isBlank

def trimEnd (cs : List Char) : List Char :=
  (cs.reverse.dropWhile isBlank).reverse

def trim (cs : List Char) : List Char :=
  trimEnd (trimStart cs)

-- The property is wider than the six characters that the standard library calls white space.
example : isBlank '\x0b' && isBlank '\u2009' && isBlank '\u3000' && !isBlank '\u180e' &&
    !isBlank '\ufeff' := by decide

end EnvProvision.Text
