import EnvProvision.Program.Filters

namespace EnvProvision.Program

-- Digits that stand for a number of bits each. So many of them are filled up to a whole group.
structure DigitSystem where
  digits : List Char
  bits : Nat
  group : Nat

namespace DigitSystem

def base64 : DigitSystem where
  digits := "ABCDEFGHIJKLMNOPQRSTUVWXYZabcdefghijklmnopqrstuvwxyz0123456789+/".toList
  bits := 6
  group := 4

def base32 : DigitSystem where
  digits := "ABCDEFGHIJKLMNOPQRSTUVWXYZ234567".toList
  bits := 5
  group := 8

def bitsOf (size n : Nat) : List Bool :=
  (List.range size).map fun k => n / Nat.pow 2 (size - 1 - k) % 2 = 1

def ofBits (bits : List Bool) : Nat :=
  bits.foldl (fun n bit => 2 * n + if bit then 1 else 0) 0

def encode (system : DigitSystem) (bytes : Bytes) : List Char :=
  let bits := bytes.flatMap fun b => bitsOf 8 b.toNat
  let digits := (piecesOf system.bits bits).map fun piece =>
    let filled := piece ++ List.replicate (system.bits - piece.length) false
    (system.digits[ofBits filled]?).getD '='
  digits ++ List.replicate ((system.group - digits.length % system.group) % system.group) '='

-- The bytes that digits write, as far as they do, and whether they do so to their end.
def decode (system : DigitSystem) (cs : List Char) : Bytes × Bool :=
  let digits := cs.takeWhile system.digits.contains
  let behind := cs.drop digits.length
  let bits := digits.flatMap fun c => bitsOf system.bits (system.digits.idxOf c)
  let bytes := (piecesOf 8 bits).filterMap fun piece =>
    if piece.length = 8 then some (ofBits piece).toUInt8 else none
  (bytes, behind.all (· == '=') && cs.length % system.group = 0)

end DigitSystem

def digitProgram (system : DigitSystem) : Program :=
  withOptions { flags := "di", valued := "w",
                names := [("decode", 'd'), ("wrap", 'w'),
                          ("ignore-garbage", 'i')] } 1 fun given i =>
    let s := sources i given.operands
    if given.has 'd' then
      let cs := (textOf s.whole).toList.filter fun c =>
        c != '\n' && (!given.has 'i' || c == '=' || system.digits.contains c)
      let (bytes, complete) := system.decode cs
      { s.finish bytes 1 with ending := .exited (if complete && s.complete then 0 else 1) }
    else
      match ((given.value? 'w').getD "76").toNat? with
      | none => .failure 1
      | some 0 => s.finish (.ofUnits (String.ofList (system.encode s.whole))) 1
      | some width =>
        let lines := piecesOf width (system.encode s.whole)
        s.finish (.ofUnits (String.join (lines.map fun line => String.ofList line ++ "\n"))) 1

-- How the items of a dump are written: as characters, or as numbers of some bytes each.
inductive DumpItem where
  | character
  | number (kind : Char) (size : Nat)
  deriving Repr, DecidableEq

namespace DumpItem

-- Read kinds of items such as `x1` or `c`. A number without a size has four bytes.
def read : Nat → List Char → Option (List DumpItem)
  | _, [] => some []
  | 0, _ :: _ => none
  | fuel + 1, 'c' :: rest => do return .character :: (← read fuel rest)
  | fuel + 1, kind :: rest =>
    if "doux".toList.contains kind then
      match rest with
      | size :: more =>
        if ['1', '2', '4', '8'].contains size then do
          return .number kind (size.toNat - '0'.toNat) :: (← read fuel more)
        else do return .number kind 4 :: (← read fuel rest)
      | [] => some [.number kind 4]
    else none

def size : DumpItem → Nat
  | .character => 1
  | .number _ size => size

def width : DumpItem → Nat
  | .character => 3
  | .number kind size =>
    let greatest := Nat.pow 256 size - 1
    match kind with
    | 'x' => 2 * size
    | 'o' => (Nat.toDigits 8 greatest).length
    | 'u' => (Nat.toDigits 10 greatest).length
    | _ => (Nat.toDigits 10 (greatest / 2)).length + 1

def characterText (b : UInt8) : String :=
  match b.toNat with
  | 0 => "\\0"
  | 7 => "\\a"
  | 8 => "\\b"
  | 9 => "\\t"
  | 10 => "\\n"
  | 11 => "\\v"
  | 12 => "\\f"
  | 13 => "\\r"
  | n =>
    if 32 ≤ n && n < 127 then (Char.ofNat n).toString
    else
      let digits := Nat.toDigits 8 n
      String.ofList (List.replicate (3 - digits.length) '0' ++ digits)

def text (item : DumpItem) (bytes : Bytes) : String :=
  match item with
  | .character => String.join (bytes.map fun b => " " ++ alignRight 3 (characterText b))
  | .number kind size =>
    let n := bytes.foldr (fun b n => 256 * n + b.toNat) 0
    let limit := Nat.pow 256 size
    let base := if kind = 'x' then 16 else if kind = 'o' then 8 else 10
    let digits := Nat.toDigits base n
    let digits :=
      if kind = 'd' && limit ≤ 2 * n then '-' :: Nat.toDigits 10 (limit - n)
      else if kind = 'x' || kind = 'o' then
        List.replicate (item.width - digits.length) '0' ++ digits
      else digits
    " " ++ alignRight item.width (String.ofList digits)

def row (item : DumpItem) (bytes : Bytes) : String :=
  String.join ((piecesOf item.size bytes).map item.text)

end DumpItem

def dumpWidth : Nat := 16

-- The rows of a dump with their places. A row that equals the one before is left out, and a mark
-- stands for all such rows.
def dumpRows (all : Bool) (rows : List Bytes) : List (Option (Nat × Bytes)) :=
  (rows.zipIdx.foldl (fun (written, last, skipping) (row, index) =>
    if !all && last == some row && row.length = dumpWidth then
      (if skipping then written else none :: written, last, true)
    else (some (index * dumpWidth, row) :: written, some row, false))
    (([] : List (Option (Nat × Bytes))), (none : Option Bytes), false)).1.reverse

def od : Program :=
  withOptions { flags := "cxbdov", valued := "AtNj",
                names := [("address-radix", 'A'), ("format", 't'), ("output-duplicates", 'v')] } 1
    fun given i =>
      let s := sources i given.operands
      let kinds := (given.options.filterMap fun (letter, value) =>
        match letter with
        | 't' => some value
        | 'c' => some "c"
        | 'x' => some "x2"
        | 'b' => some "o1"
        | 'd' => some "u2"
        | 'o' => some "o2"
        | _ => none)
      let kinds := String.join (if kinds.isEmpty then ["o2"] else kinds)
      match DumpItem.read kinds.length kinds.toList with
      | none => .failure 1
      | some items =>
        let number (letter : Char) : Option Nat := (given.value? letter).bind String.toNat?
        let bytes := s.whole.drop ((number 'j').getD 0)
        let bytes := (number 'N').elim bytes bytes.take
        let (base, width) :=
          match given.value? 'A' with
          | some "d" => (10, 7)
          | some "x" => (16, 6)
          | some "n" => (10, 0)
          | _ => (8, 7)
        let place (n : Nat) : String :=
          let digits := Nat.toDigits base (n + (number 'j').getD 0)
          if width = 0 then ""
          else String.ofList (List.replicate (width - digits.length) '0' ++ digits)
        let rows := dumpRows (given.has 'v') (piecesOf dumpWidth bytes)
        let lines := rows.flatMap fun
          | none => ["*\n"]
          | some (start, row) => items.zipIdx.map fun (item, index) =>
            (if index = 0 then place start else alignRight width "") ++ item.row row ++ "\n"
        let final := if width = 0 then [] else [place bytes.length ++ "\n"]
        s.finish (.ofUnits (String.join (lines ++ final))) 1

end EnvProvision.Program
