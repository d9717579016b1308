import EnvProvision.Program.Options

namespace EnvProvision.Program

namespace Digest

def bigEndian (size n : Nat) : Bytes :=
  (List.range size).map fun k => (n / Nat.pow 256 (size - 1 - k)).toUInt8

def littleEndian (size n : Nat) : Bytes :=
  (bigEndian size n).reverse

def ofBigEndian (bytes : Bytes) : UInt32 :=
  bytes.foldl (fun n b => n * 256 + b.toUInt32) 0

def ofLittleEndian (bytes : Bytes) : UInt32 :=
  ofBigEndian bytes.reverse

def hexText (bytes : Bytes) : String :=
  String.ofList (bytes.flatMap fun b =>
    [Nat.digitChar (b.toNat / 16), Nat.digitChar (b.toNat % 16)])

def rotateLeft (x : UInt32) (n : Nat) : UInt32 :=
  (x <<< n.toUInt32) ||| (x >>> (32 - n).toUInt32)

-- Fill a text up to blocks of 64 bytes: a set bit, zeros, and its number of bits.
def filled (encode : Nat → Nat → Bytes) (bytes : Bytes) : Bytes :=
  let zeros := (119 - bytes.length % 64) % 64
  bytes ++ 0x80 :: List.replicate zeros 0 ++ encode 8 (8 * bytes.length)

def blocks (decode : Bytes → UInt32) (bytes : Bytes) : List (Array UInt32) :=
  (List.range (bytes.length / 64)).map fun n =>
    let block := (bytes.drop (64 * n)).take 64
    ((List.range 16).map fun k => decode ((block.drop (4 * k)).take 4)).toArray

def word (words : Array UInt32) (n : Nat) : UInt32 :=
  words.getD n 0

-- Five words that are mixed; not all digests need the last one.
structure Mixed where
  a : UInt32
  b : UInt32
  c : UInt32
  d : UInt32
  e : UInt32 := 0

def Mixed.add (x y : Mixed) : Mixed :=
  ⟨x.a + y.a, x.b + y.b, x.c + y.c, x.d + y.d, x.e + y.e⟩

def Mixed.start : Mixed :=
  ⟨0x67452301, 0xefcdab89, 0x98badcfe, 0x10325476, 0xc3d2e1f0⟩

def sineWords : Array UInt32 := #[
  0xd76aa478, 0xe8c7b756, 0x242070db, 0xc1bdceee, 0xf57c0faf, 0x4787c62a, 0xa8304613, 0xfd469501,
  0x698098d8, 0x8b44f7af, 0xffff5bb1, 0x895cd7be, 0x6b901122, 0xfd987193, 0xa679438e, 0x49b40821,
  0xf61e2562, 0xc040b340, 0x265e5a51, 0xe9b6c7aa, 0xd62f105d, 0x02441453, 0xd8a1e681, 0xe7d3fbc8,
  0x21e1cde6, 0xc33707d6, 0xf4d50d87, 0x455a14ed, 0xa9e3e905, 0xfcefa3f8, 0x676f02d9, 0x8d2a4c8a,
  0xfffa3942, 0x8771f681, 0x6d9d6122, 0xfde5380c, 0xa4beea44, 0x4bdecfa9, 0xf6bb4b60, 0xbebfbc70,
  0x289b7ec6, 0xeaa127fa, 0xd4ef3085, 0x04881d05, 0xd9d4d039, 0xe6db99e5, 0x1fa27cf8, 0xc4ac5665,
  0xf4292244, 0x432aff97, 0xab9423a7, 0xfc93a039, 0x655b59c3, 0x8f0ccc92, 0xffeff47d, 0x85845dd1,
  0x6fa87e4f, 0xfe2ce6e0, 0xa3014314, 0x4e0811a1, 0xf7537e82, 0xbd3af235, 0x2ad7d2bb, 0xeb86d391]

def mixMd5 (block : Array UInt32) (m : Mixed) (n : Nat) : Mixed :=
  let (f, place, turns) :=
    match n / 16 with
    | 0 => ((m.b &&& m.c) ||| ((~~~ m.b) &&& m.d), n, [7, 12, 17, 22])
    | 1 => ((m.d &&& m.b) ||| ((~~~ m.d) &&& m.c), 5 * n + 1, [5, 9, 14, 20])
    | 2 => (m.b ^^^ m.c ^^^ m.d, 3 * n + 5, [4, 11, 16, 23])
    | _ => (m.c ^^^ (m.b ||| (~~~ m.d)), 7 * n, [6, 10, 15, 21])
  let sum := m.a + f + word sineWords n + word block (place % 16)
  { a := m.d, b := m.b + rotateLeft sum (turns.getD (n % 4) 0), c := m.b, d := m.c }

def md5 (bytes : Bytes) : Bytes :=
  let m := (blocks ofLittleEndian (filled littleEndian bytes)).foldl
    (fun (m : Mixed) block => m.add ((List.range 64).foldl (mixMd5 block) m)) Mixed.start
  [m.a, m.b, m.c, m.d].flatMap fun w => littleEndian 4 w.toNat

def mixSha1 (words : Array UInt32) (m : Mixed) (n : Nat) : Mixed :=
  let (f, k) : UInt32 × UInt32 :=
    match n / 20 with
    | 0 => ((m.b &&& m.c) ||| ((~~~ m.b) &&& m.d), 0x5a827999)
    | 1 => (m.b ^^^ m.c ^^^ m.d, 0x6ed9eba1)
    | 2 => ((m.b &&& m.c) ||| (m.b &&& m.d) ||| (m.c &&& m.d), 0x8f1bbcdc)
    | _ => (m.b ^^^ m.c ^^^ m.d, 0xca62c1d6)
  let sum := rotateLeft m.a 5 + f + m.e + k + word words n
  { a := sum, b := m.a, c := rotateLeft m.b 30, d := m.c, e := m.d }

def sha1 (bytes : Bytes) : Bytes :=
  let m := (blocks ofBigEndian (filled bigEndian bytes)).foldl (fun (m : Mixed) block =>
    let words := (List.range 64).foldl (fun words k =>
      let n := k + 16
      let w := word words (n - 3) ^^^ word words (n - 8) ^^^ word words (n - 14) ^^^
        word words (n - 16)
      words.push (rotateLeft w 1)) block
    m.add ((List.range 80).foldl (mixSha1 words) m)) Mixed.start
  [m.a, m.b, m.c, m.d, m.e].flatMap fun w => bigEndian 4 w.toNat

def cubeRootWords : Array UInt32 := #[
  0x428a2f98, 0x71374491, 0xb5c0fbcf, 0xe9b5dba5, 0x3956c25b, 0x59f111f1, 0x923f82a4, 0xab1c5ed5,
  0xd807aa98, 0x12835b01, 0x243185be, 0x550c7dc3, 0x72be5d74, 0x80deb1fe, 0x9bdc06a7, 0xc19bf174,
  0xe49b69c1, 0xefbe4786, 0x0fc19dc6, 0x240ca1cc, 0x2de92c6f, 0x4a7484aa, 0x5cb0a9dc, 0x76f988da,
  0x983e5152, 0xa831c66d, 0xb00327c8, 0xbf597fc7, 0xc6e00bf3, 0xd5a79147, 0x06ca6351, 0x14292967,
  0x27b70a85, 0x2e1b2138, 0x4d2c6dfc, 0x53380d13, 0x650a7354, 0x766a0abb, 0x81c2c92e, 0x92722c85,
  0xa2bfe8a1, 0xa81a664b, 0xc24b8b70, 0xc76c51a3, 0xd192e819, 0xd6990624, 0xf40e3585, 0x106aa070,
  0x19a4c116, 0x1e376c08, 0x2748774c, 0x34b0bcb5, 0x391c0cb3, 0x4ed8aa4a, 0x5b9cca4f, 0x682e6ff3,
  0x748f82ee, 0x78a5636f, 0x84c87814, 0x8cc70208, 0x90befffa, 0xa4506ceb, 0xbef9a3f7, 0xc67178f2]

def rotateRight (x : UInt32) (n : Nat) : UInt32 :=
  rotateLeft x (32 - n)

def mixSha256 (words : Array UInt32) (state : Mixed × Mixed) (n : Nat) : Mixed × Mixed :=
  let (m, k) := state
  let high := rotateRight m.a 2 ^^^ rotateRight m.a 13 ^^^ rotateRight m.a 22
  let low := rotateRight k.a 6 ^^^ rotateRight k.a 11 ^^^ rotateRight k.a 25
  let majority := (m.a &&& m.b) ^^^ (m.a &&& m.c) ^^^ (m.b &&& m.c)
  let choice := (k.a &&& k.b) ^^^ ((~~~ k.a) &&& k.c)
  let sum := k.d + low + choice + word cubeRootWords n + word words n
  (⟨sum + high + majority, m.a, m.b, m.c, 0⟩, ⟨m.d + sum, k.a, k.b, k.c, 0⟩)

def sha256 (bytes : Bytes) : Bytes :=
  let start : Mixed × Mixed :=
    (⟨0x6a09e667, 0xbb67ae85, 0x3c6ef372, 0xa54ff53a, 0⟩,
      ⟨0x510e527f, 0x9b05688c, 0x1f83d9ab, 0x5be0cd19, 0⟩)
  let (m, k) := (blocks ofBigEndian (filled bigEndian bytes)).foldl (fun state block =>
    let words := (List.range 48).foldl (fun words j =>
      let n := j + 16
      let (x, y) := (word words (n - 15), word words (n - 2))
      let s := rotateRight x 7 ^^^ rotateRight x 18 ^^^ (x >>> 3)
      let t := rotateRight y 17 ^^^ rotateRight y 19 ^^^ (y >>> 10)
      words.push (word words (n - 16) + s + word words (n - 7) + t)) block
    let mixed := (List.range 64).foldl (mixSha256 words) state
    (state.1.add mixed.1, state.2.add mixed.2)) start
  [m.a, m.b, m.c, m.d, k.a, k.b, k.c, k.d].flatMap fun w => bigEndian 4 w.toNat

def mixCrc (n : UInt32) (b : UInt8) : UInt32 :=
  (List.range 8).foldl (fun n k =>
    let bit := (b >>> (7 - k).toUInt8) &&& 1
    let top := (n >>> 31) ^^^ bit.toUInt32
    (n <<< 1) ^^^ (if top = 1 then 0x04c11db7 else 0)) n

-- The check sum of a text and of its length, which is written in as few bytes as it takes.
def crc (bytes : Bytes) : UInt32 :=
  let size := (List.range 8).filterMap fun k =>
    let rest := bytes.length / Nat.pow 256 k
    if rest = 0 then none else some rest.toUInt8
  ~~~ ((bytes ++ size).foldl mixCrc 0)

def turnedSum (bytes : Bytes) : Nat :=
  bytes.foldl (fun n b => (n / 2 + (n % 2) * 32768 + b.toNat) % 65536) 0

end Digest

def digestProgram (digest : Bytes → Bytes) : Program :=
  withOptions { flags := "bt" } 1 fun given i =>
    let s := sources i given.operands
    let mark := if given.has 'b' then " *" else "  "
    s.finish (.ofUnits (String.join (s.contents.map fun (path, content) =>
      Digest.hexText (digest content) ++ mark ++ path ++ "\n"))) 1

def cksum : Program :=
  withOptions {} 1 fun given i =>
    let s := sources i given.operands
    s.finish (.ofUnits (String.join (s.contents.map fun (path, content) =>
      let name := if given.operands.isEmpty then "" else " " ++ path
      s!"{(Digest.crc content).toNat} {content.length}{name}\n"))) 1

def sum : Program :=
  withOptions { flags := "r" } 1 fun given i =>
    let s := sources i given.operands
    let digits (width n : Nat) (fill : Char) : String :=
      let text := toString n
      String.ofList (List.replicate (width - text.length) fill) ++ text
    s.finish (.ofUnits (String.join (s.contents.map fun (path, content) =>
      let name := if given.operands.isEmpty then "" else " " ++ path
      let blocks := (content.length + 1023) / 1024
      digits 5 (Digest.turnedSum content) '0' ++ " " ++ digits 5 blocks ' ' ++ name ++ "\n"))) 1

end EnvProvision.Program
