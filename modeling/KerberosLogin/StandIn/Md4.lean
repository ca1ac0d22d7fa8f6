import KerberosLogin.StandIn.ByteOrder

/-! # The message digest MD4

A message is padded to blocks of 64 bytes: a byte `0x80`, zeros, and its size in bits.
Four registers take the blocks in one after the other, each in three rounds of sixteen
operations, and are the digest in the end.
-/

namespace KerberosLogin

namespace StandIn

namespace Md4

/-- The four registers. -/
structure Registers where
  a : UInt32
  b : UInt32
  c : UInt32
  d : UInt32

/-- What the registers hold before the first block. -/
def initial : Registers := ⟨0x67452301, 0xEFCDAB89, 0x98BADCFE, 0x10325476⟩

/-- What distinguishes a round. -/
structure Round where
  /-- How three registers are mixed. -/
  mix : UInt32 → UInt32 → UInt32 → UInt32
  constant : UInt32
  /-- The words of the block in the order in which they are used. -/
  order : List Nat
  /-- How far four operations in a row rotate. -/
  shifts : List UInt32

/-- The rounds. -/
def rounds : List Round :=
  [⟨fun x y z => (x &&& y) ||| (~~~x &&& z), 0,
      [0, 1, 2, 3, 4, 5, 6, 7, 8, 9, 10, 11, 12, 13, 14, 15], [3, 7, 11, 19]⟩,
    ⟨fun x y z => (x &&& y) ||| (x &&& z) ||| (y &&& z), 0x5A827999,
      [0, 4, 8, 12, 1, 5, 9, 13, 2, 6, 10, 14, 3, 7, 11, 15], [3, 5, 9, 13]⟩,
    ⟨fun x y z => x ^^^ y ^^^ z, 0x6ED9EBA1,
      [0, 8, 4, 12, 2, 10, 6, 14, 1, 9, 5, 13, 3, 11, 7, 15], [3, 9, 11, 15]⟩]

/-- Moves the bits of a word up; what falls out comes in below. -/
def rotate (word shift : UInt32) : UInt32 :=
  (word <<< shift) ||| (word >>> (32 - shift))

namespace Registers

/-- One operation with a word. The registers change places, so that the next operation
works on the next one of them. -/
def operate (round : Round) (registers : Registers) (word shift : UInt32) : Registers :=
  let sum := registers.a + round.mix registers.b registers.c registers.d + word + round.constant
  ⟨registers.d, rotate sum shift, registers.b, registers.c⟩

/-- A round over the words of a block. -/
def passThrough (block : List UInt32) (registers : Registers) (round : Round) : Registers :=
  let shifts := (List.replicate 4 round.shifts).flatten
  (round.order.zip shifts).foldl
    (fun registers (place, shift) => registers.operate round (block.getD place 0) shift) registers

/-- Takes a block in. -/
def absorb (registers : Registers) (block : List UInt32) : Registers :=
  let mixed := rounds.foldl (passThrough block) registers
  ⟨registers.a + mixed.a, registers.b + mixed.b, registers.c + mixed.c, registers.d + mixed.d⟩

/-- The bytes of the registers. -/
def toBytes (registers : Registers) : Bytes :=
  [registers.a, registers.b, registers.c, registers.d].flatMap fun word =>
    littleEndian 4 word.toNat

end Registers

/-- How many bytes a block has. -/
def blockSize : Nat := 64

/-- How many zeros a message of some size is padded with. -/
def fillSize (size : Nat) : Nat := (blockSize - (size + 9) % blockSize) % blockSize

/-- A message with what makes it whole blocks. -/
def pad (message : Bytes) : Bytes :=
  message ++ 0x80 :: List.replicate (fillSize message.length) 0
    ++ littleEndian 8 (8 * message.length)

/-- The words of whole blocks. -/
def words : Bytes → List UInt32
  | a :: b :: c :: d :: rest => UInt32.ofNat (ofLittleEndian [a, b, c, d]) :: words rest
  | _ => []

/-- The digest of a message. -/
def digest (message : Bytes) : Bytes :=
  let padded := pad message
  let block (number : Nat) := words ((padded.drop (blockSize * number)).take blockSize)
  ((List.range (padded.length / blockSize)).foldl
    (fun registers number => registers.absorb (block number)) initial).toBytes

/-- How many bytes a digest has. -/
def size : Nat := 16

end Md4

end StandIn

end KerberosLogin
