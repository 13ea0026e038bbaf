import Vitae.Text.Utf8

/-!
The cyclic redundancy check of 32 bits with the reflected polynomial `0xedb88320`.
-/

namespace Vitae.Checksum

def polynomial : UInt32 := 0xedb88320

/-- One bit shifted out of the remainder. -/
def shift (c : UInt32) : UInt32 := if c &&& 1 = 1 then (c >>> 1) ^^^ polynomial else c >>> 1

def addByte (c : UInt32) (byte : UInt8) : UInt32 := Nat.repeat shift 8 (c ^^^ byte.toUInt32)

def crc32 (bytes : List UInt8) : UInt32 := bytes.foldl addByte 0xffffffff ^^^ 0xffffffff

end Vitae.Checksum
