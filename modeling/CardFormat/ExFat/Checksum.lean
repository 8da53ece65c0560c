/-
This file holds the checksum of exFAT: the sum is rotated right by one bit before
each byte is added. It can be taken in parts, each continued from the sum so far.
-/

namespace CardFormat.ExFat

/-- One byte more. -/
def addByte (sum : UInt32) (byte : UInt8) : UInt32 :=
  ((sum >>> 1) ||| (sum <<< 31)) + byte.toUInt32

/-- The checksum of the bytes, continued from a sum. -/
def checksum (sum : UInt32) (bytes : List UInt8) : UInt32 :=
  bytes.foldl addByte sum

/-- Taking the checksum in two parts is taking it at once. -/
theorem checksum_append (sum : UInt32) (first second : List UInt8) :
    checksum sum (first ++ second) = checksum (checksum sum first) second :=
  List.foldl_append

end CardFormat.ExFat
