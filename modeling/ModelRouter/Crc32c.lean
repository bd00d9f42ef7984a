import ModelRouter.Base.Refusal

namespace ModelRouter.Crc32c

def kPolynomial : UInt32 := 0x82F63B78

def bitStep (value : UInt32) : UInt32 :=
  if value &&& 1 ≠ 0 then (value >>> 1) ^^^ kPolynomial else value >>> 1

def tableEntry (index : UInt32) : UInt32 :=
  (List.range 8).foldl (fun value _ => bitStep value) index

def update (state : UInt32) (byte : UInt8) : UInt32 :=
  tableEntry ((state ^^^ byte.toUInt32) &&& 0xFF) ^^^ (state >>> 8)

def crc32c (bytes : List UInt8) : UInt32 :=
  bytes.foldl update 0xFFFFFFFF ^^^ 0xFFFFFFFF

/-- The check value of the algorithm. -/
example : crc32c [0x31, 0x32, 0x33, 0x34, 0x35, 0x36, 0x37, 0x38, 0x39] = 0xE3069283 := by
  decide +kernel

end ModelRouter.Crc32c
