/-!
# Arithmetic on single-precision bits

The sum, the product and the square root of numbers that are given by their bits. A NaN among the
operands is the result, the first one before the second, and it is made quiet; an operation on
other numbers that has no result answers one fixed NaN.
-/

namespace NativeBridge.SinglePrecision

def isNaN (bits : UInt32) : Bool := bits &&& 0x7fffffff > 0x7f800000

def quieted (bits : UInt32) : UInt32 := bits ||| 0x00400000

def invalid : UInt32 := 0xffc00000

def bitsOf (result : Float32) : UInt32 := if result.isNaN then invalid else result.toBits

def unary (f : Float32 → Float32) (a : UInt32) : UInt32 :=
  if isNaN a then quieted a else bitsOf (f (.ofBits a))

def binary (f : Float32 → Float32 → Float32) (a b : UInt32) : UInt32 :=
  if isNaN a then quieted a
  else if isNaN b then quieted b
  else bitsOf (f (.ofBits a) (.ofBits b))

def add (a b : UInt32) : UInt32 := binary (· + ·) a b

def mul (a b : UInt32) : UInt32 := binary (· * ·) a b

def sqrt (a : UInt32) : UInt32 := unary Float32.sqrt a

end NativeBridge.SinglePrecision
