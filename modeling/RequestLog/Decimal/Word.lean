/-!
The range of machine words of 64 bits.
-/

namespace RequestLog

namespace Word

def limit : Nat := 0x10000000000000000

def signedLimit : Nat := 0x8000000000000000

def isUnsigned (n : Nat) : Bool := n < limit

def isSigned (n : Int) : Bool := -(signedLimit : Int) ≤ n && n < signedLimit

end Word

end RequestLog
