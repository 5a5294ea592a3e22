/-
The ranges of words of a fixed width.
-/

namespace CachingGateway.Word

def greatest16 : Nat := 65535
def greatest32 : Nat := 4294967295
def greatest64 : Nat := 18446744073709551615

def greatestSigned32 : Nat := 2147483647
def greatestSigned64 : Nat := 9223372036854775807

end CachingGateway.Word
