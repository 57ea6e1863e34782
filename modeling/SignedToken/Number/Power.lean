/-!
# Powers of two and of ten
-/

namespace SignedToken.Power

def ofTwo (exponent : Nat) : Nat := Nat.pow 2 exponent

def ofTen (exponent : Nat) : Nat := Nat.pow 10 exponent

end SignedToken.Power
