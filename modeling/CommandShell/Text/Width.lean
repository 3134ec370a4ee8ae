/-
# Numbers of a width

A word of some bits holds as many numbers as there are patterns of its bits.  Half of them are below
zero where the numbers have a sign.
-/
namespace CommandShell.Width

/-- How many numbers a word of so many bits holds. -/
def values (bits : Nat) : Nat := Nat.pow 2 bits

/-- The least number with a sign that a word of so many bits holds. -/
def least (bits : Nat) : Int := -(values (bits - 1) : Int)

/-- The greatest number with a sign that a word of so many bits holds. -/
def greatest (bits : Nat) : Int := (values (bits - 1) : Int) - 1

/-- Whether a word of so many bits holds a number with a sign. -/
def holds (bits : Nat) (n : Int) : Bool := least bits ≤ n && n ≤ greatest bits

/-- The number with a sign whose lowest bits are those of a whole number. -/
def wrap (bits : Nat) (n : Int) : Int := Int.bmod n (values bits)

/-- The number nearest to a whole number that a word with a sign holds. -/
def clamp (bits : Nat) (n : Int) : Int := max (least bits) (min n (greatest bits))

/-- The lowest bits of a whole number. -/
def lowest (bits : Nat) (n : Int) : Nat := (n % (values bits : Int)).toNat

end CommandShell.Width
