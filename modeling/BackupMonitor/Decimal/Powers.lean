/-!
# Powers of ten and of two
-/

namespace BackupMonitor

/-- The power of ten with that exponent. -/
def tenTo (exponent : Nat) : Nat :=
  Nat.pow 10 exponent

/-- The power of two with that exponent. -/
def twoTo (exponent : Nat) : Nat :=
  Nat.pow 2 exponent

theorem tenTo_succ (n : Nat) : tenTo (n + 1) = tenTo n * 10 := rfl

theorem tenTo_pos (n : Nat) : 0 < tenTo n :=
  Nat.pow_pos (by decide)

end BackupMonitor
