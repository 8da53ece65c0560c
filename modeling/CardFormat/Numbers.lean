/-
This file settles which powers and sums of natural numbers are meant: those of the core
library, also where the numbers are known to form a monoid.
-/

attribute [instance(high), default_instance high+1] instPowNat

attribute [instance(high)] instAddNat Zero.ofOfNat0
