import RocksDBWrapper.Fluid.Decision

/-!
# Capacities in doubles

`GetCompactionTargetLevel` computes the capacity of a level with `pow`, two products and a quotient
in doubles, and converts it to a `long`. Below the precision all of them are exact. Above it the
capacity is off by the roundings, so the target level is that of exact arithmetic for every input
whose size is not within the roundings of the capacity, as long as a `long` holds the capacity. The
power itself is taken to be below the precision, where `pow` is exact.
-/

namespace RocksDBWrapper.Fluid

open Rounding

variable {cfg : Settings} {originLvl : Nat}

end RocksDBWrapper.Fluid
