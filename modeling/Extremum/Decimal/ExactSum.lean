/-!
# Exactly rounded sums

A running sum of floats is kept without error as a list of floats of increasing magnitude whose
binary digits do not overlap, its *partials*. Only reading off the total rounds. Infinite and NaN
summands are collected apart from the partials.
-/

namespace Extremum.Decimal

/-- Why a sum has no value. -/
inductive SumFault
  /-- A partial of finite summands became infinite. -/
  | overflow
  /-- Infinities of both signs were summed. -/
  | conflict
deriving DecidableEq, Repr

/-- A running sum. -/
structure RunningSum where
  /-- Non-overlapping parts of the finite summands, the smallest first. -/
  partials : List Float
  /-- The sum of the infinite and NaN summands. -/
  special : Float
  /-- The sum of the infinite summands. -/
  infinite : Float

def RunningSum.zero : RunningSum := ⟨[], 0, 0⟩

/-- The rounded sum of two floats, with the larger magnitude first, and its rounding error. -/
def twoSum (x y : Float) : Float × Float :=
  let (a, b) := if x.abs < y.abs then (y, x) else (x, y)
  let high := a + b
  (high, b - (high - a))

/-- Adds `x` to the partials: what is left over at each of them, and the carried sum. -/
def carry (x : Float) : List Float → List Float × Float
  | [] => ([], x)
  | p :: rest =>
    let (high, low) := twoSum x p
    let (kept, top) := carry high rest
    (if low != 0 then low :: kept else kept, top)

def RunningSum.add (s : RunningSum) (x : Float) : Except SumFault RunningSum :=
  let (kept, top) := carry x s.partials
  if top.isFinite then
    .ok { s with partials := if top == 0 then kept else kept ++ [top] }
  else if x.isFinite then .error .overflow
  else
    .ok { partials := [], special := s.special + x,
          infinite := if x.isInf then s.infinite + x else s.infinite }

/--
Sums partials, the largest first, until a rounding error is left: the sum, the error, the rest.
-/
def settle (high : Float) : List Float → Float × Float × List Float
  | [] => (high, 0, [])
  | p :: rest =>
    let total := high + p
    let low := p - (total - high)
    if low != 0 then (total, low, rest) else settle total rest

/--
Partials, the largest first, rounded to one float. When the error is half a unit in the last place
and the next partial has its sign, the total moves one unit in that direction.
-/
def roundPartials : List Float → Float
  | [] => 0
  | top :: rest =>
    match settle top rest with
    | (high, _, []) => high
    | (high, low, next :: _) =>
      if (low < 0 ∧ next < 0) ∨ (0 < low ∧ 0 < next) then
        let y := low * 2
        let moved := high + y
        if y == moved - high then moved else high
      else high

def RunningSum.total (s : RunningSum) : Except SumFault Float :=
  if s.special != 0 then
    if s.infinite.isNaN then .error .conflict else .ok s.special
  else .ok (roundPartials s.partials.reverse)

end Extremum.Decimal
