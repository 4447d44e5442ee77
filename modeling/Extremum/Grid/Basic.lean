import Extremum.Fault

/-!
# Grids

A grid holds numbers in any number of dimensions. Its entries are kept in one list in which the last
index moves fastest.
-/

namespace Extremum

/-- The number of cells of a shape. -/
def cellCount (shape : List Nat) : Nat := shape.foldr (· * ·) 1

/-- Entries arranged in a shape, one for each cell. -/
structure Grid (α : Type) where
  shape : List Nat
  entries : List α
  filled : entries.length = cellCount shape

namespace Grid

def size {α : Type} (g : Grid α) : Nat := g.entries.length

/-- A list as a grid of one dimension. -/
def ofList {α : Type} (entries : List α) : Grid α where
  shape := [entries.length]
  entries := entries
  filled := by simp [cellCount]

def map {α β : Type} (f : α → β) (g : Grid α) : Grid β where
  shape := g.shape
  entries := g.entries.map f
  filled := by rw [List.length_map, g.filled]

/-- The grid has one dimension, in which it holds `n` entries. -/
def isVector {α : Type} (g : Grid α) (n : Nat) : Bool := g.shape == [n]

/-- A grid without dimensions becomes a list of its one entry; others stay. -/
def atLeastOne {α : Type} (g : Grid α) : Grid α :=
  if g.shape = [] then ofList g.entries else g

end Grid

end Extremum
