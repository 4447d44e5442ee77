import Extremum.Expr.Evaluation
import Extremum.Proofs.Success

/-!
# What can be compiled

A comparison is not compiled by its own parts but as what it constrains, which may be a difference
that is built on the way. This comes to an end, as an expression weighs more than all that is
compiled for it. Building differences adds no references and no foreign objects, so these stand in
the way of compiling exactly if they occur in the expression itself.
-/

namespace Extremum

namespace Expr

variable {α : Type} {e d : Expr} {fault : Fault}

/-! ## What occurs in an expression -/

mutual

/-- All that occurs in an expression, from left to right, and each before what occurs in it. -/
def parts : Expr α → List (Expr α)
  | constant c => [constant c]
  | position p => [position p]
  | reference v => [reference v]
  | sum terms => sum terms :: partsAll terms
  | product factors => product factors :: partsAll factors
  | unary f a => unary f a :: a.parts
  | binary f a b => binary f a b :: (a.parts ++ b.parts)
  | comparison r a b => comparison r a b :: (a.parts ++ b.parts)
  | interval l e u => interval l e u :: e.parts
  | foreign object => [foreign object]

def partsAll : List (Expr α) → List (Expr α)
  | [] => []
  | e :: rest => e.parts ++ partsAll rest

end

theorem partsAll_eq_flatMap (es : List (Expr α)) : partsAll es = es.flatMap parts := by
  induction es with
  | nil => rfl
  | cons e es ih => rw [partsAll, ih, List.flatMap_cons]

/-- No reference to a variable of a model and no foreign object occurs in an expression. -/
def IsResolved (e : Expr α) : Prop :=
  (∀ v, reference v ∉ e.parts) ∧ ∀ object, foreign object ∉ e.parts

/-! ## What stands in the way -/

/-- The fault of an expression that cannot be compiled, whatever its parts are. -/
def obstacle? : Expr α → Option Fault
  | reference _ => some .unresolvedReference
  | foreign object => some (.unsupportedNode object.kind)
  | _ => none

/-- The faults of all that cannot be compiled in an expression. -/
def obstacles (e : Expr α) : List Fault := e.parts.filterMap obstacle?

theorem obstacles_eq_nil {e : Expr α} : e.obstacles = [] ↔ e.IsResolved := by
  rw [obstacles, List.filterMap_eq_nil_iff]
  constructor
  · intro h
    refine ⟨fun v hv => ?_, fun object hobject => ?_⟩
    · cases h _ hv
    · cases h _ hobject
  · intro h d hd
    cases d with
    | reference v => exact absurd hd (h.1 v)
    | foreign object => exact absurd hd (h.2 object)
    | _ => rfl

@[simp] theorem obstacles_constant (c : α) : (constant c).obstacles = [] := rfl

@[simp] theorem obstacles_sum (terms : List (Expr α)) :
    (sum terms).obstacles = terms.flatMap obstacles := by
  rw [obstacles, parts, partsAll_eq_flatMap, List.filterMap_cons_none rfl, List.filterMap_flatMap]
  rfl

@[simp] theorem obstacles_product (factors : List (Expr α)) :
    (product factors).obstacles = factors.flatMap obstacles := by
  rw [obstacles, parts, partsAll_eq_flatMap, List.filterMap_cons_none rfl, List.filterMap_flatMap]
  rfl

@[simp] theorem obstacles_unary (f : UnaryFunction) (a : Expr α) :
    (unary f a).obstacles = a.obstacles := rfl

@[simp] theorem obstacles_binary (f : BinaryFunction) (a b : Expr α) :
    (binary f a b).obstacles = a.obstacles ++ b.obstacles := by
  rw [obstacles, parts, List.filterMap_cons_none rfl, List.filterMap_append]
  rfl

@[simp] theorem obstacles_comparison (r : Comparator) (a b : Expr α) :
    (comparison r a b).obstacles = a.obstacles ++ b.obstacles := by
  rw [obstacles, parts, List.filterMap_cons_none rfl, List.filterMap_append]
  rfl

/-- A comparison with something other than a constant constrains a difference. -/
theorem body_comparison {r : Comparator} {a b : Expr} (hb : ∀ c, b ≠ constant c) :
    (comparison r a b).body = sum [a, product [constant (-1), b]] := by
  cases b with
  | constant c => exact absurd rfl (hb c)
  | _ => rfl

/-- What a comparison constrains has the obstacles of the comparison. -/
theorem obstacles_body (e : Expr) : e.body.obstacles = e.obstacles := by
  cases e with
  | comparison r a b => cases b <;> simp [body]
  | _ => rfl

/-! ## Prerequisites -/

/--
The expressions that are compiled in order to compile an expression. For a comparison this is what
it constrains.
-/
def prerequisites : Expr → List Expr
  | sum terms => terms
  | product factors => factors
  | unary _ a => [a]
  | binary _ a b => [a, b]
  | comparison r a b => [(comparison r a b).body]
  | interval l e u => [(interval l e u).body]
  | _ => []

mutual

/-- More than is needed for the parts: a comparison outweighs the difference that it constrains. -/
def weight : Expr → Nat
  | sum terms => weightAll terms + 1
  | product factors => weightAll factors + 1
  | unary _ a => a.weight + 1
  | binary _ a b => a.weight + b.weight + 1
  | comparison _ a b => a.weight + b.weight + 3
  | interval _ e _ => e.weight + 1
  | _ => 0

def weightAll : List Expr → Nat
  | [] => 0
  | e :: rest => e.weight + weightAll rest

end

theorem weight_le_of_mem {es : List Expr} (h : d ∈ es) : d.weight ≤ weightAll es := by
  induction es with
  | nil => cases h
  | cons e es ih =>
      rw [weightAll]
      rcases List.mem_cons.1 h with rfl | h
      · omega
      · have := ih h
        omega

theorem weight_body_lt {r : Comparator} {a b : Expr} :
    (comparison r a b).body.weight < (comparison r a b).weight := by
  cases b <;> simp only [body, weight, weightAll] <;> omega

theorem weight_lt_of_prerequisite (h : d ∈ e.prerequisites) : d.weight < e.weight := by
  cases e with
  | constant | position | reference | foreign => cases h
  | sum terms => exact Nat.lt_succ_of_le (weight_le_of_mem h)
  | product factors => exact Nat.lt_succ_of_le (weight_le_of_mem h)
  | unary f a =>
      rw [List.mem_singleton.1 h]
      exact Nat.lt_succ_self _
  | binary f a b =>
      rw [weight]
      rcases List.mem_pair.1 h with rfl | rfl <;> omega
  | comparison r a b =>
      rw [List.mem_singleton.1 h]
      exact weight_body_lt
  | interval l e u =>
      rw [List.mem_singleton.1 h]
      exact Nat.lt_succ_self _

theorem wellFounded_prerequisites : WellFounded fun d e : Expr => d ∈ e.prerequisites :=
  Subrelation.wf weight_lt_of_prerequisite (InvImage.wf weight Nat.lt_wfRel.wf)

/-- Nothing stands in the way of an expression but what stands in the way of its prerequisites. -/
theorem obstacles_eq_flatMap (h : e.obstacle? = none) :
    e.obstacles = e.prerequisites.flatMap obstacles := by
  cases e with
  | constant | position => rfl
  | reference | foreign => cases h
  | sum terms => exact obstacles_sum terms
  | product factors => exact obstacles_product factors
  | unary f a => simp [prerequisites]
  | binary f a b => simp [prerequisites]
  | comparison r a b => rw [prerequisites, List.flatMap_singleton, obstacles_body]
  | interval l e u => rw [prerequisites, List.flatMap_singleton, obstacles_body]

/-! ## Compiling -/

theorem compileAll_eq_mapM (es : List Expr) : compileAll es = es.mapM compile := by
  induction es with
  | nil => rfl
  | cons e es ih => rw [compileAll, ih, List.mapM_cons]

theorem compile_comparison {r : Comparator} {a b : Expr} (hb : ∀ c, b ≠ constant c) :
    (comparison r a b).compile = (do
      let a ← a.compile
      let b ← b.compile
      return sumAt [a, productAt [fun _ => .ok (-1), b]]) := by
  cases b with
  | constant c => exact absurd rfl (hb c)
  | _ => rfl

/-- A comparison is compiled as what it constrains. -/
theorem compile_body (e : Expr) : e.body.compile = e.compile := by
  cases e with
  | comparison r a b =>
      by_cases hb : ∃ c, b = constant c
      · obtain ⟨c, rfl⟩ := hb
        rfl
      · rw [not_exists] at hb
        rw [body_comparison hb, compile_comparison hb]
        simp only [compile, compileAll]
        cases a.compile <;> cases b.compile <;> rfl
  | _ => rfl

/-- An expression that can be compiled for itself fails as its prerequisites do. -/
theorem compile_eq_error_of_prerequisites (h : e.obstacle? = none) :
    e.compile = .error fault ↔ e.prerequisites.mapM compile = .error fault := by
  have hone : ∀ d : Expr, [d].mapM compile = .error fault ↔ d.compile = .error fault :=
    fun d => bind_pure_eq_error
  cases e with
  | constant | position => exact iff_of_false nofun nofun
  | reference | foreign => cases h
  | sum terms =>
      rw [compile, compileAll_eq_mapM, bind_pure_eq_error]
      rfl
  | product factors =>
      rw [compile, compileAll_eq_mapM, bind_pure_eq_error]
      rfl
  | unary f a => rw [compile, prerequisites, hone, bind_pure_eq_error]
  | binary f a b =>
      rw [compile, prerequisites, List.mapM_cons, bind_eq_error, bind_eq_error]
      simp only [bind_pure_eq_error, hone]
  | comparison r a b => rw [prerequisites, hone, compile_body]
  | interval l e u => rw [prerequisites, hone, compile_body]

/-- The first obstacle decides the fault. -/
theorem compile_eq_error : e.compile = .error fault ↔ e.obstacles.head? = some fault := by
  induction e using wellFounded_prerequisites.induction generalizing fault with
  | _ e ih =>
    cases hobstacle : e.obstacle? with
    | none =>
        rw [compile_eq_error_of_prerequisites hobstacle, obstacles_eq_flatMap hobstacle]
        exact mapM_eq_error_iff fun d hd fault => ih d hd
    | some fault' =>
        cases e with
        | reference v => simp [obstacles, obstacle?, compile, parts]
        | foreign object => simp [obstacles, obstacle?, compile, parts]
        | _ => cases hobstacle

/-- An expression can be compiled if and only if it is resolved. -/
theorem exists_compile_iff : (∃ g, e.compile = .ok g) ↔ e.IsResolved := by
  rw [← obstacles_eq_nil, ← List.head?_eq_none_iff]
  cases hcompile : e.compile with
  | ok g =>
      refine iff_of_true ⟨g, rfl⟩ ?_
      cases hhead : e.obstacles.head? with
      | none => rfl
      | some fault => cases hcompile.symm.trans (compile_eq_error.2 hhead)
  | error fault =>
      rw [compile_eq_error.1 hcompile]
      exact iff_of_false nofun nofun

end Expr

end Extremum
