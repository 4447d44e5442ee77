import Extremum.Proofs.Number.Sign
import Extremum.Proofs.Numeric.Course

/-!
# Maximizing is minimizing the negative

A problem that is maximized and the problem of minimizing the negative of its objective are given to
a minimizer in the same way: the requests are the same, and so are the replies to all questions. So
their solves end in the same way, and only the reported objective values differ, by their sign.
-/

namespace Extremum

/-! ## The negated problem -/

namespace UnifiedEvaluator

variable {u u' : UnifiedEvaluator}

/-- Another evaluator gives the negative of the objective, and else what this one gives. -/
structure Negates (u u' : UnifiedEvaluator) : Prop where
  offered : u'.offered = u.offered
  objective : u'.objectiveAnswer = u.objectiveAnswer.map (.unary .neg)
  answers : u'.answers = u.answers

theorem length_answers_eq (u : UnifiedEvaluator) : u.answers.length = u.constraintCount := by
  rw [UnifiedEvaluator.answers, List.length_append, length_innerAnswers, List.length_map]
  rfl

def withNegative (u : UnifiedEvaluator) (e : Expr) : UnifiedEvaluator :=
  { u with objective := some (.unary .neg e) }

/-- Whatever the objective comes from, its negative can take its place. -/
theorem negates_withNegative {e : Expr} (h : u.objectiveAnswer = .ok e) :
    u.Negates (u.withNegative e) where
  offered := rfl
  objective := by
    rw [h]
    rfl
  answers := rfl

theorem Negates.constraintCount (h : u.Negates u') : u'.constraintCount = u.constraintCount := by
  rw [← length_answers_eq, ← length_answers_eq, h.answers]

end UnifiedEvaluator

/-- The problem of minimizing the negative of the objective. -/
def Problem.minimizing (p : Problem) (u : UnifiedEvaluator) (h : p.evaluator.Negates u) : Problem :=
  { p with
    direction := .minimize
    evaluator := u
    evaluator_count := h.constraintCount.trans p.evaluator_count }

def SolverResult.negated (r : SolverResult) : SolverResult := { r with objective := -r.objective }

namespace Numeric

variable {s : Settings} {m : Method} {minimizer : Minimizer} {p : Problem} {b : VariableBounds}
  {f : Functions} {u : UnifiedEvaluator} {hu : p.evaluator.Negates u}

/-! ## Replies -/

namespace Functions

/-- The functions with the negative of the objective, which is minimized. -/
def negated (f : Functions) : Functions :=
  { f with
    objective := fun x => return -(← f.objective x)
    sign := Direction.minimize.sign }

/-- A reply is to be minimized, so it is the same for the negative of what is maximized. -/
theorem reply_negated (hsign : f.sign = Direction.maximize.sign) (q : Question)
    (c : ConstraintCache) : f.negated.reply q c = f.reply q c := by
  cases q with
  | row i x => rfl
  | values x => rfl
  | objective x =>
      simp only [reply, negated, hsign]
      cases f.objective x with
      | error fault => rfl
      | ok y => exact congrArg (fun y => (Except.ok [y], c)) (Number.one_mul_neg y)

end Functions

/-- A run depends on the replies only. -/
theorem Dialogue.run_congr {α : Type} {f f' : Functions} (h : ∀ q c, f'.reply q c = f.reply q c)
    (c : ConstraintCache) (d : Dialogue α) : d.run f' c = d.run f c := by
  induction d generalizing c with
  | finish result => rfl
  | fail fault => rfl
  | ask q next ih => rw [run, run, h, ih]

/-- The dialogue that a request leads to, and so the exchange, is the same. -/
theorem run_negated (hsign : f.sign = Direction.maximize.sign) (r : Request) :
    (minimizer r).run f.negated .empty = (minimizer r).run f .empty :=
  Dialogue.run_congr (Functions.reply_negated hsign) .empty (minimizer r)

theorem course_minimizing (hsign : f.sign = Direction.maximize.sign) :
    course s m minimizer (p.minimizing u hu) b f.negated = course s m minimizer p b f := by
  unfold course
  simp only [run_negated hsign]
  rfl

/-! ## Functions of the negated problem -/

theorem compile_neg (x : Except Fault Expr) :
    (x.map (.unary .neg) >>= Expr.compile) =
      (x >>= Expr.compile).map fun g x => return -(← g x) := by
  cases x with
  | error fault => rfl
  | ok e =>
      show Expr.compile (.unary .neg e) = e.compile.map _
      rw [Expr.compile]
      cases e.compile <;> rfl

/-- Where one problem has functions, the other has their negative, or both fail alike. -/
theorem answeredFunctions_minimizing :
    answeredFunctions (p.minimizing u hu) = (answeredFunctions p).map Functions.negated := by
  have hconstraints : constraintAnswer u = constraintAnswer p.evaluator := by
    funext i
    rw [constraintAnswer, constraintAnswer, hu.answers]
  simp only [answeredFunctions, Problem.minimizing, hu.offered, hu.objective, hconstraints,
    compile_neg]
  cases p.evaluator.offered with
  | error fault => rfl
  | ok names =>
      by_cases hoffered : expressionGraphs ∈ names
      · simp only [bind, Except.bind, hoffered, not_true, ↓reduceIte]
        cases p.evaluator.objectiveAnswer with
        | error fault => rfl
        | ok e =>
            dsimp only
            cases e.compile with
            | error fault => rfl
            | ok g =>
                cases (List.range p.constraintCount).mapM (constraintAnswer p.evaluator) <;> rfl
      · simp only [bind, Except.bind, hoffered, not_false_eq_true, ↓reduceIte]
        rfl

theorem preparedFunctions_minimizing : preparedFunctions m (p.minimizing u hu) =
    (preparedFunctions m p).map fun (b, f) => (b, f.negated) := by
  have hfeatures : m.checkFeatures (p.minimizing u hu) = m.checkFeatures p := rfl
  have hbounds : checkedBounds m (p.minimizing u hu) = checkedBounds m p := rfl
  rw [preparedFunctions, preparedFunctions, hfeatures, hbounds, answeredFunctions_minimizing]
  cases m.checkFeatures p with
  | error fault => rfl
  | ok v =>
      cases checkedBounds m p with
      | error fault => rfl
      | ok b => cases answeredFunctions p <;> rfl

theorem sign_of_preparedFunctions (h : preparedFunctions m p = .ok (b, f)) :
    f.sign = p.direction.sign := by
  obtain ⟨_, -, h⟩ := bind_eq_ok.1 h
  obtain ⟨_, -, h⟩ := bind_eq_ok.1 h
  obtain ⟨_, hf, h⟩ := bind_eq_ok.1 h
  cases pure_eq_ok.1 h
  exact (answeredFunctions_eq_ok hf).2.2.1

/-! ## Results -/

theorem Functions.assessment_negated (f : Functions) (points : List (List Float))
    (x : Grid Float) : f.negated.assessment (p.minimizing u hu) b points x =
      (f.assessment p b points x).map fun (y, violation) => (-y, violation) := by
  have hvalues : f.negated.judgedValues points x.entries = f.judgedValues points x.entries := rfl
  simp only [assessment, hvalues]
  simp only [negated]
  cases f.objective x.entries with
  | error fault => rfl
  | ok y =>
      cases x.violation b.lower b.upper with
      | error fault => rfl
      | ok outside =>
          cases f.judgedValues points x.entries with
          | error fault => rfl
          | ok values =>
              show (Grid.violation _ p.constraintLower p.constraintUpper >>= _) =
                (Grid.violation _ p.constraintLower p.constraintUpper >>= _).map _
              cases (Grid.ofList values).violation p.constraintLower p.constraintUpper <;> rfl

/-- A point is judged by the objective to be minimized, which is the same for both problems. -/
theorem concluded_minimizing (hsign : f.sign = Direction.maximize.sign)
    (points : List (List Float)) (o : Outcome) :
    concluded (p.minimizing u hu) b f.negated points o =
      (concluded p b f points o).map SolverResult.negated := by
  have hpoint : outcomePoint (p.minimizing u hu) o = outcomePoint p o := rfl
  -- the status is told from the value to be minimized, the report has the objective itself
  have hobjective (y : Float) : f.negated.sign * -y = f.sign * y := by
    rw [hsign]
    exact Number.one_mul_neg y
  simp only [concluded, hpoint, Functions.assessment_negated]
  cases outcomePoint p o with
  | error fault => rfl
  | ok x =>
      show ((f.assessment p b points x).map _ >>= _) = (f.assessment p b points x >>= _).map _
      cases f.assessment p b points x with
      | error fault => rfl
      | ok assessed =>
          cases o.message with
          | none => rfl
          | some message =>
              show Except.ok
                (SolverResult.mk (o.status (f.negated.sign * -assessed.1) _).symbol _ _) = _
              rw [hobjective]
              rfl

theorem ended_minimizing (hsign : f.sign = Direction.maximize.sign) (c : Conclusion Outcome) :
    c.ended m (p.minimizing u hu) b f.negated =
      (c.ended m p b f).map SolverResult.negated := by
  unfold Conclusion.ended
  cases c.result with
  | error fault => rfl
  | ok o => exact concluded_minimizing hsign _ o

/-! ## Solves of both problems -/

/-- Both problems have functions with the same replies, or neither has any, for the same fault. -/
def SameReplies : Except Fault Functions → Except Fault Functions → Prop
  | .ok f, .ok f' => ∀ q c, f'.reply q c = f.reply q c
  | .error fault, .error fault' => fault' = fault
  | _, _ => False

variable {st st' : SolveState}

/--
The problem of minimizing the negative of an objective that is maximized leads to the same request,
the same replies to all questions, and the same exchange with the minimizer. Both solves fail with
the same fault, or have results with the same status and the same point, whose objective values are
negatives of each other.
-/
theorem solve_minimizing (hdirection : p.direction = .maximize) (hu : p.evaluator.Negates u)
    (hst : p.evaluator.Queried st.evaluator) (hst' : u.Queried st'.evaluator)
    (hexchange : st'.exchange = st.exchange) :
    request s m (p.minimizing u hu) = request s m p ∧
    SameReplies (resultOf (functions p st.evaluator))
      (resultOf (functions (p.minimizing u hu) st'.evaluator)) ∧
    exchangeAfter (solve s m minimizer (p.minimizing u hu) st') =
      exchangeAfter (solve s m minimizer p st) ∧
    resultOf (solve s m minimizer (p.minimizing u hu) st') =
      (resultOf (solve s m minimizer p st)).map SolverResult.negated := by
  have hst' : (p.minimizing u hu).evaluator.Queried st'.evaluator := hst'
  have hsign : ∀ {b f}, preparedFunctions m p = .ok (b, f) →
      f.sign = Direction.maximize.sign :=
    fun hf => (sign_of_preparedFunctions hf).trans (congrArg Direction.sign hdirection)
  refine ⟨rfl, ?_, ?_, ?_⟩
  · rw [resultOf_functions hst, resultOf_functions hst', answeredFunctions_minimizing]
    cases hf : answeredFunctions p with
    | error fault => rfl
    | ok f =>
        exact Functions.reply_negated
          ((answeredFunctions_eq_ok hf).2.2.1.trans (congrArg Direction.sign hdirection))
  · rw [exchangeAfter_solve_eq hst, exchangeAfter_solve_eq hst', preparedFunctions_minimizing,
      hexchange]
    cases hf : preparedFunctions m p with
    | error fault => rfl
    | ok bf =>
        simp only [Except.map, exchange, run_negated (hsign hf)]
        rfl
  · rw [resultOf_solve_eq hst, resultOf_solve_eq hst', preparedFunctions_minimizing]
    cases hf : preparedFunctions m p with
    | error fault => rfl
    | ok bf =>
        show (course s m minimizer (p.minimizing u hu) bf.1 bf.2.negated >>= _) =
          (course s m minimizer p bf.1 bf.2 >>= _).map _
        rw [course_minimizing (hsign hf)]
        cases course s m minimizer p bf.1 bf.2 with
        | error fault => rfl
        | ok c => exact ended_minimizing (hsign hf) c

/-- A model of one variable, the double of which is maximized. -/
def doubled : Model :=
  Model.empty.performAll [.addVariable,
    .setObjective (.function (.affine [⟨2, ⟨1⟩⟩] 0)) (.text "max")]

/-- At one, the maximum is reported with the double, and the minimum with its negative. -/
theorem solve_minimizing_doubled :
    ∃ p e r, doubled.problem = .ok p ∧ p.direction = .maximize ∧
      p.evaluator.objectiveAnswer = .ok e ∧
      ∃ hu : p.evaluator.Negates (p.evaluator.withNegative e),
        resultOf (solve .default .slsqp (probing [1] fun _ => .finish (success [1])) p
          ⟨.initial, [], none⟩) = .ok r ∧
        resultOf (solve .default .slsqp (probing [1] fun _ => .finish (success [1]))
          (p.minimizing _ hu) ⟨.initial, [], none⟩) = .ok r.negated := by
  obtain ⟨p, e, r, hp, hdirection, he, hresult⟩ : ∃ p e r, doubled.problem = .ok p ∧
      p.direction = .maximize ∧ p.evaluator.objectiveAnswer = .ok e ∧
      resultOf (solve .default .slsqp (probing [1] fun _ => .finish (success [1])) p
        ⟨.initial, [], none⟩) = .ok r := ⟨_, _, _, rfl, rfl, rfl, rfl⟩
  have hu := UnifiedEvaluator.negates_withNegative he
  refine ⟨p, e, r, hp, hdirection, he, hu, hresult, ?_⟩
  rw [(solve_minimizing hdirection hu (.fresh []) (.fresh []) rfl).2.2.2]
  exact congrArg _ hresult

end Numeric

end Extremum
