import Extremum.Numeric.Provider
import Extremum.Proofs.Numeric.Request
import Extremum.Proofs.Options.Reading

/-!
# What becomes of options

The options of the settings are read when an optimizer is made, and what they are read as is
forgotten. A minimizer is given the raw values. Those are the values that were read if and only if
each of them is null or of the type of its option as it stands.
-/

namespace Extremum

/-! ## Entries -/

namespace Entries

variable {name name' : String}

theorem lookup_replaced (entries : Entries) (name name' : String) (v : Value) :
    (entries.map fun e => if e.1 = name then (name, v) else e).lookup name' =
      if name' = name then (entries.lookup name').map fun _ => v else entries.lookup name' := by
  induction entries with
  | nil => simp
  | cons e entries ih =>
      obtain ⟨key, w⟩ := e
      by_cases hkey : name' = key
      · subst hkey
        by_cases hname : name' = name <;> simp [hname]
      · by_cases hname : key = name
        · subst hname
          simpa [List.lookup_cons, beq_false_of_ne hkey, hkey] using ih
        · simpa [List.lookup_cons, hname, beq_false_of_ne hkey] using ih

theorem lookup_insert (entries : Entries) (name name' : String) (v : Value) :
    (entries.insert name v).lookup name' =
      if name' = name then some v else entries.lookup name' := by
  have hany : entries.any (·.1 = name) = (entries.lookup name).isSome := by
    rw [Bool.eq_iff_iff, List.lookup_isSome_iff, List.any_eq_true]
    exact exists_congr fun e => and_congr_right fun _ => by simp [@eq_comm _ name]
  unfold insert
  rw [hany]
  by_cases hname : name' = name
  · subst hname
    cases hlookup : entries.lookup name' with
    | some w => simp [lookup_replaced, hlookup]
    | none => simp [List.lookup_append, hlookup]
  · cases hlookup : entries.lookup name with
    | some w => simp [lookup_replaced, hname]
    | none => simp [List.lookup_append, List.lookup_cons, hname, beq_false_of_ne hname]

end Entries

namespace Numeric

open OptionKind

variable {σ : Type} {s : Settings} {m : Method} {minimizer : Minimizer} {p : Problem}
  {keep : Exchange → σ → σ} {st : SolveState} {x : Exchange}
  {registry : Registry (SolverProvider σ)} {o : Optimizer} {given : Entries} {name : String}
  {v : Value}

/-! ## From settings to minimizers -/

/-- The options that a minimizer is given. -/
def Arguments.options : Arguments → Entries
  | .minimize _ _ options => options.getD []
  | .evolve _ options => options

theorem lookup_withOption (name name' : String) (v : Value) (options : Entries) :
    (withOption name v options).lookup name' =
      (options.lookup name').or (if name' = name then some v else none) := by
  unfold withOption
  by_cases hname : name' = name
  · subst hname
    cases hlookup : options.lookup name' <;> simp [List.lookup_append, hlookup]
  · split <;> simp [List.lookup_append, List.lookup_cons, beq_false_of_ne hname]

theorem lookup_givenOptions (s : Settings) (name : String) : (givenOptions s).lookup name =
    if name = "maxiter" then
      (s.maxIterations.map fun n => .int n).or ((s.options.getD []).lookup name)
    else (s.options.getD []).lookup name := by
  unfold givenOptions
  cases s.maxIterations with
  | none => simp
  | some n => simp [Entries.lookup_insert]

/-- A tolerance is an option of differential evolution, unless there is an option for it. -/
theorem lookup_arguments (s : Settings) (m : Method) (p : Problem) (name : String) :
    (arguments s m p).options.lookup name = ((givenOptions s).lookup name).or
      (if m = .differentialEvolution then
        (if name = "tol" then s.tolerance.map .float else none).or
          (if name = "polish" then some (.bool false) else none)
      else none) := by
  cases m with
  | differentialEvolution =>
      simp only [arguments, Arguments.options, lookup_withOption, ↓reduceIte]
      cases s.tolerance with
      | none => simp
      | some tolerance => simp [lookup_withOption, Option.or_assoc]
  | _ =>
      simp only [arguments, Arguments.options, reduceCtorEq, ↓reduceIte, Option.or_none]
      cases givenOptions s <;> rfl

/-! ## The schema -/

/-- Every method has a schema, in which all choices are among texts. -/
theorem exists_schema (m : Method) : ∃ schema, optionsSchema.method m.name = .ok schema ∧
    ∀ t ∈ schema.settable, t.2.isPlain = true := by
  cases m <;> exact ⟨_, rfl, by decide⟩

theorem name_of_ofName? (h : Method.ofName? name = some m) : m.name = name := by
  rw [Method.ofName?] at h
  have hname := List.find?_some h
  exact of_decide_eq_true hname

theorem selectedName_of_ofText (h : Method.ofText s.method = .ok m) :
    Method.selectedName s.method = m.name := by
  unfold Method.ofText at h
  cases hfound : Method.ofName? (Method.selectedName s.method) with
  | none =>
      rw [hfound] at h
      cases h
  | some m' =>
      rw [hfound] at h
      cases Except.ok.inj h
      exact (name_of_ofName? hfound).symm

theorem checkOptions_of_create
    (h : Optimizer.create registry s = .ok (o, provider minimizer keep)) :
    checkOptions s.method (s.options.map .dict) = .ok () := by
  obtain ⟨provider', -, h⟩ := bind_eq_ok.1 h
  obtain ⟨_, hcheck, h⟩ := bind_eq_ok.1 h
  cases pure_eq_ok.1 h
  exact hcheck

/-- The options that an optimizer is made with are read by the schema of the method. -/
theorem readOptions_of_create (h : Optimizer.create registry s = .ok (o, provider minimizer keep))
    (hm : Method.ofText s.method = .ok m) (hgiven : s.options = some given) :
    ∃ schema known, optionsSchema.method m.name = .ok schema ∧
      schema.readOptions (.dict given) = .ok known ∧ ∀ t ∈ schema.settable, t.2.isPlain = true := by
  obtain ⟨schema, hschema, hplain⟩ := exists_schema m
  have hcheck := checkOptions_of_create h
  rw [hgiven] at hcheck
  obtain ⟨known, hread, -⟩ := bind_eq_ok.1 hcheck
  obtain ⟨schema', hschema', hread⟩ := bind_eq_ok.1 hread
  rw [selectedName_of_ofText hm, hschema] at hschema'
  cases hschema'
  split at hread
  · cases hread
  · have hread : (schema.readOptions (.dict given)).mapError Fault.invalid = .ok known := hread
    cases hknown : schema.readOptions (.dict given) with
    | error issues =>
        rw [hknown] at hread
        cases hread
    | ok known' =>
        rw [hknown] at hread
        cases hread
        exact ⟨schema, known, hschema, hknown, hplain⟩

/-! ## Delivery -/

/-- How the options of some settings get from the schema of a method to a minimizer. -/
structure Delivers (s : Settings) (m : Method) (a : Arguments) : Prop where
  /-- The limit of iterations takes the place of an option for it. -/
  iterations : ∀ n, s.maxIterations = some n → a.options.lookup "maxiter" = some (.int n)
  /-- An option takes the place of the tolerance. -/
  tolerance : m = .differentialEvolution → a.options.lookup "tol" =
    ((s.options.getD []).lookup "tol").or (s.tolerance.map .float)
  /-- All options are read, but what arrives is the raw value. -/
  options : ∀ given, s.options = some given → ∃ schema known,
    optionsSchema.method m.name = .ok schema ∧ schema.readOptions (.dict given) = .ok known ∧
      ∀ name v, given.lookup name = some v → (name = "maxiter" → s.maxIterations = none) →
        ∃ t w, schema.settable.lookup name = some t ∧ known.lookup name = some w ∧
          a.options.lookup name = some v ∧ (IsKept v w ↔ v = .null ∨ t.admits v = true)

/--
A minimizer is given the options with which the optimizer was made. They arrive as they were read if
and only if none of them had to be converted.
-/
theorem delivers_of_solve (hcreate : Optimizer.create registry s = .ok (o, provider minimizer keep))
    (hm : Method.ofText s.method = .ok m) (hst : st.exchange = none)
    (h : exchangeAfter (solve s m minimizer p st) = some x) :
    Delivers s m x.request.arguments := by
  rw [arguments_of_solve hst h]
  refine ⟨fun n hn => ?_, fun hevolution => ?_, fun given hgiven => ?_⟩
  · rw [lookup_arguments, lookup_givenOptions, hn]
    rfl
  · rw [lookup_arguments, lookup_givenOptions, hevolution]
    simp
  · obtain ⟨schema, known, hschema, hread, hplain⟩ := readOptions_of_create hcreate hm hgiven
    refine ⟨schema, known, hschema, hread, fun name v hv hmaxiter => ?_⟩
    obtain ⟨t, w, ht, hw, hoption⟩ := MethodSchema.lookup_of_readOptions hread hv
    have ht' := hplain _ (mem_of_lookup_eq_some ht)
    refine ⟨t, w, ht, hw, ?_, isKept_iff ht' hoption⟩
    have harrives : (givenOptions s).lookup name = some v := by
      rw [lookup_givenOptions, hgiven]
      split
      · rename_i hname
        simp [hmaxiter hname, hv]
      · exact hv
    rw [lookup_arguments, harrives]
    rfl

def oneBackend : SolverProvider Unit := provider (claiming [1]) fun _ u => u

def oneRegistry : Registry (SolverProvider Unit) :=
  ⟨[(pluginName, plugin (claiming [1]) fun _ u => u)]⟩

/-- A flag is given as a number, and a tolerance as it should be. -/
def numericFlag : Settings :=
  ⟨"scipy/slsqp", none, some 5, some [("disp", .int 1), ("ftol", .float 0.5), ("maxiter", .int 9)]⟩

/-- The flag arrives as the number that it is not read as. -/
theorem delivers_numericFlag :
    ∃ o p x, Optimizer.create oneRegistry numericFlag = .ok (o, oneBackend) ∧
      oneEquality.problem = .ok p ∧
      exchangeAfter (solve numericFlag .slsqp (claiming [1]) p ⟨.initial, [], none⟩) = some x ∧
      Delivers numericFlag .slsqp x.request.arguments ∧
      x.request.arguments.options.lookup "maxiter" = some (.int 5) := by
  have hcreate : Optimizer.create oneRegistry numericFlag =
      .ok (Optimizer.ofSettings numericFlag, oneBackend) := rfl
  obtain ⟨p, x, hp, hx⟩ : ∃ p x, oneEquality.problem = .ok p ∧ exchangeAfter
      (solve numericFlag .slsqp (claiming [1]) p ⟨.initial, [], none⟩) = some x := ⟨_, _, rfl, rfl⟩
  have hdelivers := delivers_of_solve hcreate (by rfl) rfl hx
  exact ⟨_, p, x, hcreate, hp, hx, hdelivers, hdelivers.iterations 5 rfl⟩

def writtenLimit : Settings := ⟨"scipy/slsqp", none, none, some [("maxiter", .text "10")]⟩

/-- The text is read as an integer, but it arrives as a text. -/
theorem not_delivers_writtenLimit :
    ∃ o p x known, Optimizer.create oneRegistry writtenLimit = .ok (o, oneBackend) ∧
      oneEquality.problem = .ok p ∧
      exchangeAfter (solve writtenLimit .slsqp (claiming [1]) p ⟨.initial, [], none⟩) = some x ∧
      optionsSchema.readOptions (Method.selectedName writtenLimit.method)
        (.dict [("maxiter", .text "10")]) = .ok known ∧
      known.lookup "maxiter" = some (.int 10) ∧
      x.request.arguments.options.lookup "maxiter" = some (.text "10") :=
  ⟨_, _, _, _, rfl, rfl, rfl, rfl, rfl, rfl⟩

end Numeric

end Extremum
