import Extremum.Proofs.Numeric.Options
import Extremum.Proofs.Optimizer.Inquiry
import Extremum.Proofs.Plugin.Case
import Extremum.Proofs.Plugin.Qualified

/-!
# The method that is selected

A method is read three times. The registry cuts it at the first slash and asks the plugin for the
rest; the solver and the reader of options put all of it in lower case and cut it at the last slash.
Where the numerical backend is selected, the three of them mean the same method.
-/

namespace Extremum

open Text

namespace Registry

variable {α : Type} {r : Registry α} {first rest method key : String} {p : Plugin α}

/-- What a plugin is asked to support: the part after the first slash, or else the whole method. -/
def asked (method : String) : String := ((splitSlash? method).map (·.2)).getD method

theorem asked_qualified (h : '/' ∉ first.toList) : asked (qualified first rest) = rest := by
  simp [asked, qualified, splitSlash?_qualified h]

theorem asked_bare (h : '/' ∉ method.toList) : asked method = method := by
  simp [asked, splitSlash?_bare h]

theorem supports_asked (h : r.find? solverType method = .ok (some (key, p))) :
    p.supports (asked method) = true := by
  by_cases hslash : '/' ∈ method.toList
  · obtain ⟨first, rest, hfirst, rfl⟩ := exists_first_of_slash hslash
    rw [qualified, find?_qualified hfirst] at h
    obtain ⟨q, hq, hkey⟩ := Option.map_eq_some_iff.1 (Except.ok.inj h)
    cases hkey
    rw [asked_qualified hfirst]
    exact (Option.filter_eq_some_iff.1 hq).2
  · have hdefault : method ≠ "default" := by
      rintro rfl
      cases h
    rw [find?_bare hslash hdefault] at h
    have hsupports := List.find?_some (Except.ok.inj h)
    rw [Bool.and_eq_true] at hsupports
    rw [asked_bare hslash]
    exact hsupports.2

end Registry

namespace Numeric

open Registry

variable {σ : Type} {minimizer : Minimizer} {keep : Exchange → σ → σ}
  {r : Registry (SolverProvider σ)} {first rest method key : String} {m : Method}

/-! ## The last slash -/

theorem afterLastSlash_bare (h : '/' ∉ rest.toList) : Method.afterLastSlash rest = rest := by
  rw [← List.mem_reverse] at h
  rw [Method.afterLastSlash, List.takeWhile_eq_self_iff.2 (ne_slash_of_mem h)]
  simp

theorem afterLastSlash_qualified (h : '/' ∉ rest.toList) :
    Method.afterLastSlash (qualified first rest) = rest := by
  have hlist : (qualified first rest).toList.reverse =
      rest.toList.reverse ++ '/' :: first.toList.reverse := by
    simp [qualified]
  rw [← List.mem_reverse] at h
  rw [Method.afterLastSlash, hlist, List.takeWhile_append_of_pos (ne_slash_of_mem h)]
  simp

/-- What has no slash after the first one is cut off at the last one, too. -/
theorem afterLastSlash_lowercase (h : '/' ∉ (lowercase (asked method)).toList) :
    Method.afterLastSlash (lowercase method) = lowercase (asked method) := by
  by_cases hslash : '/' ∈ method.toList
  · obtain ⟨first, rest, hfirst, rfl⟩ := exists_first_of_slash hslash
    rw [asked_qualified hfirst] at h ⊢
    rw [lowercase_qualified, afterLastSlash_qualified h]
  · rw [asked_bare hslash] at h ⊢
    rw [afterLastSlash_bare h]

/-! ## The method that is meant -/

/-- A text in lower case is the name of a method, or the word for the default one. -/
def IsWordFor (word : String) (m : Method) : Prop :=
  word = m.name ∨ word = Method.defaultWord ∧ m = .slsqp

theorem exists_isWordFor (h : Method.isSupported method = true) :
    ∃ m, IsWordFor (lowercase method) m := by
  rw [Method.isSupported, Bool.or_eq_true, beq_iff_eq] at h
  rcases h with hdefault | hname
  · exact ⟨.slsqp, .inr ⟨hdefault, rfl⟩⟩
  · obtain ⟨m, hm⟩ := Option.isSome_iff_exists.1 hname
    exact ⟨m, .inl (name_of_ofName? hm).symm⟩

theorem slash_not_mem_of_isWordFor {word : String} (h : IsWordFor word m) :
    '/' ∉ word.toList := by
  rcases h with rfl | ⟨rfl, -⟩
  · cases m <;> decide
  · decide

theorem selectedName_of_isWordFor (h : IsWordFor (lowercase (asked method)) m) :
    Method.selectedName method = m.name := by
  rw [Method.selectedName, afterLastSlash_lowercase (slash_not_mem_of_isWordFor h)]
  rcases h with h | ⟨h, rfl⟩
  · have hdefault : m.name ≠ Method.defaultWord := by cases m <;> decide
    rw [h]
    exact if_neg hdefault
  · exact if_pos h

theorem ofText_of_selectedName (h : Method.selectedName method = m.name) :
    Method.ofText method = .ok m := by
  have hname : Method.ofName? m.name = some m := by cases m <;> rfl
  unfold Method.ofText
  rw [h, hname]

/-! ## Agreement -/

/-- The method of a minimizer. -/
def Arguments.runs : Arguments → Method
  | .minimize _ m _ => m
  | .evolve .. => .differentialEvolution

theorem runs_arguments (s : Settings) (m : Method) (p : Problem) :
    (arguments s m p).runs = m := by
  cases m <;> rfl

/-- Of every method there is a schema under its name, and its options can be read. -/
theorem exists_entry (m : Method) : ∃ name schema, (name, schema) ∈ optionsSchema.methods ∧
    lowercase name = m.name ∧ optionsSchema.method m.name = .ok schema ∧
      schema.settable.any (·.2.hasEmptyChoice) = false := by
  have hmem : ∀ i (hi : i < optionsSchema.methods.length),
      optionsSchema.methods[i] ∈ optionsSchema.methods := fun i hi => List.getElem_mem hi
  cases m with
  | slsqp => exact ⟨_, _, hmem 0 (by decide), by decide +kernel, rfl, by decide⟩
  | trustConstr => exact ⟨_, _, hmem 1 (by decide), by decide +kernel, rfl, by decide⟩
  | cobyla => exact ⟨_, _, hmem 2 (by decide), by decide +kernel, rfl, by decide⟩
  | differentialEvolution => exact ⟨_, _, hmem 3 (by decide), by decide +kernel, rfl, by decide⟩

/-- All readers of a method take it for the same one. -/
structure Agree (minimizer : Minimizer) (keep : Exchange → σ → σ) (method : String)
    (m : Method) : Prop where
  /-- What is supported is its name. -/
  supported : IsWordFor (lowercase (asked method)) m
  /-- A solver is made, which solves by it. -/
  solver : ∀ s, s.method = method →
    (provider minimizer keep).create s = .ok fun p => embedded keep (solve s m minimizer p)
  /-- A minimizer is run with it. -/
  request : ∀ s p st x, st.exchange = none → exchangeAfter (solve s m minimizer p st) = some x →
    x.request.arguments.runs = m
  /-- Options are read by its schema. -/
  schema : ∃ name schema, (name, schema) ∈ optionsSchema.methods ∧ lowercase name = m.name ∧
    ∀ options, (provider minimizer keep).checkOptions method options =
      options.elim (.ok ()) fun given =>
        ((schema.readOptions (.dict given)).map fun _ => ()).mapError .invalid

theorem checkOptions_of_selectedName {schema : MethodSchema}
    (hselected : Method.selectedName method = m.name)
    (hschema : optionsSchema.method m.name = .ok schema)
    (hchoice : schema.settable.any (·.2.hasEmptyChoice) = false) (v : Value) :
    checkOptions method (some v) =
      ((schema.readOptions v).map fun _ => ()).mapError .invalid := by
  have hread : optionsSchema.readOptions (Method.selectedName method) v =
      (schema.readOptions v).mapError .invalid := by
    rw [OptionsSchema.readOptions, hselected, hschema]
    simp [hchoice, bind, Except.bind]
  rw [checkOptions, hread]
  cases schema.readOptions v <;> rfl

theorem supports_plugin (method : String) :
    (plugin minimizer keep).supports method = Method.isSupported method := rfl

/-- Where the numerical backend is selected, all readers agree on the method. -/
theorem exists_agree (h : r.find? solverType method = .ok (some (key, plugin minimizer keep))) :
    ∃ m, Agree minimizer keep method m := by
  have hsupports := supports_asked h
  rw [supports_plugin] at hsupports
  obtain ⟨m, hword⟩ := exists_isWordFor hsupports
  have hselected := selectedName_of_isWordFor hword
  obtain ⟨name, schema, hmem, hname, hschema, hchoice⟩ := exists_entry m
  refine ⟨m, hword, fun s hs => ?_, fun s p st x hst hx => ?_,
    name, schema, hmem, hname, fun options => ?_⟩
  · subst hs
    exact create_of_ofText minimizer keep (ofText_of_selectedName hselected)
  · rw [arguments_of_solve hst hx]
    exact runs_arguments s m p
  · cases options with
    | none => rfl
    | some given => exact checkOptions_of_selectedName hselected hschema hchoice _

/-- The name of the plugin ends in a letter that has a form of its own for the end of a word. -/
theorem agree_trustConstr :
    let r : Registry (SolverProvider Unit) := empty.after ⟨"ΑΣ", some idleBackend, false⟩
    r.find? solverType (qualified "Ας" "Trust-Constr") = .ok (some ("ας", idleBackend)) ∧
      Agree (fun _ => .fail .nothingCached) (fun _ (u : Unit) => u)
        (qualified "Ας" "Trust-Constr") .trustConstr := by
  intro r
  have hkeys : lowercase "ΑΣ" = "ας" ∧ lowercase "Ας" = "ας" := by decide +kernel
  have hsupports : idleBackend.supports "Trust-Constr" = true := by
    rw [idleBackend, supports_plugin]
    decide +kernel
  have hentries : r = ⟨[("ας", idleBackend)]⟩ := by
    refine after_of_ok (register_eq_ok.2 ⟨idleBackend, rfl, List.not_mem_nil, ?_⟩)
    simp only [Registration.key, hkeys, empty]
    rfl
  have hlookup : r.lookup? (lowercase "Ας") = some idleBackend := by
    simp [hentries, hkeys, lookup?]
  have hfind := find?_of_lookup? (by decide) hlookup hsupports
  rw [hkeys.2] at hfind
  refine ⟨hfind, ?_⟩
  obtain ⟨m, hm⟩ := exists_agree hfind
  have hword : lowercase (asked (qualified "Ας" "Trust-Constr")) = "trust-constr" := by
    decide +kernel
  have hsupported := hm.supported
  rw [hword] at hsupported
  obtain rfl : m = .trustConstr := by
    rcases hsupported with hname | ⟨hdefault, -⟩
    · cases m <;> first | rfl | exact absurd hname (by decide)
    · exact absurd hdefault (by decide)
  exact hm

end Numeric

end Extremum
