import Extremum.Proofs.Success
import Extremum.Solution.Snapshot

/-!
# What snapshots hold

A snapshot of a result pairs each variable with the entry at its position. All statuses follow from
the symbol of the outcome, and only one symbol makes a result worth anything.
-/

namespace Extremum

theorem getElem?_of_readEntry {x : List Float} {i : Nat} {y : Float}
    (h : readEntry x (i : Int) = .ok y) : x[i]? = some y := by
  unfold readEntry at h
  split at h
  · cases h
  · split at h
    · cases h
    · rw [if_neg (by omega : ¬ (i : Int) < 0), if_neg (by omega : ¬ (i : Int) < 0),
        Int.toNat_natCast] at h
      cases hx : x[i]? with
      | none =>
          rw [hx] at h
          cases h
      | some value =>
          rw [hx] at h
          cases h
          rfl

theorem readEntry_of_getElem? {x : List Float} {i : Nat} {y : Float}
    (hi : (i : Int) < indexLimit) (h : x[i]? = some y) : readEntry x (i : Int) = .ok y := by
  have hlimit : indexLimit = 0x8000000000000000 := rfl
  unfold readEntry
  rw [if_neg (by omega), if_neg (by omega)]
  simp only [if_neg (by omega : ¬ (i : Int) < 0), Int.toNat_natCast, h]

theorem lookup_zip {α β : Type} [DecidableEq α] (as : List α) (bs : List β) (a : α)
    (hlen : as.length = bs.length) : (as.zip bs).lookup a = bs[as.idxOf a]? := by
  induction as generalizing bs with
  | nil =>
      cases bs with
      | nil => rfl
      | cons b bs => cases hlen
  | cons a' as ih =>
      cases bs with
      | nil => cases hlen
      | cons b bs =>
          rw [List.zip_cons_cons, List.lookup_cons, List.idxOf_cons]
          by_cases h : a = a'
          · simp [h]
          · rw [beq_false_of_ne h, beq_false_of_ne (Ne.symm h)]
            exact ih bs (Nat.succ.inj hlen)

namespace Snapshot

variable {ps : Positions} {x : List Float} {primal : List (VariableId × Float)}

theorem primalOf_eq_ok (hlen : x.length = ps.size) (h : primalOf ps x = .ok primal) :
    primal = ps.vars.zip x := by
  have hitems : ps.items.length = ps.size := by simp [Positions.items, Positions.size]
  have hmatch := List.forall₂_iff_get.1 (mapM_eq_ok.1 h)
  have hlength : primal.length = ps.size := hmatch.1.symm.trans hitems
  refine List.ext_getElem (by simp [hlength, hlen, Positions.size]) fun i hi hz => ?_
  have hentry := hmatch.2 i (by omega) hi
  obtain ⟨value, hvalue, hpair⟩ := bind_eq_ok.1 hentry
  have hprimal : primal[i] = _ := (pure_eq_ok.1 hpair).symm
  rw [hprimal]
  simp only [Positions.items, List.get_eq_getElem, List.getElem_zip, List.getElem_map,
    List.getElem_range] at hvalue ⊢
  rw [show ((i + 1 : Nat) : Int) - 1 = (i : Int) by omega] at hvalue
  have hx := getElem?_of_readEntry hvalue
  rw [List.getElem?_eq_getElem (by omega)] at hx
  rw [Option.some.inj hx]

theorem ofResult_eq_ok {r : SolverResult} {s : Snapshot} (hlen : r.primal.entries.length = ps.size)
    (h : ofResult ps r = .ok s) :
    s = ⟨r.status, r.objective, ps.vars.zip r.primal.entries⟩ := by
  obtain ⟨primal, hprimal, hs⟩ := bind_eq_ok.1 h
  rw [← pure_eq_ok.1 hs, primalOf_eq_ok hlen hprimal]

/-- A vector with one entry for each variable has a snapshot, unless a position fits no word. -/
theorem ofResult_of_length {r : SolverResult} (hlen : r.primal.entries.length = ps.size)
    (hlimit : (ps.size : Int) ≤ indexLimit) :
    ofResult ps r = .ok ⟨r.status, r.objective, ps.vars.zip r.primal.entries⟩ := by
  obtain ⟨primal, hprimal⟩ : ∃ primal, primalOf ps r.primal.entries = .ok primal := by
    refine exists_mapM_eq_ok fun (v, k) hitem => ?_
    obtain ⟨i, hi, rfl⟩ := List.mem_map.1 (List.of_mem_zip hitem).2
    have hi : i < ps.size := List.mem_range.1 hi
    have hindex : ((i + 1 : Nat) : Int) - 1 = i := by omega
    have hentry := readEntry_of_getElem? (by omega)
      (List.getElem?_eq_getElem (by omega : i < r.primal.entries.length))
    exact ⟨_, bind_eq_ok.2 ⟨_, by rw [hindex, hentry], rfl⟩⟩
  have hs : ofResult ps r = .ok ⟨r.status, r.objective, primal⟩ :=
    bind_eq_ok.2 ⟨primal, hprimal, rfl⟩
  rw [hs, primalOf_eq_ok hlen hprimal]

theorem hasPrimal_iff {s : Snapshot} :
    s.hasPrimal = true ↔ s.status = SolverStatus.optimal.symbol := by
  simp [hasPrimal, ResultStatus.primal]

theorem failure_hasPrimal : failure.hasPrimal = false := by decide

end Snapshot

/-! ## Statuses -/

namespace SolverStatus

theorem ofSymbol?_eq_some {text : String} {s : SolverStatus} :
    ofSymbol? text = some s ↔ text = s.symbol := by
  constructor
  · intro h
    have hsymbol := List.find?_some h
    exact (of_decide_eq_true hsymbol).symm
  · rintro rfl
    cases s <;> decide

end SolverStatus

theorem Termination.ofSymbol_eq_locallySolved {symbol : Option String} :
    Termination.ofSymbol symbol = .locallySolved ↔ symbol = some SolverStatus.optimal.symbol := by
  constructor
  · intro h
    cases symbol with
    | none => cases h
    | some text =>
        cases hs : SolverStatus.ofSymbol? text with
        | none =>
            simp only [ofSymbol, hs] at h
            cases h
        | some status =>
            simp only [ofSymbol, hs] at h
            cases status with
            | optimal => rw [SolverStatus.ofSymbol?_eq_some.1 hs]
            | infeasible | unbounded | userLimit | failed => cases h
  · rintro rfl
    decide

theorem ResultStatus.primal_eq_feasiblePoint {symbol : Option String} :
    ResultStatus.primal symbol = .feasiblePoint ↔ symbol = some SolverStatus.optimal.symbol := by
  unfold primal
  split <;> simp [*]

theorem ResultStatus.count_eq_one {symbol : Option String} :
    ResultStatus.count symbol = 1 ↔ symbol = some SolverStatus.optimal.symbol := by
  rw [← primal_eq_feasiblePoint]
  unfold count
  split <;> simp [*]

end Extremum
