import Extremum.Proofs.Model.History

/-!
# The store follows from the history

Every model that edits lead to has a history. What it stores of constraints is what the history
leaves of them: which identifiers are valid, the functions and regions that they lead to, and the
order in which they are enumerated.
-/

namespace Extremum

/-! ## The history of a model -/

namespace Model

variable {m : Model} {h : History}

/-- What an edit adds to the history, if it succeeds and concerns constraints. -/
def entry? (m : Model) : Edit → Option HistoryEntry
  | .addConstraint (.function f) r =>
    (m.addConstraint (.function f) r).toOption.map fun (id, _) => .added id f r
  | .deleteConstraint id => (m.deleteConstraint id).toOption.map fun _ => .withdrawn id
  | .setRegion id r => (m.setRegion id r).toOption.map fun _ => .replaced id r
  | .deleteVariable v => (m.deleteVariable v).toOption.map fun _ => .deleted v
  | _ => none

/-- The history after an edit. Emptying the model begins a new one. -/
def historyAfter (m : Model) (h : History) : Edit → History
  | .empty => []
  | e => h ++ (m.entry? e).toList

/-- The histories that edits lead to, from the empty model on. -/
inductive HasHistory : Model → History → Prop where
  | empty : HasHistory .empty []
  | perform {m : Model} {h : History} (e : Edit) :
    HasHistory m h → HasHistory (m.perform e).2 (m.historyAfter h e)

theorem Reachable.exists_history (hm : m.Reachable) : ∃ h, m.HasHistory h := by
  induction hm with
  | empty => exact ⟨[], .empty⟩
  | perform e _ ih =>
      obtain ⟨h, hh⟩ := ih
      exact ⟨_, hh.perform e⟩

theorem addVariables_constraints (m : Model) (n : Nat) :
    (m.addVariables n).2.constraints = m.constraints ∧
      (m.addVariables n).2.issuedConstraints = m.issuedConstraints := by
  induction n generalizing m with
  | zero => exact ⟨rfl, rfl⟩
  | succ n ih => exact ih m.addVariable.2

theorem historyAfter_eq {e : Edit} (he : e ≠ .empty) :
    m.historyAfter h e = h ++ (m.entry? e).toList := by
  cases e with
  | empty => exact absurd rfl he
  | _ => rfl

theorem perform_of_entry?_none {e : Edit} (he : e ≠ .empty) (hnone : m.entry? e = none) :
    (m.perform e).2.constraints = m.constraints ∧
      (m.perform e).2.issuedConstraints = m.issuedConstraints := by
  cases e with
  | empty => exact absurd rfl he
  | addVariable | setBlock _ => exact ⟨rfl, rfl⟩
  | addVariables n => exact m.addVariables_constraints n
  | setObjective f value =>
      rcases setObjective_cases m f value with ⟨_, hs⟩ | ⟨f, -, -, ⟨_, hs⟩ | ⟨_, hs⟩⟩ <;>
        simp [perform, hs]
  | setStart v value =>
      cases hs : m.setStart v value with
      | error _ => simp [perform, hs, settled]
      | ok m' =>
          obtain ⟨-, _, -, rfl⟩ := setStart_eq_ok.1 hs
          simp [perform, hs, settled]
  | addConstraint argument r =>
      cases argument with
      | foreign s => exact ⟨rfl, rfl⟩
      | function f =>
          obtain ⟨_, hr⟩ := toOption_map_eq_none.1 hnone
          simp [perform, hr, settled, Except.map]
  | deleteVariable v | deleteConstraint id | setRegion id r =>
      obtain ⟨_, hr⟩ := toOption_map_eq_none.1 hnone
      simp [perform, hr, settled]

theorem perform_of_entry?_some {e : Edit} {entry : HistoryEntry} (hsome : m.entry? e = some entry) :
    (m.perform e).2.constraints = m.constraints.filterMap entry.after ++ entry.new ∧
      ((entry.issued? = none ∧ (m.perform e).2.issuedConstraints = m.issuedConstraints) ∨
        ∃ f r, entry = .added ⟨m.issuedConstraints + 1, f.kind, r.kind⟩ f r ∧
          (m.perform e).2.issuedConstraints = m.issuedConstraints + 1) := by
  cases e with
  | empty | addVariable | addVariables _ | setBlock _ | setObjective _ _ | setStart _ _ =>
      cases hsome
  | addConstraint argument r =>
      cases argument with
      | foreign s => cases hsome
      | function f =>
          obtain ⟨⟨id, m'⟩, hr, rfl⟩ := toOption_map_eq_some.1 hsome
          have hp : (m.perform (.addConstraint (.function f) r)).2 = m' := by
            simp [perform, hr, settled, Except.map]
          obtain ⟨f', hf, -, -, rfl, rfl⟩ := addConstraint_eq_ok.1 hr
          cases hf
          rw [hp, HistoryEntry.filterMap_after_added]
          exact ⟨rfl, .inr ⟨f, r, rfl, rfl⟩⟩
  | deleteVariable v =>
      obtain ⟨m', hr, rfl⟩ := toOption_map_eq_some.1 hsome
      obtain ⟨-, rfl⟩ := deleteVariable_eq_ok.1 hr
      simp [perform, hr, settled, HistoryEntry.issued?, HistoryEntry.new]
      rfl
  | deleteConstraint id =>
      obtain ⟨m', hr, rfl⟩ := toOption_map_eq_some.1 hsome
      obtain ⟨-, rfl⟩ := deleteConstraint_eq_ok.1 hr
      simp [perform, hr, settled, HistoryEntry.issued?, HistoryEntry.new,
        HistoryEntry.filterMap_after_withdrawn]
  | setRegion id r =>
      obtain ⟨m', hr, rfl⟩ := toOption_map_eq_some.1 hsome
      obtain ⟨-, -, rfl⟩ := setRegion_eq_ok.1 hr
      simp [perform, hr, settled, HistoryEntry.issued?, HistoryEntry.new,
        HistoryEntry.filterMap_after_replaced]

/-! ## The constraints of a model -/

theorem HasHistory.numbered (hh : m.HasHistory h) : h.Numbered m.issuedConstraints := by
  induction hh with
  | empty => exact ⟨.nil, by simp [History.issued], by simp⟩
  | @perform m h e _ ih =>
      by_cases he : e = .empty
      · subst he
        exact ⟨.nil, by simp [historyAfter, History.issued], by simp [historyAfter]⟩
      rw [historyAfter_eq he]
      cases hentry : m.entry? e with
      | none =>
          rw [(perform_of_entry?_none he hentry).2]
          simpa using ih
      | some entry =>
          rcases (perform_of_entry?_some hentry).2 with ⟨hother, hcount⟩ | ⟨f, r, rfl, hcount⟩
          · rw [hcount]
            exact ih.concat hother
          · rw [hcount]
            exact ih.concat_added

/-- The constraints of a model are those that its history leaves. -/
theorem HasHistory.constraints_eq (hh : m.HasHistory h) : m.constraints = h.standing := by
  induction hh with
  | empty => rfl
  | @perform m h e _ ih =>
      by_cases he : e = .empty
      · subst he
        rfl
      rw [historyAfter_eq he]
      cases hentry : m.entry? e with
      | none => simpa [(perform_of_entry?_none he hentry).1] using ih
      | some entry =>
          rw [(perform_of_entry?_some hentry).1, ih]
          exact History.standing_concat.symm

/-- No two constraints of a model share their identifier. -/
theorem Reachable.nodup_ids (hm : m.Reachable) : (m.constraints.map (·.id)).Nodup := by
  obtain ⟨h, hh⟩ := hm.exists_history
  rw [hh.constraints_eq]
  exact hh.numbered.nodup.sublist History.ids_standing_sublist

/--
The constraints of a model are those of its history. An identifier that was issued is valid unless
it was withdrawn, or its constraint was on just a variable that was deleted. It leads to the
function it was issued for, without the terms on variables deleted since, and to the last region.
The identifiers of two kinds are the valid ones that were issued for them, in order.
-/
theorem HasHistory.store_eq_history (hh : m.HasHistory h) :
    (∀ earlier id f r later, h = earlier ++ .added id f r :: later →
      id.function = f.kind ∧ id.region = r.kind ∧
      ((∃ c, m.constraint id = .ok c) ↔
        .withdrawn id ∉ later ∧ ∀ v, f = .single v → .deleted v ∉ later) ∧
      ∀ c, m.constraint id = .ok c → c.function = f.withoutAll (History.deleted later) ∧
        c.region = History.regionOf later id r) ∧
    ∀ function region, (m.group function region).map (·.id) =
      h.issued.filter fun id => id.function = function ∧ id.region = region ∧
        (m.find? id).isSome := by
  have hnodup := hh.numbered.nodup
  constructor
  · rintro earlier id f r later rfl
    obtain ⟨hf, hr⟩ := hh.numbered.kinds id f r (by simp)
    have hfind : m.find? id = History.remainder later id f r := by
      rw [find?, hh.constraints_eq, History.find?_standing hnodup]
    refine ⟨hf, hr, ?_, fun c hc => ?_⟩
    · simp only [constraint_eq_ok, hfind, History.remainder_eq_some, exists_and_left, exists_eq',
        and_true, History.any_ends_eq_false]
    · obtain ⟨-, rfl⟩ := History.remainder_eq_some.1 (hfind ▸ constraint_eq_ok.1 hc)
      exact ⟨rfl, rfl⟩
  · intro function region
    have hids : m.constraints.map (·.id) = h.issued.filter (· ∈ m.constraints.map (·.id)) := by
      rw [hh.constraints_eq]
      exact eq_filter_of_sublist History.ids_standing_sublist hnodup
    have hvalid : ∀ id, id ∈ m.constraints.map (·.id) ↔ (m.find? id).isSome := by
      simp [find?, List.find?_isSome]
    calc (m.group function region).map (·.id)
      _ = (m.constraints.map (·.id)).filter fun id =>
            id.function = function ∧ id.region = region := by
        rw [List.filter_map]
        rfl
      _ = h.issued.filter fun id => id.function = function ∧ id.region = region ∧
            (m.find? id).isSome := by
        rw [hids, List.filter_filter]
        exact List.filter_congr fun id _ => by simp [hvalid, Bool.and_assoc]

/-- One of two variables is deleted from a sum whose region was replaced before. -/
theorem store_eq_history_after_deletion :
    let sum : ConstraintId := ⟨1, .affine, .lessThan⟩
    let m := empty.performAll [.addVariables 2,
      .addConstraint (.function (.affine [⟨1, ⟨1⟩⟩, ⟨2, ⟨2⟩⟩] 5)) (.lessThan ⟨3, rfl⟩),
      .addConstraint (.function (.single ⟨1⟩)) (.greaterThan ⟨0, rfl⟩),
      .setRegion sum (.lessThan ⟨4, rfl⟩), .deleteVariable ⟨1⟩]
    (∃ c, m.constraint sum = .ok c ∧ c.function = .affine [⟨2, ⟨2⟩⟩] 5 ∧
      c.region = .lessThan ⟨4, rfl⟩) ∧ (m.group .single .greaterThan).map (·.id) = [] := by
  intro sum m
  have hh : m.HasHistory [.added sum (.affine [⟨1, ⟨1⟩⟩, ⟨2, ⟨2⟩⟩] 5) (.lessThan ⟨3, rfl⟩),
      .added ⟨2, .single, .greaterThan⟩ (.single ⟨1⟩) (.greaterThan ⟨0, rfl⟩),
      .replaced sum (.lessThan ⟨4, rfl⟩), .deleted ⟨1⟩] :=
    (((((HasHistory.empty.perform _).perform _).perform _).perform _).perform _)
  obtain ⟨hstore, hgroup⟩ := hh.store_eq_history
  obtain ⟨-, -, hvalid, hcontent⟩ := hstore [] _ _ _ _ rfl
  obtain ⟨c, hc⟩ := hvalid.2 ⟨by simp, by simp⟩
  obtain ⟨hf, hr⟩ := hcontent c hc
  exact ⟨⟨c, hc, hf, hr⟩, hgroup .single .greaterThan⟩

end Model

end Extremum
