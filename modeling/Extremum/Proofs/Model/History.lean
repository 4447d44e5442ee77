import Extremum.Proofs.Model.WellFormed

/-!
# Histories of constraints

A history tells what successful edits meant for the constraints of a model since it was emptied
last. It says which constraints are left: those that were neither withdrawn nor lost their only
variable. The function of such a constraint lacks the terms on variables that were deleted later,
and its region is the last one it was given.
-/

namespace Extremum

/-- The function without the terms that mention one of some variables. A single variable stays. -/
def ScalarFunction.withoutAll (vs : List VariableId) : ScalarFunction → ScalarFunction
  | single v => single v
  | affine terms c => affine (terms.filter (·.var ∉ vs)) c
  | quadratic terms products c =>
    quadratic (terms.filter (·.var ∉ vs))
      (products.filter fun t => t.first ∉ vs ∧ t.second ∉ vs) c

/-- What a successful edit means for the constraints of a model. -/
inductive HistoryEntry where
  | added (id : ConstraintId) (f : ScalarFunction) (r : Region)
  | withdrawn (id : ConstraintId)
  | replaced (id : ConstraintId) (r : Region)
  /-- A variable was deleted. -/
  | deleted (v : VariableId)

namespace HistoryEntry

def issued? : HistoryEntry → Option ConstraintId
  | added id _ _ => some id
  | _ => none

def deleted? : HistoryEntry → Option VariableId
  | deleted v => some v
  | _ => none

def regionFor? (id : ConstraintId) : HistoryEntry → Option Region
  | replaced id' r => if id' = id then some r else none
  | _ => none

/-- The entry is the end of a constraint on a function. -/
def ends (id : ConstraintId) (f : ScalarFunction) : HistoryEntry → Bool
  | withdrawn id' => id' = id
  | deleted v => match f with
    | .single w => w = v
    | _ => false
  | _ => false

end HistoryEntry

/-- Entries in the order of the edits. -/
abbrev History := List HistoryEntry

namespace History

/-- The identifiers that were issued, in order. -/
def issued (h : History) : List ConstraintId := h.filterMap (·.issued?)

/-- The variables that were deleted. -/
def deleted (h : History) : List VariableId := h.filterMap (·.deleted?)

/-- The region of a constraint that had the region `r` before. -/
def regionOf (h : History) (id : ConstraintId) (r : Region) : Region :=
  (h.filterMap (·.regionFor? id)).getLast?.getD r

/-- What a history leaves of a constraint that was there before. -/
def remainder (h : History) (id : ConstraintId) (f : ScalarFunction) (r : Region) :
    Option Constraint :=
  if h.any (·.ends id f) then none else some ⟨id, f.withoutAll (deleted h), regionOf h id r⟩

/-- The constraints that are left after a history, in the order in which they were added. -/
def standing : History → List Constraint
  | [] => []
  | .added id f r :: later => (remainder later id f r).toList ++ standing later
  | _ :: later => standing later

end History

/-! ## Functions without variables -/

namespace ScalarFunction

variable {f : ScalarFunction} {vs : List VariableId} {v : VariableId}

theorem withoutAll_nil : f.withoutAll [] = f := by
  cases f <;> simp [withoutAll]

theorem withoutAll_concat : f.withoutAll (vs ++ [v]) = (f.withoutAll vs).without v := by
  cases f with
  | single w => rfl
  | affine terms c =>
      simp only [withoutAll, without, termsWithout, List.filter_filter]
      congr 1
      exact List.filter_congr fun t _ => by simp [and_comm]
  | quadratic terms products c =>
      simp only [withoutAll, without, termsWithout, productsWithout, List.filter_filter]
      congr 1
      · exact List.filter_congr fun t _ => by simp [and_comm]
      · exact List.filter_congr fun t _ => by grind

end ScalarFunction

/-! ## One entry more -/

namespace HistoryEntry

/-- What the entry makes of a constraint that was there before. -/
def after : HistoryEntry → Constraint → Option Constraint
  | added _ _ _, c => some c
  | withdrawn id, c => if c.id ≠ id then some c else none
  | replaced id r, c => some (if c.id = id then { c with region := r } else c)
  | deleted v, c => Model.constraintWithout v c

def new : HistoryEntry → List Constraint
  | added id f r => [⟨id, f, r⟩]
  | _ => []

theorem filterMap_after_added (id : ConstraintId) (f : ScalarFunction) (r : Region)
    (cs : List Constraint) : cs.filterMap (added id f r).after = cs :=
  List.filterMap_some

theorem filterMap_after_withdrawn (id : ConstraintId) (cs : List Constraint) :
    cs.filterMap (withdrawn id).after = cs.filter (·.id ≠ id) := by
  induction cs with
  | nil => rfl
  | cons c cs ih => by_cases hc : c.id = id <;> simp [after, hc, ih]

theorem filterMap_after_replaced (id : ConstraintId) (r : Region) (cs : List Constraint) :
    cs.filterMap (replaced id r).after =
      cs.map fun c => if c.id = id then { c with region := r } else c :=
  congrFun List.filterMap_eq_map cs

theorem after_eq (e : HistoryEntry) (id : ConstraintId) (f : ScalarFunction) (r : Region)
    (vs : List VariableId) :
    e.after ⟨id, f.withoutAll vs, r⟩ = if e.ends id f then none else
      some ⟨id, f.withoutAll (vs ++ e.deleted?.toList), (e.regionFor? id).getD r⟩ := by
  cases e with
  | added id' f' r' => simp [after, ends, deleted?, regionFor?]
  | withdrawn id' =>
      by_cases hid : id = id' <;> simp [after, ends, deleted?, regionFor?, hid, eq_comm]
  | replaced id' r' =>
      by_cases hid : id = id' <;> simp [after, ends, deleted?, regionFor?, hid, eq_comm]
  | deleted v =>
      simp only [after, ends, deleted?, regionFor?, Option.toList_some, Option.getD_none,
        ScalarFunction.withoutAll_concat]
      cases f <;> simp [Model.constraintWithout, ScalarFunction.withoutAll, ScalarFunction.without]

end HistoryEntry

/-- A part of a list without repetitions, in order, is found in it by looking at each entry. -/
theorem eq_filter_of_sublist {α : Type} [DecidableEq α] {as bs : List α} (hs : as.Sublist bs)
    (hd : bs.Nodup) : as = bs.filter (· ∈ as) := by
  induction hs with
  | slnil => rfl
  | cons b hs ih =>
      obtain ⟨hb, hd⟩ := List.nodup_cons.1 hd
      rw [List.filter_cons_of_neg (by simpa using fun h => hb (hs.subset h))]
      exact ih hd
  | cons_cons b hs ih =>
      obtain ⟨hb, hd⟩ := List.nodup_cons.1 hd
      rw [List.filter_cons_of_pos (by simp)]
      congr 1
      refine (ih hd).trans (List.filter_congr fun a ha => ?_)
      have hne : a ≠ b := fun h => hb (h ▸ ha)
      simp [hne]

namespace History

variable {h : History} {id : ConstraintId} {f : ScalarFunction} {r : Region} {e : HistoryEntry}

theorem remainder_concat : remainder (h ++ [e]) id f r = (remainder h id f r).bind e.after := by
  have hdeleted : deleted (h ++ [e]) = deleted h ++ e.deleted?.toList := by
    cases hv : e.deleted? <;> simp [deleted, hv]
  have hregion : regionOf (h ++ [e]) id r = (e.regionFor? id).getD (regionOf h id r) := by
    cases hr : e.regionFor? id <;> simp [regionOf, List.filterMap_append, hr]
  simp only [remainder, hdeleted, hregion, List.any_append, List.any_cons, List.any_nil,
    Bool.or_false]
  cases hends : h.any (·.ends id f) with
  | true => simp
  | false => simp [HistoryEntry.after_eq]

theorem standing_concat : standing (h ++ [e]) = (standing h).filterMap e.after ++ e.new := by
  induction h with
  | nil =>
      cases e <;> simp [standing, HistoryEntry.new, remainder, ScalarFunction.withoutAll_nil,
        deleted, regionOf]
  | cons e' later ih =>
      cases e' with
      | added id f r =>
          simp only [List.cons_append, standing, remainder_concat, ih]
          cases remainder later id f r with
          | none => simp
          | some c => cases hc : e.after c <;> simp [hc]
      | withdrawn _ | replaced _ _ | deleted _ => exact ih

/-! ## Looking up constraints -/

theorem remainder_eq_some {c : Constraint} : remainder h id f r = some c ↔
    h.any (·.ends id f) = false ∧ ⟨id, f.withoutAll (deleted h), regionOf h id r⟩ = c := by
  unfold remainder
  split <;> simp [*]

theorem any_ends_eq_false : h.any (·.ends id f) = false ↔
    .withdrawn id ∉ h ∧ ∀ v, f = .single v → .deleted v ∉ h := by
  rw [List.any_eq_false]
  constructor
  · intro hall
    refine ⟨fun hmem => hall _ hmem (by simp [HistoryEntry.ends]), ?_⟩
    rintro v rfl hmem
    exact hall _ hmem (by simp [HistoryEntry.ends])
  · rintro ⟨hw, hd⟩ e he hends
    cases e with
    | added _ _ _ | replaced _ _ => cases hends
    | withdrawn id' => exact hw (of_decide_eq_true hends ▸ he)
    | deleted v =>
        cases f with
        | single w => exact hd w rfl (of_decide_eq_true hends ▸ he)
        | affine _ _ | quadratic _ _ _ => cases hends

theorem id_of_remainder {c : Constraint} (hc : remainder h id f r = some c) : c.id = id := by
  rw [← (remainder_eq_some.1 hc).2]

theorem ids_standing_sublist : ((standing h).map (·.id)).Sublist (issued h) := by
  induction h with
  | nil => exact .slnil
  | cons e later ih =>
      cases e with
      | added id f r =>
          cases hc : remainder later id f r with
          | none => simpa [standing, issued, HistoryEntry.issued?, hc] using ih.cons id
          | some c =>
              simpa [standing, issued, HistoryEntry.issued?, hc, id_of_remainder hc] using
                ih.cons_cons id
      | withdrawn _ | replaced _ _ | deleted _ => exact ih

theorem find?_standing_of_not_issued (hid : id ∉ issued h) :
    (standing h).find? (·.id = id) = none := by
  rw [List.find?_eq_none]
  intro c hc hcid
  exact hid (ids_standing_sublist.subset (List.mem_map.2 ⟨c, hc, of_decide_eq_true hcid⟩))

/-- An identifier leads to what is left of the constraint that it was issued for. -/
theorem find?_standing {earlier later : History}
    (hd : (issued (earlier ++ .added id f r :: later)).Nodup) :
    (standing (earlier ++ .added id f r :: later)).find? (·.id = id) = remainder later id f r := by
  induction earlier with
  | nil =>
      obtain ⟨hlater, -⟩ := List.nodup_cons.1 hd
      rw [List.nil_append, standing, List.find?_append, find?_standing_of_not_issued hlater]
      cases hc : remainder later id f r with
      | none => rfl
      | some c => simp [id_of_remainder hc]
  | cons e earlier ih =>
      cases e with
      | added id' f' r' =>
          obtain ⟨hother, hd⟩ := List.nodup_cons.1 hd
          have hne : id' ≠ id := by
            rintro rfl
            exact hother (List.mem_filterMap.2 ⟨.added id' f r, by simp, rfl⟩)
          -- what is left of an earlier constraint has another identifier
          rw [List.cons_append, standing, List.find?_append, ih hd]
          cases hc : remainder (earlier ++ .added id f r :: later) id' f' r' with
          | none => rfl
          | some c => simp [id_of_remainder hc, hne]
      | withdrawn _ | replaced _ _ | deleted _ => exact ih hd

/-! ## Numbers of constraints -/

/-- Identifiers increase in the order of issue, and name the kinds of function and region. -/
structure Numbered (h : History) (n : Nat) : Prop where
  increasing : (issued h).Pairwise (·.value < ·.value)
  bounded : ∀ id ∈ issued h, id.value ≤ n
  kinds : ∀ id f r, .added id f r ∈ h → id.function = f.kind ∧ id.region = r.kind

variable {n : Nat}

theorem Numbered.nodup (hn : h.Numbered n) : (issued h).Nodup := by
  refine hn.increasing.imp fun hlt heq => ?_
  rw [heq] at hlt
  exact lt_irrefl _ hlt

theorem Numbered.concat (hn : h.Numbered n) (he : e.issued? = none) : Numbered (h ++ [e]) n := by
  have hissued : issued (h ++ [e]) = issued h := by simp [issued, he]
  refine ⟨by rw [hissued]; exact hn.increasing, by rw [hissued]; exact hn.bounded, ?_⟩
  intro id f r hmem
  rcases List.mem_append.1 hmem with hmem | hmem
  · exact hn.kinds id f r hmem
  · cases List.mem_singleton.1 hmem
    cases he

theorem Numbered.concat_added (hn : h.Numbered n) :
    Numbered (h ++ [.added ⟨n + 1, f.kind, r.kind⟩ f r]) (n + 1) := by
  have hissued : issued (h ++ [.added ⟨n + 1, f.kind, r.kind⟩ f r]) =
      issued h ++ [⟨n + 1, f.kind, r.kind⟩] := by simp [issued, HistoryEntry.issued?]
  refine ⟨?_, ?_, ?_⟩
  · rw [hissued, List.pairwise_append]
    refine ⟨hn.increasing, by simp, fun id hid id' hid' => ?_⟩
    have := hn.bounded id hid
    simp only [List.mem_singleton.1 hid']
    omega
  · rw [hissued]
    intro id hid
    rcases List.mem_append.1 hid with hid | hid
    · have := hn.bounded id hid
      omega
    · simp [List.mem_singleton.1 hid]
  · intro id f' r' hmem
    rcases List.mem_append.1 hmem with hmem | hmem
    · exact hn.kinds id f' r' hmem
    · cases List.mem_singleton.1 hmem
      exact ⟨rfl, rfl⟩

end History

end Extremum
