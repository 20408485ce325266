import Mathlib.Algebra.GroupWithZero.Nat
import PhantomHost.Metrics.Basic
import PhantomHost.Shell.Execution
/-!
Counters as sums: what one more event does to the labels of a counter, and to the number of response times.

A response time falls into a class exactly if it is a number, for the last class has no bound.
-/
namespace PhantomHost

namespace Tally

variable {α : Type} [DecidableEq α]

/-- The labels of a counter, in the order of first use. -/
def labels (tally : Tally α) : List α :=
  tally.map Prod.fst

theorem mem_labels_add {label other : α} {tally : Tally α} :
    other ∈ labels (add label tally) ↔ other = label ∨ other ∈ labels tally := by
  induction tally with
  | nil => simp [add, labels]
  | cons entry rest ih =>
      obtain ⟨known, n⟩ := entry
      simp only [labels, List.map_cons, List.mem_cons] at ih ⊢
      by_cases hKnown : known = label
      · simp [add, hKnown]
      · rw [add, if_neg hKnown, List.map_cons, List.mem_cons, ih]
        exact or_left_comm

/-- A label is listed once. -/
theorem nodup_labels_add (label : α) {tally : Tally α} (h : (labels tally).Nodup) :
    (labels (add label tally)).Nodup := by
  induction tally with
  | nil => simp [add, labels]
  | cons entry rest ih =>
      obtain ⟨known, n⟩ := entry
      obtain ⟨hNew, hRest⟩ := List.nodup_cons.1 h
      by_cases hKnown : known = label
      · rw [add, if_pos hKnown]
        exact h
      · rw [add, if_neg hKnown]
        refine List.nodup_cons.2 ⟨?_, ih hRest⟩
        intro hMem
        exact (mem_labels_add.1 hMem).elim hKnown hNew

end Tally

/-! ### Response times -/

namespace Histogram

open Float.Model in
theorem le_infinity_of_isNaN_false {value : Float} (h : value.isNaN = false) : value ≤ Decimal.infinity := by
  have hUnpacked : value.toModel.unpack.isNaN = false := h
  have hInfinity : Decimal.infinity.toModel.unpack = .infinity .positive := by rfl
  have hLe : UnpackedFloat.le value.toModel.unpack Decimal.infinity.toModel.unpack = true := by
    rw [hInfinity]
    cases hValue : value.toModel.unpack with
    | notANumber =>
        rw [hValue] at hUnpacked
        cases hUnpacked
    | infinity sign => cases sign <;> rfl
    | zero sign => rfl
    | finite sign => cases sign <;> rfl
  exact decide_eq_true hLe

theorem isNaN_false_of_le {value bound : Float} (h : value ≤ bound) : value.isNaN = false := by
  have hLe : Float.Model.UnpackedFloat.le value.toModel.unpack bound.toModel.unpack = true :=
    of_decide_eq_true h
  have hNaN : value.isNaN = value.toModel.unpack.isNaN := rfl
  rw [hNaN]
  cases hValue : value.toModel.unpack with
  | notANumber =>
      rw [hValue] at hLe
      cases hLe
  | infinity _ | zero _ | finite _ _ _ _ => rfl

/-- Some class takes a value exactly if the value is a number. -/
theorem any_bound_eq (value : Float) : (latencyBounds.any fun bound => value ≤ bound) = !value.isNaN := by
  cases hNumber : value.isNaN with
  | true =>
      rw [Bool.not_true, List.any_eq_false]
      intro bound _ hLe
      rw [isNaN_false_of_le (of_decide_eq_true hLe)] at hNumber
      cases hNumber
  | false =>
      rw [Bool.not_false, List.any_eq_true]
      exact ⟨Decimal.infinity, by simp [latencyBounds], decide_eq_true (le_infinity_of_isNaN_false hNumber)⟩

@[simp] theorem length_addTo (value : Float) (bounds : List Float) (classes : List Nat) :
    (addTo value bounds classes).length = classes.length := by
  fun_induction addTo value bounds classes with
  | case1 => rfl
  | case2 _ _ _ _ _ ih => simp [ih]
  | case3 => rfl

/-- A value is counted once if some class takes it. -/
theorem sum_addTo {value : Float} {bounds : List Float} {classes : List Nat}
    (h : classes.length = bounds.length) :
    (addTo value bounds classes).sum = classes.sum + if bounds.any fun bound => value ≤ bound then 1 else 0 := by
  induction bounds generalizing classes with
  | nil =>
      obtain rfl := List.length_eq_zero_iff.1 h
      simp [addTo]
  | cons bound bounds ih =>
      obtain ⟨n, rest, rfl⟩ := List.exists_cons_of_length_eq_add_one h
      by_cases hLe : value ≤ bound
      · rw [addTo, if_pos hLe, List.any_cons, decide_eq_true hLe, Bool.true_or, if_pos rfl, List.sum_cons,
          List.sum_cons, Nat.add_right_comm]
      · rw [addTo, if_neg hLe, List.any_cons, decide_eq_false hLe, Bool.false_or, List.sum_cons, List.sum_cons,
          ih (by simpa using h), Nat.add_assoc]

/-- Every class has its number. -/
def Complete (histogram : Histogram) : Prop :=
  histogram.classes.length = latencyBounds.length

theorem complete_empty : empty.Complete := rfl

theorem Complete.observe {histogram : Histogram} (h : histogram.Complete) (value : Float) :
    (histogram.observe value).Complete :=
  (length_addTo ..).trans h

/-- A response time is counted once if it is a number. -/
theorem count_observe {histogram : Histogram} (h : histogram.Complete) (value : Float) :
    (histogram.observe value).count = histogram.count + if value.isNaN then 0 else 1 := by
  have hSum : (histogram.observe value).count = _ := sum_addTo h
  rw [hSum, any_bound_eq]
  cases value.isNaN with
  | true => rfl
  | false => rfl

end Histogram

/-! ### Commands -/

/-- The counters after a line has been entered: a line without a word is not counted. -/
def Metrics.enter (line : Text) (metrics : Metrics) : Metrics :=
  match Shell.commandOf line with
  | none => metrics
  | some command => metrics.countCommand command

theorem Metrics.exists_enter (line : Text) (metrics : Metrics) :
    ∃ commandCount commands,
      metrics.enter line = { metrics with commandCount := commandCount, commands := commands } := by
  unfold enter
  split <;> exact ⟨_, _, rfl⟩

/-- A label of the counter of commands, as the page of the counters shows it. -/
def Builtin.labelText (command : Option Builtin) : Text :=
  (command.map Builtin.word).getD "unknown"

end PhantomHost
