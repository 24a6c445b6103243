import Rollout.Proofs.Batch.Outcomes
import Rollout.Proofs.Batch.Sequence

/-!
# Steps that fail without effect

A batch passes on what a step leaves, also when the step fails. So a failure is without effect
where the step itself spares the value, and nowhere else: a batch in which failures have no effect
is one whose steps are made to put the value back.

## Main definitions

* `Batch.Turn.Spares` — the step of a turn leaves the value as it was, if it fails
* `Batch.Step.sparing` — a step that puts the value back when it fails

## Main results

* `Batch.left_eq_sparing_iff` — failures are without effect exactly if every step that fails
  spares the value
* `Batch.run_sparing`, `Batch.left_succeeding` — then the batch is that of the steps made sparing,
  and what it leaves is what the steps that succeed leave
* `Batch.failures_without_effect_iff` — all of this about what a batch comes to
-/

namespace Rollout.Batch

variable {α τ ε : Type} {value : α} {steps : List (Step α ε)}

/-- The step of a turn leaves the value as it was, if it fails. -/
def Turn.Spares (t : Turn α ε) : Prop := t.error?.isSome → t.left = t.value

/-- Whether the step of a turn succeeds. -/
def Turn.succeeds (t : Turn α ε) : Bool := t.error?.isNone

/-- A step that puts the value back when it fails. -/
def Step.sparing (step : Step α ε) : Step α ε :=
  ⟨step.key, fun value =>
    match step.run value with
    | (next, none) => (next, none)
    | (_, some e) => (value, some e)⟩

@[simp] theorem Step.key_sparing (step : Step α ε) : step.sparing.key = step.key := rfl

/-- A step that puts the value back fails where it failed before. -/
@[simp] theorem Step.error_sparing (step : Step α ε) (value : α) :
    (step.sparing.run value).2 = (step.run value).2 := by
  simp only [sparing]
  rcases step.run value with ⟨next, _ | e⟩ <;> rfl

/-- It makes no difference for a step that spares the value anyway, and only for such a step. -/
theorem Turn.spares_iff (t : Turn α ε) :
    t.Spares ↔ (t.step.sparing.run t.value).1 = t.left := by
  rw [Spares, error?, Turn.left]
  simp only [Step.sparing]
  rcases t.step.run t.value with ⟨next, _ | e⟩
  · simp
  · simp [eq_comm]

theorem Turn.Spares.run_sparing {t : Turn α ε} (h : t.Spares) :
    t.step.sparing.run t.value = t.step.run t.value :=
  Prod.ext (t.spares_iff.mp h) (t.step.error_sparing t.value)

/-! ### A whole batch -/

/-- Failures are without effect, after any number of steps, exactly if every step that fails spares
the value. -/
theorem left_eq_sparing_iff (value : α) (steps : List (Step α ε)) :
    (∀ t ∈ turns value steps, t.Spares) ↔
      ∀ front, front <+: steps → left value front = left value (front.map Step.sparing) := by
  induction steps generalizing value with
  | nil => simp
  | cons step rest ih =>
    let t : Turn α ε := ⟨step, value, rest.length⟩
    -- the first turn on its own, and the others as a batch that starts with what it leaves
    rw [turns_cons, List.forall_mem_cons, ih]
    constructor
    · rintro ⟨first, later⟩ front hfront
      cases front with
      | nil => rfl
      | cons head front =>
        obtain ⟨rfl, hrest⟩ := List.cons_prefix_cons.mp hfront
        rw [List.map_cons, left_cons, left_cons, first.run_sparing]
        exact later front hrest
    · intro h
      -- the step on its own is the beginning that tells about its turn
      have first : t.Spares := by
        rw [Turn.spares_iff]
        exact (h [step] (List.cons_prefix_cons.mpr ⟨rfl, List.nil_prefix⟩)).symm
      refine ⟨first, fun front hfront => ?_⟩
      have whole := h (step :: front) (List.cons_prefix_cons.mpr ⟨rfl, hfront⟩)
      rwa [List.map_cons, left_cons, left_cons, first.run_sparing] at whole

/-- Where every step that fails spares the value, the batch is that of the steps made sparing. -/
theorem runSteps_sparing (h : ∀ t ∈ turns value steps, t.Spares) :
    runSteps value (steps.map Step.sparing) = runSteps value steps := by
  induction steps generalizing value with
  | nil => rfl
  | cons step rest ih =>
    rw [turns_cons, List.forall_mem_cons] at h
    obtain ⟨first, later⟩ := h
    simp only [List.map_cons, runSteps, first.run_sparing, ih later, Step.key_sparing,
      List.length_map]

theorem run_sparing (h : ∀ t ∈ turns value steps, t.Spares) :
    run value (steps.map Step.sparing) = run value steps := by
  rw [run, run, runSteps_sparing h, List.length_map]

/-- Where every step that fails spares the value, what is left is what the steps that succeed
leave. -/
theorem left_succeeding (h : ∀ t ∈ turns value steps, t.Spares) :
    left value (((turns value steps).filter Turn.succeeds).map Turn.step) = left value steps := by
  induction steps generalizing value with
  | nil => rfl
  | cons step rest ih =>
    let t : Turn α ε := ⟨step, value, rest.length⟩
    rw [turns_cons, List.forall_mem_cons] at h
    obtain ⟨first, later⟩ := h
    rw [turns_cons, List.filter_cons, left_cons, ← ih later]
    split
    case isTrue => rfl
    case isFalse hfails =>
      -- the step fails, so the others are run on the value that it was given
      have failed : t.error?.isSome :=
        Option.isSome_iff_ne_none.mpr fun none => hfails (Option.isNone_iff_eq_none.mpr none)
      have same : (step.run value).1 = value := first failed
      rw [same]

/-- What a batch leaves is what it would leave if failures had no effect, and this after any number
of its steps, exactly if every step that fails spares the value. The batch does not see to that; but
where the steps do, it comes to the same as if they were made to put the value back, reports and
failures included, and its value is the one that the steps that succeed leave. -/
theorem failures_without_effect_iff (value : α) (steps : List (Step α ε)) :
    ((∀ t ∈ turns value steps, t.Spares) ↔
      ∀ front, front <+: steps → (run value front).value.value =
        (run value (front.map Step.sparing)).value.value) ∧
    ((∀ t ∈ turns value steps, t.Spares) →
      run value steps = run value (steps.map Step.sparing) ∧
        (run value steps).value.value =
          left value (((turns value steps).filter Turn.succeeds).map Turn.step)) := by
  constructor
  · simp only [run_eq_turns]
    exact left_eq_sparing_iff value steps
  · intro h
    refine ⟨(run_sparing h).symm, ?_⟩
    rw [run_eq_turns, left_succeeding h]

/-! ### A step that fails half-way -/

/-- The one step adds to the value before it fails. -/
def halfDone : List (Step (List String) String) :=
  [⟨"upload", fun files => (files ++ ["part"], some "connection lost")⟩]

/-- The batch keeps what the step has done, although no step succeeds. -/
theorem halfDone_keeps :
    (run [] halfDone).value = ⟨["part"], [⟨"upload", "connection lost"⟩]⟩ ∧
      (run [] (halfDone.map Step.sparing)).value = ⟨[], [⟨"upload", "connection lost"⟩]⟩ ∧
      left [] (((turns [] halfDone).filter Turn.succeeds).map Turn.step) = [] ∧
      ¬ ∀ t ∈ turns [] halfDone, t.Spares := by
  refine ⟨by decide, by decide, by decide, fun spares => ?_⟩
  have same := spares _ List.mem_cons_self rfl
  exact absurd same (by decide)

end Rollout.Batch
