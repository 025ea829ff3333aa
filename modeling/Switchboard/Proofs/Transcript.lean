import Switchboard.Proofs.Evaluation

/-!
# Transcripts

Steps done one after the other, each in the world that the one before it left.
A `Transcript` keeps what can be asked about afterwards: the world in the end
and every step with how it ended. What holds at the start and survives every
further step holds of every transcript (`Transcript.invariant`); all claims
about runs of any length are proved by it.
-/

namespace Switchboard

/-- The world that a sequence of steps left and, oldest first, each step with
how it ended. -/
structure Transcript (σ ι α : Type) where
  world : World σ
  entries : List (ι × Exit α) := []

namespace Transcript

variable {σ ι α : Type} (perform : ι → World σ → Exit α × World σ)

def extend (t : Transcript σ ι α) (step : ι) : Transcript σ ι α where
  world := (perform step t.world).2
  entries := t.entries ++ [(step, (perform step t.world).1)]

def of (w : World σ) (steps : List ι) : Transcript σ ι α :=
  steps.foldl (extend perform) { world := w }

theorem extend_of_eq {perform : ι → World σ → Exit α × World σ} {t : Transcript σ ι α}
    {step : ι} {exit : Exit α} {w : World σ} (h : perform step t.world = (exit, w)) :
    t.extend perform step = { world := w, entries := t.entries ++ [(step, exit)] } := by
  rw [extend, h]

/-- What the empty transcript has and every further step keeps, every
transcript has. -/
theorem invariant {P : Transcript σ ι α → Prop} {w : World σ} (start : P { world := w })
    (step : ∀ t i, P t → P (t.extend perform i)) (steps : List ι) :
    P (of perform w steps) := by
  have hfold (t : Transcript σ ι α) (ht : P t) : P (steps.foldl (extend perform) t) := by
    induction steps generalizing t with
    | nil => exact ht
    | cons i rest ih => exact ih _ (step t i ht)
  exact hfold _ start

end Transcript

end Switchboard
