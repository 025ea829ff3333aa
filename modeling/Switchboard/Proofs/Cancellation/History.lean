import Mathlib.Data.List.Induction
import Switchboard.Proofs.Cancellation.Waiting

/-!
# Histories of sources

Whether a source is cancelled is a fact about the operations made so far: it
was cancelled at some point, and had not been dropped before then
(`Operation.Cancelled`). `Session.Recalls` says that the flags of a session
are these facts, and every operation keeps it (`Session.Stepped.recalls`).
-/

namespace Switchboard.Cancellation

/-! ## Histories -/

namespace Operation

def isSource : Operation → Bool
  | source => true
  | _ => false

/-- How many sources the operations create. -/
def sourceCount (ops : List Operation) : Nat :=
  ops.countP isSource

/-- One of the operations is `op`, made when `P` held of those before it. -/
def MadeWhen (P : List Operation → Prop) (op : Operation) (ops : List Operation) : Prop :=
  ∃ earlier later, ops = earlier ++ op :: later ∧ P earlier

/-- Source number `id` has been created and then dropped. -/
def Dropped (id : SourceId) : List Operation → Prop :=
  MadeWhen (fun earlier => id < sourceCount earlier) (.drop id)

/-- Source number `id` has been created and then cancelled, before it was dropped. -/
def Cancelled (id : SourceId) : List Operation → Prop :=
  MadeWhen (fun earlier => id < sourceCount earlier ∧ ¬ Dropped id earlier) (.cancel id)

variable {P : List Operation → Prop} {op last : Operation} {ops : List Operation} {id : SourceId}

theorem madeWhen_append_singleton :
    MadeWhen P op (ops ++ [last]) ↔ MadeWhen P op ops ∨ last = op ∧ P ops := by
  constructor
  · rintro ⟨earlier, later, heq, hP⟩
    rcases List.eq_nil_or_concat later with rfl | ⟨later, x, rfl⟩
    · obtain ⟨rfl, hlast⟩ := List.append_inj' heq rfl
      exact .inr ⟨List.singleton_inj.mp hlast, hP⟩
    · have hsplit : ops ++ [last] = (earlier ++ op :: later) ++ [x] := by simpa using heq
      obtain ⟨rfl, -⟩ := List.append_inj' hsplit rfl
      exact .inl ⟨earlier, later, rfl, hP⟩
  · rintro (⟨earlier, later, rfl, hP⟩ | ⟨rfl, hP⟩)
    · exact ⟨earlier, later ++ [last], by simp, hP⟩
    · exact ⟨ops, [], rfl, hP⟩

theorem MadeWhen.append (h : MadeWhen P op ops) (more : List Operation) :
    MadeWhen P op (ops ++ more) := by
  obtain ⟨earlier, later, rfl, hP⟩ := h
  exact ⟨earlier, later ++ more, by simp, hP⟩

theorem dropped_append_singleton :
    Dropped id (ops ++ [op]) ↔ Dropped id ops ∨ op = .drop id ∧ id < sourceCount ops :=
  madeWhen_append_singleton

theorem cancelled_append_singleton :
    Cancelled id (ops ++ [op]) ↔
      Cancelled id ops ∨ op = .cancel id ∧ id < sourceCount ops ∧ ¬ Dropped id ops :=
  madeWhen_append_singleton

theorem sourceCount_append_source (ops : List Operation) :
    sourceCount (ops ++ [.source]) = sourceCount ops + 1 :=
  List.countP_append

theorem sourceCount_append_other (h : op.isSource = false) :
    sourceCount (ops ++ [op]) = sourceCount ops := by
  rw [sourceCount, List.countP_append, List.countP_singleton, h]
  rfl

/-- Only what has been created can have been cancelled or dropped. -/
theorem MadeWhen.lt (h : MadeWhen P op ops) (hP : ∀ earlier, P earlier → id < sourceCount earlier) :
    id < sourceCount ops := by
  obtain ⟨earlier, later, rfl, hearlier⟩ := h
  rw [sourceCount, List.countP_append]
  exact Nat.lt_of_lt_of_le (hP earlier hearlier) (Nat.le_add_right _ _)

theorem Dropped.lt (h : Dropped id ops) : id < sourceCount ops :=
  MadeWhen.lt h fun _ h => h

theorem Cancelled.lt (h : Cancelled id ops) : id < sourceCount ops :=
  MadeWhen.lt h fun _ h => h.1

/-- A source that was dropped in time is not cancelled later on. -/
theorem not_cancelled_of_dropped (hdropped : Dropped id ops) (hopen : ¬ Cancelled id ops)
    (more : List Operation) : ¬ Cancelled id (ops ++ more) := by
  induction more using List.reverseRecOn with
  | nil => rwa [List.append_nil]
  | append_singleton more op ih =>
      rw [← List.append_assoc, cancelled_append_singleton]
      rintro (hearlier | ⟨-, -, hkept⟩)
      · exact ih hearlier
      · exact hkept (MadeWhen.append hdropped more)

end Operation

open Operation

namespace Session

/-- The session after more operations. -/
def after (s : Session) (ops : List Operation) : Session :=
  ops.foldl (fun s op => (s.step op).2) s

theorem after_append (s : Session) (ops more : List Operation) :
    s.after (ops ++ more) = (s.after ops).after more :=
  List.foldl_append

theorem after_append_singleton (s : Session) (ops : List Operation) (op : Operation) :
    s.after (ops ++ [op]) = ((s.after ops).step op).2 :=
  s.after_append ops [op]

theorem Sound.after {s : Session} (hs : s.Sound) (ops : List Operation) : (s.after ops).Sound := by
  induction ops using List.reverseRecOn with
  | nil => exact hs
  | append_singleton ops op ih =>
      rw [after_append_singleton]
      exact (stepped _ op).sound ih

/-! ## The flags of the sources -/

/-- The flags of the sources are facts about the operations so far. -/
structure Recalls (ops : List Operation) (s : Session) : Prop where
  count : s.sources.length = sourceCount ops
  cancelled : ∀ {id source}, s.sources[id]? = some source →
    (source.cancelled = true ↔ Cancelled id ops)
  dropped : ∀ {id source}, s.sources[id]? = some source → (source.dropped = true ↔ Dropped id ops)

/-- A source of a grown list is an old one, or the new one at its end. -/
theorem getElem?_grown {sources : Sources} {new source : Source} {id : SourceId}
    (h : (sources ++ [new])[id]? = some source) :
    sources[id]? = some source ∨ id = sources.length ∧ source = new := by
  rcases Nat.lt_or_ge id sources.length with hlt | hge
  · rw [List.getElem?_append_left hlt] at h
    exact .inl h
  · rw [List.getElem?_append_right hge, List.getElem?_singleton] at h
    split at h
    · cases h
      exact .inr ⟨Nat.le_antisymm (Nat.sub_eq_zero_iff_le.mp ‹_›) hge, rfl⟩
    · cases h

theorem getElem?_modified {sources : Sources} {change : Source → Source} {source : Source}
    {id i : SourceId} (h : (sources.modify id change)[i]? = some source) :
    ∃ old, sources[i]? = some old ∧ source = if id = i then change old else old := by
  rw [List.getElem?_modify] at h
  cases hold : sources[i]? with
  | none =>
      rw [hold] at h
      cases h
  | some old =>
      rw [hold] at h
      exact ⟨old, rfl, (Option.some.inj h).symm⟩

namespace Recalls

variable {ops : List Operation} {s s' : Session}

theorem start : Recalls [] {} where
  count := rfl
  cancelled h := by cases h
  dropped h := by cases h

/-- An operation that leaves the sources alone. -/
theorem keep (h : Recalls ops s) {op : Operation} (hsources : s'.sources = s.sources)
    (hkeeps : op.keepsSources = true) : Recalls (ops ++ [op]) s' where
  count := by
    have hop : op.isSource = false := by
      cases op <;> first | rfl | cases hkeeps
    rw [hsources, h.count, sourceCount_append_other hop]
  cancelled {id source} hid := by
    have hop : op ≠ .cancel id := by
      rintro rfl
      cases hkeeps
    rw [hsources] at hid
    simp [cancelled_append_singleton, hop, h.cancelled hid]
  dropped {id source} hid := by
    have hop : op ≠ .drop id := by
      rintro rfl
      cases hkeeps
    rw [hsources] at hid
    simp [dropped_append_singleton, hop, h.dropped hid]

theorem grow (h : Recalls ops s) : Recalls (ops ++ [.source]) (s.step .source).2 where
  count := by
    rw [sourceCount_append_source, ← h.count]
    exact List.length_append
  cancelled {id source} hid := by
    rw [cancelled_append_singleton]
    simp only [reduceCtorEq, false_and, or_false]
    rcases getElem?_grown hid with hold | ⟨hnew, rfl⟩
    · exact h.cancelled hold
    · refine iff_of_false nofun fun hcancelled => ?_
      exact Nat.lt_irrefl _ (h.count ▸ hnew ▸ hcancelled.lt)
  dropped {id source} hid := by
    rw [dropped_append_singleton]
    simp only [reduceCtorEq, false_and, or_false]
    rcases getElem?_grown hid with hold | ⟨hnew, rfl⟩
    · exact h.dropped hold
    · refine iff_of_false nofun fun hdropped => ?_
      exact Nat.lt_irrefl _ (h.count ▸ hnew ▸ hdropped.lt)

/-- A change of source number `id` by an operation that says so. -/
theorem modify (h : Recalls ops s) {op : Operation} (hop : op.isSource = false) (id : SourceId)
    {change : Source → Source}
    (hcancelled : ∀ i source, s.sources[i]? = some source →
      (((if id = i then change source else source).cancelled = true) ↔ Cancelled i (ops ++ [op])))
    (hdropped : ∀ i source, s.sources[i]? = some source →
      (((if id = i then change source else source).dropped = true) ↔ Dropped i (ops ++ [op]))) :
    Recalls (ops ++ [op]) { s with sources := s.sources.modify id change } where
  count := by rw [List.length_modify, h.count, sourceCount_append_other hop]
  cancelled {i source} hi := by
    obtain ⟨old, hold, rfl⟩ := getElem?_modified hi
    exact hcancelled i old hold
  dropped {i source} hi := by
    obtain ⟨old, hold, rfl⟩ := getElem?_modified hi
    exact hdropped i old hold

end Recalls

theorem Stepped.recalls {ops : List Operation} {s s' : Session} {op : Operation} {reply : Reply}
    (h : Stepped s op reply s') (hr : Recalls ops s) : Recalls (ops ++ [op]) s' := by
  cases h with
  | source => exact hr.grow
  | cancel id =>
      refine hr.modify rfl id (fun i source hi => ?_) fun i source hi => ?_
      · rw [cancelled_append_singleton, ← hr.cancelled hi, ← hr.dropped hi, ← hr.count]
        have hlt : i < s.sources.length := (List.getElem?_eq_some_iff.mp hi).1
        by_cases hid : id = i
        · subst hid
          cases hdropped : source.dropped <;> simp [Source.cancel, hdropped, hlt]
        · simp [hid]
      · rw [dropped_append_singleton, ← hr.dropped hi]
        by_cases hid : id = i
        · subst hid
          cases hdropped : source.dropped <;> simp [Source.cancel, hdropped]
        · simp [hid]
  | drop id =>
      refine hr.modify rfl id (fun i source hi => ?_) fun i source hi => ?_
      · rw [cancelled_append_singleton, ← hr.cancelled hi]
        by_cases hid : id = i <;> simp [Source.drop, hid]
      · rw [dropped_append_singleton, ← hr.dropped hi, ← hr.count]
        have hlt : i < s.sources.length := (List.getElem?_eq_some_iff.mp hi).1
        by_cases hid : id = i
        · subst hid
          simp [Source.drop, hlt]
        · simp [hid]
  | signal => exact hr.keep rfl rfl
  | clone => exact hr.keep rfl rfl
  | never => exact hr.keep rfl rfl
  | check => exact hr.keep rfl rfl
  | wait => exact hr.keep rfl rfl
  | poll => exact hr.keep rfl rfl
  | idle hkeeps => exact hr.keep rfl hkeeps

theorem recalls_after (ops : List Operation) : Recalls ops (Session.after {} ops) := by
  induction ops using List.reverseRecOn with
  | nil => exact .start
  | append_singleton ops op ih =>
      rw [after_append_singleton]
      exact (stepped _ op).recalls ih

/-- A signal is cancelled just if its source was, before it was dropped. -/
theorem Recalls.isCancelled_source {ops : List Operation} {s : Session} (h : Recalls ops s)
    (id : SourceId) : s.isCancelled (.source id) = true ↔ Cancelled id ops := by
  simp only [isCancelled, Sources.isCancelled]
  cases hid : s.sources[id]? with
  | some source => exact h.cancelled hid
  | none =>
      refine iff_of_false Bool.false_ne_true fun hcancelled => ?_
      exact Nat.not_lt.mpr (List.getElem?_eq_none_iff.mp hid) (h.count ▸ hcancelled.lt)

end Session

end Switchboard.Cancellation
