import ClientMigration.Batch

/-! # Batches in every order

Whatever order the items start and finish in, a batch ends with the result of each item at its own place. The
invariant says of every place whether its result is still missing; the events that are still to come say how far
the batch is. -/

namespace ClientMigration
namespace Batch

section
variable {α β : Type} {work : α → β} {items : List α} {permits : Nat} {b b' : Batch β} {e : BatchEvent}

/-! ### Steps -/

theorem step_cases (h : step work items permits b e = some b') :
    (∃ i, e = .start i ∧ i ∈ b.waiting ∧ b.inFlight.length < permits ∧
      b' = { b with waiting := b.waiting.erase i, inFlight := i :: b.inFlight }) ∨
    (∃ i, e = .finish i ∧ i ∈ b.inFlight ∧
      b' = { b with inFlight := b.inFlight.erase i, results := b.results.set i ((items[i]?).map work) }) := by
  cases e with
  | start i =>
    rw [step] at h
    split at h
    · rename_i hi
      exact Or.inl ⟨i, rfl, hi.1, hi.2, (Option.some.inj h).symm⟩
    · cases h
  | finish i =>
    rw [step] at h
    split at h
    · rename_i hi
      exact Or.inr ⟨i, rfl, hi, (Option.some.inj h).symm⟩
    · cases h

theorem isDone_iff : b.isDone = true ↔ b.waiting = [] ∧ b.inFlight = [] := by
  rw [isDone, Bool.and_eq_true, List.isEmpty_iff, List.isEmpty_iff]

/-- With a permit, a batch that is not done goes on: what is in flight can finish, and else an item can start. -/
theorem exists_step (hp : 0 < permits) (h : b.isDone = false) : ∃ e b', step work items permits b e = some b' := by
  cases hf : b.inFlight with
  | cons i rest =>
    have hi : i ∈ b.inFlight := hf ▸ List.mem_cons_self
    exact ⟨.finish i, _, if_pos hi⟩
  | nil =>
    cases hw : b.waiting with
    | cons i rest =>
      have hi : i ∈ b.waiting := hw ▸ List.mem_cons_self
      have hfree : b.inFlight.length < permits := by simpa [hf] using hp
      exact ⟨.start i, _, if_pos ⟨hi, hfree⟩⟩
    | nil =>
      rw [isDone_iff.mpr ⟨hw, hf⟩] at h
      cases h

/-! ### What every batch keeps -/

/-- The events that are still to come: waiting items start and finish, those in flight finish. -/
def remaining (b : Batch β) : List BatchEvent :=
  (b.waiting.flatMap fun i => [.start i, .finish i]) ++ b.inFlight.map .finish

theorem remaining_eq_nil_iff : b.remaining = [] ↔ b.isDone = true := by
  rw [isDone_iff, remaining, List.append_eq_nil_iff, List.map_eq_nil_iff, List.flatMap_eq_nil_iff]
  refine and_congr_left fun _ => ?_
  constructor
  · intro hall
    refine List.eq_nil_iff_forall_not_mem.mpr fun i hi => ?_
    cases hall i hi
  · rintro h i hi
    rw [h] at hi
    cases hi

theorem remaining_step (h : step work items permits b e = some b') : b.remaining.Perm (e :: b'.remaining) := by
  rcases step_cases h with ⟨i, rfl, hi, -, rfl⟩ | ⟨i, rfl, hi, rfl⟩
  · have hwait := (List.perm_cons_erase hi).flatMap_right fun i => [BatchEvent.start i, .finish i]
    refine (hwait.append_right _).trans ?_
    -- The finish of the item that started moves behind the events of those that wait.
    exact (List.perm_middle.symm).cons _
  · have hflight := (List.perm_cons_erase hi).map BatchEvent.finish
    exact (hflight.append_left _).trans List.perm_middle

/-- A place is open while its item waits or is in flight. -/
def Open (b : Batch β) (i : Nat) : Prop := i ∈ b.waiting ∨ i ∈ b.inFlight

instance (b : Batch β) (i : Nat) : Decidable (b.Open i) := inferInstanceAs (Decidable (_ ∨ _))

/-- Each place is open once at most and has no result then; every other place has the result of its own item. -/
structure Consistent (work : α → β) (items : List α) (permits : Nat) (b : Batch β) : Prop where
  nodup : (b.waiting ++ b.inFlight).Nodup
  results : ∀ i, b.results[i]? = (items[i]?).map fun x => if b.Open i then none else some (work x)
  limit : b.inFlight.length ≤ permits

theorem consistent_initial : Consistent work items permits (initial items.length) where
  nodup := by simpa [initial] using List.nodup_range
  results i := by
    by_cases hi : i < items.length
    · simp [initial, Open, hi]
    · simp [initial, hi]
  limit := Nat.zero_le _

theorem open_start_iff {i j : Nat} (hi : i ∈ b.waiting) :
    Open { b with waiting := b.waiting.erase i, inFlight := i :: b.inFlight } j ↔ b.Open j := by
  have hmem := (List.perm_cons_erase hi).mem_iff (a := j)
  simp only [Open, List.mem_cons] at hmem ⊢
  rw [hmem]
  exact or_left_comm.trans or_assoc.symm

theorem open_finish_iff {i j : Nat} (hj : i ≠ j) {results : List (Option β)} :
    Open { b with inFlight := b.inFlight.erase i, results := results } j ↔ b.Open j := by
  simp only [Open, List.mem_erase_of_ne hj.symm]

theorem Consistent.step (h : Consistent work items permits b) (hs : step work items permits b e = some b') :
    Consistent work items permits b' := by
  rcases step_cases hs with ⟨i, -, hi, hfree, rfl⟩ | ⟨i, -, hi, rfl⟩
  · refine ⟨?_, fun j => ?_, hfree⟩
    · have hperm := (List.perm_cons_erase hi).append_right b.inFlight
      exact (hperm.trans List.perm_middle.symm).nodup_iff.mp h.nodup
    · simp only [open_start_iff hi]
      exact h.results j
  · have hperm := (List.perm_cons_erase hi).append_left b.waiting
    have hnodup := (hperm.trans List.perm_middle).nodup_iff.mp h.nodup
    obtain ⟨hclosed, hrest⟩ := List.nodup_cons.mp hnodup
    refine ⟨hrest, fun j => ?_, Nat.le_trans List.length_erase_le h.limit⟩
    rw [List.mem_append] at hclosed
    dsimp only
    by_cases hj : i = j
    · subst hj
      rw [List.getElem?_set_self']
      cases hx : items[i]? with
      | none => simp [h.results, hx]
      | some x => simp [h.results, hx, Open, hclosed]
    · simp only [open_finish_iff hj]
      rw [List.getElem?_set_ne hj]
      exact h.results j

/-! ### Runs -/

theorem foldlM_inv : ∀ {schedule : List BatchEvent} {b b' : Batch β},
    schedule.foldlM (step work items permits) b = some b' → Consistent work items permits b →
    Consistent work items permits b' ∧ b.remaining.Perm (schedule ++ b'.remaining)
  | [], _, _, h, hb => by
    cases h
    exact ⟨hb, List.Perm.refl _⟩
  | e :: schedule, b, b', h, hb => by
    rw [List.foldlM_cons] at h
    obtain ⟨mid, hmid, hrest⟩ := Option.bind_eq_some_iff.mp h
    obtain ⟨hb', hperm⟩ := foldlM_inv hrest (hb.step hmid)
    exact ⟨hb', (remaining_step hmid).trans (hperm.cons e)⟩

theorem run_inv {schedule : List BatchEvent} (h : run work items permits schedule = some b) :
    Consistent work items permits b ∧ (schedule ++ b.remaining).Perm (inTurn items.length) := by
  obtain ⟨hb, hperm⟩ := foldlM_inv h consistent_initial
  refine ⟨hb, hperm.symm.trans (List.Perm.of_eq ?_)⟩
  simp [remaining, initial, inTurn]

/-- A batch that is done has the result of every item, in their order. -/
theorem Consistent.collected_eq (h : Consistent work items permits b) (hdone : b.isDone = true) :
    b.collected = items.map work := by
  obtain ⟨hw, hf⟩ := isDone_iff.mp hdone
  have hresults : b.results = items.map fun x => some (work x) := by
    refine List.ext_getElem? fun i => ?_
    rw [h.results, List.getElem?_map]
    simp [Open, hw, hf]
  rw [collected, hresults, List.filterMap_map]
  exact congrFun List.filterMap_eq_map' items

theorem run_append_singleton {schedule : List BatchEvent} (h : run work items permits schedule = some b)
    (hs : step work items permits b e = some b') : run work items permits (schedule ++ [e]) = some b' := by
  rw [run] at h
  rw [run, List.foldlM_append, h]
  simpa using hs

/-- One item after the other: each finds a permit, since none is in flight. -/
theorem foldlM_inTurn (hp : 0 < permits) : ∀ (places : List Nat) (results : List (Option β)),
    ∃ done, (places.flatMap fun i => [.start i, .finish i]).foldlM (step work items permits) ⟨places, [], results⟩ =
      some ⟨[], [], done⟩
  | [], results => ⟨results, rfl⟩
  | i :: places, results => by
    obtain ⟨done, hdone⟩ := foldlM_inTurn hp places (results.set i ((items[i]?).map work))
    refine ⟨done, ?_⟩
    rw [List.flatMap_cons, List.foldlM_append]
    have hturn : [BatchEvent.start i, .finish i].foldlM (step work items permits) ⟨i :: places, [], results⟩ =
        some ⟨places, [], results.set i ((items[i]?).map work)⟩ := by
      simp [step, hp]
    rw [hturn]
    exact hdone

theorem exists_run_inTurn (hp : 0 < permits) (work : α → β) (items : List α) :
    ∃ b, run work items permits (inTurn items.length) = some b ∧ b.isDone = true := by
  obtain ⟨done, h⟩ := @foldlM_inTurn α β work items permits hp (List.range items.length) (List.replicate items.length none)
  exact ⟨⟨[], [], done⟩, h, rfl⟩

end

theorem permits_pos (concurrency : Int) : 0 < permits concurrency := by
  rw [permits]
  omega

theorem permits_cast (concurrency : Int) : (permits concurrency : Int) = max 1 concurrency := by
  rw [permits]
  omega

end Batch

theorem Detector.analyzeUnits_eq_map (t : Detector) (units : List SourceUnit) (concurrency : Int) :
    t.analyzeUnits units concurrency = units.map fun u => t.analyze u.source u.dialect := by
  obtain ⟨b, hrun, hdone⟩ := Batch.exists_run_inTurn (Batch.permits_pos concurrency)
    (fun u : SourceUnit => t.analyze u.source u.dialect) units
  rw [analyzeUnits, hrun, Option.map_some, Option.getD_some]
  exact (Batch.run_inv hrun).1.collected_eq hdone

/-- The analyses of a batch come in the order of its units, whatever order the units start and finish in. A schedule
    tells what happened up to some moment: no more are in flight then than allowed, the events are some of those of all
    units, each once, and as long as one is left, the batch goes on. -/
theorem Detector.analyzeUnits_in_every_order (t : Detector) (units : List SourceUnit) (concurrency : Int) :
    t.analyzeUnits units concurrency = units.map (fun u => t.analyze u.source u.dialect) ∧
    ∀ schedule b, Batch.run (fun u : SourceUnit => t.analyze u.source u.dialect) units (Batch.permits concurrency)
        schedule = some b →
      (b.inFlight.length : Int) ≤ max 1 concurrency ∧
      (b.isDone = true → b.collected = units.map fun u => t.analyze u.source u.dialect) ∧
      (∃ rest, (schedule ++ rest).Perm (Batch.inTurn units.length) ∧ (rest = [] ↔ b.isDone = true)) ∧
      (b.isDone = false → ∃ e b', Batch.run (fun u : SourceUnit => t.analyze u.source u.dialect) units
        (Batch.permits concurrency) (schedule ++ [e]) = some b') := by
  refine ⟨t.analyzeUnits_eq_map units concurrency, fun schedule b hrun => ?_⟩
  obtain ⟨hb, hperm⟩ := Batch.run_inv hrun
  refine ⟨?_, hb.collected_eq, ⟨b.remaining, hperm, Batch.remaining_eq_nil_iff⟩, fun hnot => ?_⟩
  · rw [← Batch.permits_cast]
    exact Int.ofNat_le.mpr hb.limit
  · obtain ⟨e, b', hstep⟩ := Batch.exists_step (Batch.permits_pos concurrency) hnot
    exact ⟨e, b', Batch.run_append_singleton hrun hstep⟩

end ClientMigration
