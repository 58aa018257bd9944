import ClientMigration.Proofs.Catalog.Independence
import Mathlib.Data.List.Nodup

/-! # Registration

A list of signatures makes a catalog exactly if no idiom comes twice and every recipe lists its edits by increasing
order. Otherwise the first signature that does not go with those before it is at fault, for its idiom or else for the
first of its recipes that is out of order. The orders of such a recipe are part of the report, which fails itself where
one of them has too many digits. A catalog is the list it was made of: what is looked up is found where it was
registered, and the edits of a recipe are carried out as they are listed. -/

namespace ClientMigration

/-! ### Edits in order -/

/-- Of any two edits, the one listed first has the smaller order. -/
def Recipe.InOrder (r : Recipe) : Prop := r.edits.Pairwise fun a b => a.order < b.order

/-- The orders of the edits can be written down. -/
def Recipe.OrdersWritable (r : Recipe) : Prop := ∀ e ∈ r.edits, (Number.int e.order).isWritable = true

theorem Value.isWritable_ofInts (is : List Int) :
    (Value.list (is.map .ofInt)).isWritable = true ↔ ∀ i ∈ is, (Number.int i).isWritable = true := by
  rw [isWritable]
  induction is with
  | nil => simp [areWritable]
  | cons i is ih => simp [areWritable, ih, isWritable, ofInt]

theorem Recipe.ordered_of_inOrder {r : Recipe} (h : r.InOrder) : r.ordered = r.edits := by
  apply List.mergeSort_of_pairwise
  exact h.imp fun hlt => decide_eq_true (Int.le_of_lt hlt)

namespace Catalog

theorem strictlyIncreasing_iff : ∀ {ks : List Int}, strictlyIncreasing ks = true ↔ ks.Pairwise (· < ·)
  | [] => by simp [strictlyIncreasing]
  | [k] => by simp [strictlyIncreasing]
  | j :: k :: ks => by
    rw [strictlyIncreasing, Bool.and_eq_true, decide_eq_true_eq, strictlyIncreasing_iff, List.pairwise_cons (a := j)]
    constructor
    · rintro ⟨hjk, hrest⟩
      refine ⟨fun i hi => ?_, hrest⟩
      rcases List.mem_cons.mp hi with rfl | hi
      · exact hjk
      · exact Int.lt_trans hjk (List.rel_of_pairwise_cons hrest hi)
    · rintro ⟨hfirst, hrest⟩
      exact ⟨hfirst k List.mem_cons_self, hrest⟩

@[simp] theorem strictlyIncreasing_orders_iff {r : Recipe} :
    strictlyIncreasing (r.edits.map (·.order)) = true ↔ r.InOrder := by
  rw [strictlyIncreasing_iff, List.pairwise_map]
  rfl

@[simp] theorem recipeFailure?_eq_none_iff {r : Recipe} : recipeFailure? r = none ↔ r.InOrder := by
  rw [recipeFailure?, ← strictlyIncreasing_orders_iff]
  simp

/-- The failure of a recipe out of order: its orders are reported, or cannot be. -/
inductive Misorders (r : Recipe) : Failure → Prop where
  | reported : r.OrdersWritable → Misorders r (.fault (.unorderedEdits r.name (r.edits.map (·.order))))
  | unwritable : ¬r.OrdersWritable → Misorders r (.number .unwritable)

theorem misorders_iff {r : Recipe} {f : Failure} : Misorders r f ↔
    f = .reporting (.list ((r.edits.map (·.order)).map .ofInt)) (.unorderedEdits r.name (r.edits.map (·.order))) := by
  have hwritable : (Value.list ((r.edits.map (·.order)).map .ofInt)).isWritable = true ↔ r.OrdersWritable := by
    rw [Value.isWritable_ofInts, List.forall_mem_map]
    rfl
  rw [Failure.reporting]
  split
  · rename_i h
    rw [hwritable] at h
    constructor
    · rintro (_ | hnot)
      · rfl
      · exact absurd h hnot
    · rintro rfl
      exact .reported h
  · rename_i h
    rw [hwritable] at h
    constructor
    · rintro (hall | _)
      · exact absurd hall h
      · rfl
    · rintro rfl
      exact .unwritable h

theorem recipeFailure?_eq_some_iff {r : Recipe} {f : Failure} :
    recipeFailure? r = some f ↔ ¬r.InOrder ∧ Misorders r f := by
  rw [recipeFailure?, ← strictlyIncreasing_orders_iff, misorders_iff]
  split
  · simp [*]
  · simp [*, eq_comm (a := f)]

/-! ### Failures -/

/-- No idiom comes twice, and all recipes list their edits in order. -/
structure Consistent (es : List Signature) : Prop where
  distinct : (es.map (·.idiom)).Nodup
  inOrder : ∀ e ∈ es, ∀ r ∈ e.recipes, r.InOrder

/-- What is wrong with a signature that comes behind others: its idiom is theirs, or else one of its recipes is the
    first that is out of order. -/
inductive Offends (before : List Signature) (e : Signature) : Failure → Prop where
  | repeated : e.idiom ∈ before.map (·.idiom) → Offends before e (.fault (.duplicateIdiom e.idiom))
  | outOfOrder {rs rs' : List Recipe} {r : Recipe} {f : Failure} : e.idiom ∉ before.map (·.idiom) →
      e.recipes = rs ++ r :: rs' → (∀ q ∈ rs, q.InOrder) → ¬r.InOrder → Misorders r f → Offends before e f

/-- The failure is a problem of the catalog. -/
def IsCatalogFailure (f : Failure) : Prop := ∃ g, f = .fault g ∧ g.toProblem.kind = .catalog

theorem Offends.cases {before : List Signature} {e : Signature} {f : Failure} (h : Offends before e f) :
    IsCatalogFailure f ∨ f = .number .unwritable := by
  cases h with
  | repeated => exact Or.inl ⟨_, rfl, rfl⟩
  | outOfOrder _ _ _ _ hmisorders =>
    cases hmisorders with
    | reported => exact Or.inl ⟨_, rfl, rfl⟩
    | unwritable => exact Or.inr rfl

theorem entryFailure?_eq_some_iff {seen : List Idiom} {before : List Signature}
    (hseen : ∀ i, i ∈ seen ↔ i ∈ before.map (·.idiom)) {e : Signature} {f : Failure} :
    entryFailure? seen e = some f ↔ Offends before e f := by
  rw [entryFailure?]
  split
  · rename_i hold
    rw [List.contains_iff_mem, hseen] at hold
    constructor
    · rintro ⟨⟩
      exact .repeated hold
    · rintro (_ | ⟨hnew, -, -, -⟩)
      · rfl
      · exact absurd hold hnew
  · rename_i hnew
    rw [List.contains_iff_mem, hseen] at hnew
    rw [List.findSome?_eq_some_iff]
    constructor
    · rintro ⟨rs, r, rs', hrecipes, hr, hrs⟩
      obtain ⟨hunordered, hf⟩ := recipeFailure?_eq_some_iff.mp hr
      exact .outOfOrder hnew hrecipes (fun q hq => recipeFailure?_eq_none_iff.mp (hrs q hq)) hunordered hf
    · rintro (hold | ⟨-, hrecipes, hrs, hr, hf⟩)
      · exact absurd hold hnew
      · exact ⟨_, _, _, hrecipes, recipeFailure?_eq_some_iff.mpr ⟨hr, hf⟩,
          fun q hq => recipeFailure?_eq_none_iff.mpr (hrs q hq)⟩

/-- The first failure is that of the signature which ends the longest part without one. -/
theorem firstFailure?_eq_some_iff {f : Failure} : ∀ {es : List Signature} {seen : List Idiom},
    firstFailure? seen es = some f ↔ ∃ before e behind, es = before ++ e :: behind ∧ firstFailure? seen before = none ∧
      entryFailure? ((before.map (·.idiom)).reverse ++ seen) e = some f
  | [], seen => by simp [firstFailure?]
  | x :: es, seen => by
    rw [firstFailure?]
    cases hx : entryFailure? seen x with
    | some g =>
      constructor
      · rintro ⟨⟩
        exact ⟨[], x, es, rfl, rfl, hx⟩
      · rintro ⟨_ | ⟨y, before⟩, e, behind, hes, hbefore, he⟩
        · cases hes
          exact hx.symm.trans he
        · cases hes
          simp [firstFailure?, hx] at hbefore
    | none =>
      rw [firstFailure?_eq_some_iff]
      constructor
      · rintro ⟨before, e, behind, rfl, hbefore, he⟩
        refine ⟨x :: before, e, behind, rfl, ?_, ?_⟩
        · rw [firstFailure?, hx]
          exact hbefore
        · rwa [List.map_cons, List.reverse_cons, List.append_assoc]
      · rintro ⟨_ | ⟨y, before⟩, e, behind, hes, hbefore, he⟩
        · cases hes
          rw [List.map_nil, List.reverse_nil, List.nil_append, hx] at he
          cases he
        · cases hes
          rw [firstFailure?, hx] at hbefore
          rw [List.map_cons, List.reverse_cons, List.append_assoc] at he
          exact ⟨before, e, behind, rfl, hbefore, he⟩

theorem firstFailure?_nil_eq_none_iff {es : List Signature} : firstFailure? [] es = none ↔ Consistent es := by
  rw [firstFailure?_eq_none_iff]
  constructor
  · rintro ⟨-, hdistinct, hrecipes⟩
    exact ⟨hdistinct, fun e he r hr => recipeFailure?_eq_none_iff.mp (hrecipes e he r hr)⟩
  · rintro ⟨hdistinct, hrecipes⟩
    exact ⟨fun _ _ => List.not_mem_nil, hdistinct, fun e he r hr => recipeFailure?_eq_none_iff.mpr (hrecipes e he r hr)⟩

theorem ofList_eq_error_iff {es : List Signature} {f : Failure} : ofList es = .error f ↔
    ∃ before e behind, es = before ++ e :: behind ∧ Consistent before ∧ Offends before e f := by
  have hfirst : ofList es = .error f ↔ firstFailure? [] es = some f := by
    rw [ofList]
    cases firstFailure? [] es <;> simp
  rw [hfirst, firstFailure?_eq_some_iff]
  refine exists_congr fun before => exists_congr fun e => exists_congr fun behind => ?_
  rw [firstFailure?_nil_eq_none_iff, entryFailure?_eq_some_iff fun i => by rw [List.append_nil, List.mem_reverse]]

/-- The signature that is refused is so for its idiom, or for a recipe whose orders can be written. -/
def Reportable (es : List Signature) : Prop :=
  ∀ before e behind rs r rs', es = before ++ e :: behind → Consistent before → e.idiom ∉ before.map (·.idiom) →
    e.recipes = rs ++ r :: rs' → (∀ q ∈ rs, q.InOrder) → ¬r.InOrder → r.OrdersWritable

theorem isCatalogFailure_iff_reportable {es : List Signature} :
    (∀ f, ofList es = .error f → IsCatalogFailure f) ↔ Reportable es := by
  constructor
  · intro hall before e behind rs r rs' hes hbefore hnew hrecipes hrs hr
    apply Classical.byContradiction
    intro hunwritable
    have hoffends : Offends before e (.number .unwritable) :=
      .outOfOrder hnew hrecipes hrs hr (.unwritable hunwritable)
    obtain ⟨g, hg, -⟩ := hall _ (ofList_eq_error_iff.mpr ⟨before, e, behind, hes, hbefore, hoffends⟩)
    cases hg
  · intro hreportable f hf
    obtain ⟨before, e, behind, hes, hbefore, hoffends⟩ := ofList_eq_error_iff.mp hf
    cases hoffends with
    | repeated => exact ⟨_, rfl, rfl⟩
    | outOfOrder hnew hrecipes hrs hr hmisorders =>
      have hwritable := hreportable _ _ _ _ _ _ hes hbefore hnew hrecipes hrs hr
      cases hmisorders with
      | reported => exact ⟨_, rfl, rfl⟩
      | unwritable hunwritable => exact absurd hwritable hunwritable

/-! ### Lookups -/

theorem get?_eq_some_iff {es : List Signature} (hes : (es.map (·.idiom)).Nodup) {i : Idiom} {e : Signature} :
    get? ⟨es⟩ i = some e ↔ e ∈ es ∧ e.idiom = i := by
  constructor
  · intro h
    exact ⟨List.mem_of_find?_eq_some h, by simpa using List.find?_some h⟩
  · rintro ⟨he, rfl⟩
    cases hget : get? ⟨es⟩ e.idiom with
    | none => exact absurd (beq_self_eq_true e.idiom) (List.find?_eq_none.mp hget e he)
    | some x =>
      have hidiom : x.idiom = e.idiom := by simpa using List.find?_some hget
      rw [List.inj_on_of_nodup_map hes (List.mem_of_find?_eq_some hget) he hidiom]

end Catalog

theorem Idiom.ofName?_eq_some_iff {s : String} {i : Idiom} : ofName? s = some i ↔ i.name = s := by
  constructor
  · intro h
    simpa using List.find?_some h
  · rintro rfl
    cases i <;> decide

namespace Catalog

theorem named?_eq_some_iff {es : List Signature} (hes : (es.map (·.idiom)).Nodup) {name : String} {e : Signature} :
    named? ⟨es⟩ name = some e ↔ e ∈ es ∧ Text.lower (Text.strip name) = e.idiom.name := by
  rw [named?, Option.bind_eq_some_iff]
  constructor
  · rintro ⟨i, hi, he⟩
    obtain ⟨hmem, rfl⟩ := (get?_eq_some_iff hes).mp he
    exact ⟨hmem, (Idiom.ofName?_eq_some_iff.mp hi).symm⟩
  · rintro ⟨he, hname⟩
    exact ⟨e.idiom, Idiom.ofName?_eq_some_iff.mpr hname.symm, (get?_eq_some_iff hes).mpr ⟨he, rfl⟩⟩

/-- The recipe is the first of its name in the first signature that has one of the name. -/
def FirstNamed (es : List Signature) (name : String) (r : Recipe) : Prop :=
  ∃ before e behind rs rs', es = before ++ e :: behind ∧ e.recipes = rs ++ r :: rs' ∧ r.name = name ∧
    (∀ x ∈ before, ∀ q ∈ x.recipes, q.name ≠ name) ∧ ∀ q ∈ rs, q.name ≠ name

theorem recipe?_eq_some_iff {es : List Signature} {name : String} {r : Recipe} :
    recipe? ⟨es⟩ name = some r ↔ FirstNamed es name r := by
  have hnone : ∀ {rs : List Recipe}, rs.find? (·.name == name) = none ↔ ∀ q ∈ rs, q.name ≠ name := by
    intro rs
    simp [List.find?_eq_none]
  rw [recipe?, List.find?_flatMap, List.findSome?_eq_some_iff]
  constructor
  · rintro ⟨before, e, behind, hes, hr, hbefore⟩
    obtain ⟨hname, rs, rs', hrecipes, hrs⟩ := List.find?_eq_some_iff_append.mp hr
    exact ⟨before, e, behind, rs, rs', hes, hrecipes, beq_iff_eq.mp hname, fun x hx => hnone.mp (hbefore x hx),
      fun q hq => by simpa using hrs q hq⟩
  · rintro ⟨before, e, behind, rs, rs', hes, hrecipes, hname, hbefore, hrs⟩
    refine ⟨before, e, behind, hes, ?_, fun x hx => hnone.mpr (hbefore x hx)⟩
    exact List.find?_eq_some_iff_append.mpr
      ⟨beq_iff_eq.mpr hname, rs, rs', hrecipes, fun q hq => by simpa using hrs q hq⟩

/-- The catalog holds the signatures as they were listed: each is found by its idiom and by the name of that, a recipe
    by its name, and recipes are carried out as listed. -/
structure Registers (c : Catalog) (es : List Signature) : Prop where
  entries : c.entries = es
  get : ∀ i e, c.get? i = some e ↔ e ∈ es ∧ e.idiom = i
  named : ∀ name e, c.named? name = some e ↔ e ∈ es ∧ Text.lower (Text.strip name) = e.idiom.name
  recipe : ∀ name r, c.recipe? name = some r ↔ FirstNamed es name r
  asListed : ∀ e ∈ es, ∀ r ∈ e.recipes, r.ordered = r.edits

theorem Consistent.registers {es : List Signature} (h : Consistent es) : Registers ⟨es⟩ es where
  entries := rfl
  get _ _ := get?_eq_some_iff h.distinct
  named _ _ := named?_eq_some_iff h.distinct
  recipe _ _ := recipe?_eq_some_iff
  asListed e he r hr := Recipe.ordered_of_inOrder (h.inOrder e he r hr)

end Catalog

end ClientMigration
