import ClientMigration.Supplied.Dependencies
import ClientMigration.Supplied.Optimizations

/-! # Failures to read supplied data

Data that cannot be read is reported as a fault of the input, with two exceptions. The order of a dependency phase may
be infinite, and an integer may be too long for the text that is made of it. Both leave the reader as failures of a
number. -/

namespace ClientMigration

/-! ### Reading step by step -/

/-- Whatever failure the reading ends with is of a kind. -/
def FailsOnly {α : Type} (kind : Failure → Prop) (r : Except Failure α) : Prop := ∀ f, r = .error f → kind f

namespace FailsOnly
variable {α β : Type} {kind kind' : Failure → Prop}

theorem ok (a : α) : FailsOnly kind (.ok a : Except Failure α) := fun _ h => nomatch h

theorem error {f : Failure} (h : kind f) : FailsOnly kind (.error f : Except Failure α) := by
  rintro _ ⟨⟩
  exact h

theorem mono {r : Except Failure α} (h : FailsOnly kind r) (hkind : ∀ f, kind f → kind' f) : FailsOnly kind' r :=
  fun f hf => hkind f (h f hf)

theorem orElse {other : Failure → Prop} {r : Except Failure α} (h : FailsOnly kind r) :
    FailsOnly (fun f => kind f ∨ other f) r := h.mono fun _ => Or.inl

theorem bind {r : Except Failure α} {next : α → Except Failure β} (h : FailsOnly kind r)
    (hnext : ∀ a, r = .ok a → FailsOnly kind (next a)) : FailsOnly kind (r >>= next) := by
  intro f hf
  cases r with
  | error e => exact h f (congrArg Except.error (Except.error.inj hf))
  | ok a => exact hnext a rfl f hf

end FailsOnly

/-- A list is read up to the first item that fails. -/
theorem mapM_eq_error_iff {α β : Type} {read : α → Except Failure β} {f : Failure} {xs : List α} :
    xs.mapM read = .error f ↔ ∃ before x behind, xs = before ++ x :: behind ∧
      (∃ ys, before.mapM read = .ok ys) ∧ read x = .error f := by
  constructor
  · intro h
    induction xs with
    | nil => cases h
    | cons x xs ih =>
      rw [List.mapM_cons] at h
      cases hx : read x with
      | error e =>
        rw [hx] at h
        exact ⟨[], x, xs, rfl, ⟨[], rfl⟩, hx.trans (congrArg Except.error (Except.error.inj h))⟩
      | ok y =>
        cases hxs : xs.mapM read with
        | error e =>
          rw [hx, hxs] at h
          have hrest := hxs.trans (congrArg Except.error (Except.error.inj h))
          obtain ⟨before, z, behind, rfl, ⟨ys, hbefore⟩, hz⟩ := ih hrest
          refine ⟨x :: before, z, behind, rfl, ⟨y :: ys, ?_⟩, hz⟩
          rw [List.mapM_cons, hx, hbefore]
          rfl
        | ok ys =>
          rw [hx, hxs] at h
          cases h
  · rintro ⟨before, z, behind, rfl, ⟨ys, hbefore⟩, hz⟩
    rw [List.mapM_append, hbefore, List.mapM_cons, hz]
    rfl

theorem FailsOnly.mapM {α β : Type} {kind : Failure → Prop} {read : α → Except Failure β} {xs : List α}
    (h : ∀ x ∈ xs, FailsOnly kind (read x)) : FailsOnly kind (xs.mapM read) := by
  intro f hf
  obtain ⟨before, x, behind, rfl, -, hx⟩ := mapM_eq_error_iff.mp hf
  exact h x (List.mem_append_right before List.mem_cons_self) f hx

/-! ### Values that have a text -/

namespace Value

theorem areWritable_iff : ∀ {vs : List Value}, areWritable vs = true ↔ ∀ v ∈ vs, v.isWritable = true
  | [] => by simp [areWritable]
  | v :: vs => by rw [areWritable, Bool.and_eq_true, areWritable_iff, List.forall_mem_cons]

theorem fieldsWritable_iff : ∀ {fs : List (String × Value)}, fieldsWritable fs = true ↔ ∀ x ∈ fs, x.2.isWritable = true
  | [] => by simp [fieldsWritable]
  | (k, v) :: fs => by rw [fieldsWritable, Bool.and_eq_true, fieldsWritable_iff, List.forall_mem_cons]

theorem entriesWritable_iff : ∀ {es : List (Value × Value)},
    entriesWritable es = true ↔ ∀ x ∈ es, x.1.isWritable = true ∧ x.2.isWritable = true
  | [] => by simp [entriesWritable]
  | (k, v) :: es => by
    rw [entriesWritable, Bool.and_eq_true, Bool.and_eq_true, entriesWritable_iff, List.forall_mem_cons]

/-- The fields of a value that has a text have texts. -/
theorem writable_of_mem_fields? {v : Value} (h : v.isWritable = true) {fields : List (String × Value)}
    (hfields : v.fields? = some fields) : ∀ x ∈ fields, x.2.isWritable = true := by
  cases v with
  | object fs =>
    cases hfields
    rw [isWritable] at h
    exact fieldsWritable_iff.mp h
  | mapping es =>
    rw [isWritable, entriesWritable_iff] at h
    cases hfields
    intro x hx
    obtain ⟨⟨k, w⟩, hmem, hsome⟩ := List.mem_filterMap.mp hx
    cases k with
    | str key =>
      cases hsome
      exact (h _ hmem).2
    | _ => cases hsome
  | _ => cases hfields

end Value

/-! ### Faults of the input -/

/-- The failure is reported as a fault of the input. -/
def Failure.IsInput (f : Failure) : Prop := ∃ g, f = .fault g ∧ g.toProblem.kind = .input

namespace Supplied

/-- The failure is reported as a fault of the input, unless the value has no text. -/
def Reported (v : Value) (f : Failure) : Prop := f.IsInput ∨ f = .number .unwritable ∧ v.isWritable = false

/-- The part has a text if the value has one. -/
def Within (v part : Value) : Prop := v.isWritable = true → part.isWritable = true

section Parts
variable {v w : Value} {fields : Fields}

theorem within_field (h : Within v w) (hfields : w.fields? = some fields) : ∀ x ∈ fields, Within v x.2 :=
  fun x hx hv => Value.writable_of_mem_fields? (h hv) hfields x hx

theorem within_lookup (h : ∀ x ∈ fields, Within v x.2) {key : String} (hw : fields.lookup key = some w) :
    Within v w := by
  obtain ⟨before, behind, rfl, -⟩ := List.lookup_eq_some_iff.mp hw
  exact h (key, w) (List.mem_append_right before List.mem_cons_self)

theorem within_first? (h : ∀ x ∈ fields, Within v x.2) {keys : List String} (hw : first? fields keys = some w) :
    Within v w := by
  obtain ⟨-, key, -, -, hkey, -⟩ := List.findSome?_eq_some_iff.mp hw
  exact within_lookup h (Option.filter_eq_some_iff.mp hkey).1

theorem within_item {what : String} {given : Option Value} (h : ∀ w, given = some w → Within v w) {vs : List Value}
    (hvs : items what given = .ok vs) : ∀ w ∈ vs, Within v w := by
  intro w hw hv
  match given, hvs with
  | none, hvs =>
    cases hvs
    cases hw
  | some (.list _), hvs =>
    cases hvs
    have hlist := h _ rfl hv
    rw [Value.isWritable] at hlist
    exact Value.areWritable_iff.mp hlist w hw

end Parts

/-! ### Reading fields -/

section Reading
variable {v w : Value} {fields : Fields} {given : Option Value}

theorem reported_unwritable (h : Within v w) (hw : ¬w.isWritable = true) : Reported v (.number .unwritable) :=
  Or.inr ⟨rfl, Bool.eq_false_iff.mpr fun hv => hw (h hv)⟩

theorem reported_reporting (h : Within v w) {g : Fault} (hg : g.toProblem.kind = .input) : Reported v (.reporting w g) := by
  rw [Failure.reporting]
  split
  · exact Or.inl ⟨g, rfl, hg⟩
  · rename_i hw
    exact reported_unwritable h hw

theorem failsOnly_textOf (h : Within v w) : FailsOnly (Reported v) (textOf w) := by
  rw [textOf, Value.textOrFailure]
  split
  · exact .ok _
  · rename_i hw
    exact .error (reported_unwritable h hw)

theorem failsOnly_object (h : Within v w) (what : String) : FailsOnly (Reported v) (object what w) := by
  rw [object]
  split
  · exact .ok _
  · exact .error (reported_reporting h rfl)

theorem failsOnly_required (owner key : String) : FailsOnly (Reported v) (required owner key fields) := by
  rw [required]
  split
  · exact .ok _
  · exact .error (Or.inl ⟨_, rfl, rfl⟩)

theorem failsOnly_firstText (h : ∀ x ∈ fields, Within v x.2) (keys : List String) :
    FailsOnly (Reported v) (firstText fields keys) := by
  rw [firstText]
  split
  · rename_i w hw
    exact failsOnly_textOf (within_first? h hw)
  · exact .ok _

theorem failsOnly_items (h : ∀ w, given = some w → Within v w) (what : String) :
    FailsOnly (Reported v) (items what given) := by
  rw [items.eq_def]
  split
  · exact .ok _
  · exact .ok _
  · exact .error (reported_reporting (h _ rfl) rfl)

theorem failsOnly_itemTexts (h : ∀ w, given = some w → Within v w) (what : String) :
    FailsOnly (Reported v) (itemTexts what given) :=
  .bind (failsOnly_items h what) fun _ hvs => .mapM fun w hw => failsOnly_textOf (within_item h hvs w hw)

theorem fields?_of_object {what : String} (h : object what w = .ok fields) : w.fields? = some fields := by
  rw [object] at h
  split at h
  · rename_i hfields
    cases h
    exact hfields
  · cases h

theorem lookup_of_required {owner key : String} (h : required owner key fields = .ok w) :
    fields.lookup key = some w := by
  rw [required] at h
  split at h
  · rename_i hw
    cases h
    exact hw
  · cases h

end Reading

end Supplied

open Supplied

/-! ### Dependency analyses -/

namespace DependencyPhase

/-- The phase is named, and its order is infinite. -/
def InfiniteOrder (p : Value) : Prop :=
  ∃ fields, p.fields? = some fields ∧ (∃ name, fields.lookup "name" = some name) ∧
    ∃ negative, first? fields ["order"] = some (.num (.float (.infinite negative)))

theorem failsOnly_orderOf {v given : Value} (h : Within v given) :
    FailsOnly (fun f => Reported v f ∨ f = .number .infinite ∧ ∃ negative, given = .num (.float (.infinite negative)))
      (orderOf given) := by
  cases given with
  | num n =>
    cases n with
    | int i => exact .ok _
    | float x =>
      cases x with
      | nan => exact .error (Or.inl (reported_reporting h rfl))
      | infinite negative => exact .error (Or.inr ⟨rfl, negative, rfl⟩)
      | finite => exact .ok _
  | bool b => exact .ok _
  | str s =>
    rw [orderOf]
    split
    · exact .ok _
    · exact .error (Or.inl (reported_reporting h rfl))
  | _ => exact .error (Or.inl (reported_reporting h rfl))

theorem failsOnly_actionText {v w : Value} (h : Within v w) : FailsOnly (Reported v) (actionText w) := by
  rw [actionText]
  split
  · rename_i fields hfields
    exact failsOnly_firstText (within_field h hfields) _
  · exact failsOnly_textOf h

/-- A phase fails to be read with a fault of the input, unless its order is infinite or it has no text. -/
theorem failsOnly_ofValue {v p : Value} (h : Within v p) :
    FailsOnly (fun f => Reported v f ∨ f = .number .infinite ∧ InfiniteOrder p) (ofValue p) := by
  refine .bind (.orElse (failsOnly_object h _)) fun fields hobject => ?_
  have hfields := fields?_of_object hobject
  have hwithin := within_field h hfields
  refine .bind (.orElse (failsOnly_required _ _)) fun name hrequired => ?_
  have hname := lookup_of_required hrequired
  refine .bind ?_ fun order _ => ?_
  · cases horder : first? fields ["order"] with
    | none => exact .ok _
    | some given =>
      refine (failsOnly_orderOf (within_first? hwithin horder)).mono fun f hf => hf.imp_right ?_
      rintro ⟨rfl, negative, rfl⟩
      exact ⟨rfl, fields, hfields, ⟨name, hname⟩, negative, horder⟩
  refine .bind (.orElse (failsOnly_textOf (within_lookup hwithin hname))) fun title _ => ?_
  refine .bind (.orElse (failsOnly_items (fun _ => within_first? hwithin) _)) fun given hgiven => ?_
  have hparts := within_item (fun _ => within_first? hwithin) hgiven
  refine .bind (.orElse (.mapM fun w hw => failsOnly_actionText (hparts w hw))) fun actions _ => ?_
  exact .bind (.orElse (failsOnly_itemTexts (fun _ => within_first? hwithin) _)) fun dependencies _ => .ok _

theorem ofValue_of_infiniteOrder {p : Value} (h : InfiniteOrder p) : ofValue p = .error (.number .infinite) := by
  obtain ⟨fields, hfields, ⟨name, hname⟩, negative, horder⟩ := h
  have hobject : object "Dependency phase" p = .ok fields := by rw [object, hfields]
  have hrequired : required "Dependency phase" "name" fields = .ok name := by rw [required, hname]
  rw [ofValue, hobject]
  show (required "Dependency phase" "name" fields >>= _) = _
  rw [hrequired, horder]
  rfl

end DependencyPhase

theorem DependencyRisk.failsOnly_ofValue {v r : Value} (h : Within v r) : FailsOnly (Reported v) (ofValue r) := by
  refine .bind (failsOnly_object h _) fun fields hobject => ?_
  have hwithin := within_field h (fields?_of_object hobject)
  refine .bind (failsOnly_firstText hwithin _) fun dependency _ => ?_
  refine .bind (failsOnly_firstText hwithin _) fun risk _ => ?_
  exact .bind (failsOnly_firstText hwithin _) fun mitigation _ => .ok _

namespace Dependencies

/-- The plan of the migration in the fields of an analysis. -/
def planIn (fields : Fields) : Value := (first? fields ["migration_plan", "migrationPlan"]).getD (.object [])

/-- Some phase of the plan is named and of infinite order, and the phases before it can be read. -/
def InfiniteOrder (v : Value) : Prop :=
  ∃ fields plan before p behind, v.fields? = some fields ∧ (planIn fields).fields? = some plan ∧
    first? plan ["phases"] = some (.list (before ++ p :: behind)) ∧
    (∃ phases, before.mapM DependencyPhase.ofValue = .ok phases) ∧ DependencyPhase.InfiniteOrder p

theorem within_planIn {v : Value} {fields : Fields} (h : ∀ x ∈ fields, Within v x.2) : Within v (planIn fields) := by
  rw [planIn]
  cases hgiven : first? fields ["migration_plan", "migrationPlan"] with
  | none => exact fun _ => rfl
  | some given => exact within_first? h hgiven

/-- Where a list is not empty, it was given as one. -/
theorem eq_list_of_items {what : String} {given : Option Value} {vs : List Value} (h : items what given = .ok vs)
    (hne : vs ≠ []) : given = some (.list vs) := by
  match given, h with
  | none, h =>
    cases h
    exact absurd rfl hne
  | some (.list _), h =>
    cases h
    rfl

/-- A dependency analysis fails to be read with a fault of the input, unless an order in it is infinite or the value
    has no text. -/
theorem failsOnly_ofValue (v : Value) :
    FailsOnly (fun f => Reported v f ∨ f = .number .infinite ∧ InfiniteOrder v) (ofValue v) := by
  rw [ofValue]
  split
  · exact .ok _
  refine .bind (.orElse (failsOnly_object id _)) fun fields hobject => ?_
  have hfields := fields?_of_object hobject
  have hplan := within_planIn (within_field id hfields)
  refine .bind (.orElse (failsOnly_object hplan _)) fun plan hobject => ?_
  have hentries := fields?_of_object hobject
  have hwithin := within_field hplan hentries
  refine .bind (.orElse (failsOnly_items (fun _ => within_first? hwithin) _)) fun given hgiven => ?_
  have hparts := within_item (fun _ => within_first? hwithin) hgiven
  refine .bind ?_ fun phases _ => ?_
  · intro f hf
    obtain ⟨before, p, behind, rfl, hbefore, hp⟩ := mapM_eq_error_iff.mp hf
    have hlisted := eq_list_of_items hgiven (List.append_ne_nil_of_right_ne_nil before (List.cons_ne_nil p behind))
    have hpart := hparts p (List.mem_append_right before List.mem_cons_self)
    refine (DependencyPhase.failsOnly_ofValue hpart f hp).imp_right ?_
    rintro ⟨rfl, hinfinite⟩
    exact ⟨rfl, fields, plan, before, p, behind, hfields, hentries, hlisted, hbefore, hinfinite⟩
  refine .bind (.orElse (failsOnly_items (fun _ => within_first? hwithin) _)) fun given hgiven => ?_
  have hparts := within_item (fun _ => within_first? hwithin) hgiven
  exact .bind (.orElse (.mapM fun r hr => DependencyRisk.failsOnly_ofValue (hparts r hr))) fun risks _ => .ok _

theorem ofValue_of_infiniteOrder {v : Value} (h : InfiniteOrder v) : ofValue v = .error (.number .infinite) := by
  obtain ⟨fields, plan, before, p, behind, hfields, hplan, hphases, hbefore, hp⟩ := h
  have hnull : ¬v.isNull = true := by
    cases v with
    | null => cases hfields
    | _ => exact Bool.false_ne_true
  have hobject : object "Dependency analysis" v = .ok fields := by rw [object, hfields]
  have hentries : object "migration_plan" (planIn fields) = .ok plan := by rw [object, hplan]
  have hfirst := mapM_eq_error_iff.mpr ⟨before, p, behind, rfl, hbefore, DependencyPhase.ofValue_of_infiniteOrder hp⟩
  rw [ofValue, if_neg hnull, hobject]
  show (object "migration_plan" (planIn fields) >>= _) = _
  rw [hentries]
  show (items "phases" (first? plan ["phases"]) >>= _) = _
  rw [hphases]
  show (List.mapM DependencyPhase.ofValue (before ++ p :: behind) >>= _) = _
  rw [hfirst]
  rfl

end Dependencies

/-! ### Optimization reports -/

theorem Optimization.failsOnly_ofValue {v o : Value} (h : Within v o) : FailsOnly (Reported v) (ofValue o) := by
  refine .bind (failsOnly_object h _) fun fields hobject => ?_
  have hwithin := within_field h (fields?_of_object hobject)
  refine .bind (failsOnly_required _ _) fun title hrequired => ?_
  refine .bind (failsOnly_textOf (within_lookup hwithin (lookup_of_required hrequired))) fun title _ => ?_
  refine .bind (failsOnly_firstText hwithin _) fun description _ => ?_
  exact .bind (failsOnly_itemTexts (fun _ => within_first? hwithin) _) fun actions _ => .ok _

theorem Optimizations.failsOnly_ofValue (v : Value) : FailsOnly (Reported v) (ofValue v) := by
  rw [ofValue]
  split
  · exact .ok _
  refine .bind (failsOnly_object id _) fun fields hobject => ?_
  have hwithin := within_field id (fields?_of_object hobject)
  refine .bind (failsOnly_items (fun _ => within_first? hwithin) _) fun given hgiven => ?_
  have hparts := within_item (fun _ => within_first? hwithin) hgiven
  exact .bind (.mapM fun o ho => Optimization.failsOnly_ofValue (hparts o ho)) fun recommendations _ => .ok _

/-! ### Both -/

namespace Supplied

/-- Reading ends with a value or a fault of the input, with two exceptions: exactly if the order of some phase is
    infinite, and the phases before it can be read, a dependency analysis fails with that number; and where some integer
    is too long for a text, either may fail with that. -/
theorem reading_escapes (v : Value) :
    (Dependencies.ofValue v = .error (.number .infinite) ↔ Dependencies.InfiniteOrder v) ∧
    (∀ f, Dependencies.ofValue v = .error f → f.IsInput ∨ f = .number .infinite ∨
      f = .number .unwritable ∧ v.isWritable = false) ∧
    (∀ f, Optimizations.ofValue v = .error f → f.IsInput ∨ f = .number .unwritable ∧ v.isWritable = false) := by
  refine ⟨⟨fun h => ?_, Dependencies.ofValue_of_infiniteOrder⟩, fun f hf => ?_, Optimizations.failsOnly_ofValue v⟩
  · rcases Dependencies.failsOnly_ofValue v _ h with (⟨g, hg, -⟩ | ⟨hf, -⟩) | ⟨-, hinfinite⟩
    · cases hg
    · cases hf
    · exact hinfinite
  · rcases Dependencies.failsOnly_ofValue v f hf with (hinput | hunwritable) | ⟨hinfinite, -⟩
    · exact Or.inl hinput
    · exact Or.inr (Or.inr hunwritable)
    · exact Or.inr (Or.inl hinfinite)

/-- An analysis with one phase, of infinite order. -/
def endlessPhase : Value :=
  .object [("migration_plan", .object [("phases",
    .list [.object [("name", .str "Swap packages"), ("order", .num (.float (.infinite false)))]])])]

/-- A report with one recommendation of a title. -/
def titled (title : Value) : Value := .object [("recommendations", .list [.object [("title", title)]])]

/-- A title that has no text leaves the reader as such. -/
theorem ofValue_titled {title : Value} (h : title.isWritable = false) :
    Optimizations.ofValue (titled title) = .error (.number .unwritable) := by
  have htext : textOf title = .error (.number .unwritable) := by
    rw [textOf, Value.textOrFailure, h]
    rfl
  have hread : Optimization.ofValue (.object [("title", title)]) = .error (.number .unwritable) := by
    show (textOf title >>= _) = _
    rw [htext]
    rfl
  show (List.mapM Optimization.ofValue [.object [("title", title)]] >>= _) = _
  rw [List.mapM_cons, hread]
  rfl

/-- Either reader ends with a failure that is no fault of the input. -/
theorem readings_escape :
    Dependencies.ofValue endlessPhase = .error (.number .infinite) ∧ ¬(Failure.number .infinite).IsInput ∧
    Optimizations.ofValue (titled (.ofNat (Nat.pow 10 longestInteger))) = .error (.number .unwritable) ∧
    ¬(Failure.number .unwritable).IsInput := by
  have hlong : (Value.ofNat (Nat.pow 10 longestInteger)).isWritable = false := by
    rw [Value.ofNat, Value.isWritable, Number.isWritable, Int.natAbs_natCast]
    generalize Nat.pow 10 longestInteger = limit
    exact decide_eq_false (Nat.lt_irrefl limit)
  have hnumber : ∀ n, ¬(Failure.number n).IsInput := by
    rintro n ⟨g, hg, -⟩
    cases hg
  exact ⟨rfl, hnumber _, ofValue_titled hlong, hnumber _⟩

end Supplied

end ClientMigration
