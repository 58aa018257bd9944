import ClientMigration.Settings.Environment

/-! # Reading settings one by one

Settings are accepted exactly if each of them is sound by itself and the shares of an effort make one. A setting has
the value that the document supplies for it, and its default where the document leaves it out; no setting depends on
another. -/

namespace ClientMigration.Settings

/-! ### Checks -/

/-- The check ends with the value and has nothing to object. -/
def Gives {α : Type} (c : Check α) (a : α) : Prop := c.run [] = (a, [])

/-- The check keeps the objections that were made before it. -/
class Grows {α : Type} (c : Check α) : Prop where
  keeps : ∀ os, os <+: (c.run os).2

section Check
variable {α β : Type}

instance (a : α) : Grows (pure a : Check α) := ⟨fun os => List.prefix_refl os⟩

instance : Grows (get : Check (List Objection)) := ⟨fun os => List.prefix_refl os⟩

instance (o : Objection) : Grows (complain o) := ⟨fun os => List.prefix_append os [o]⟩

instance (p : Prop) [Decidable p] (c d : Check α) [hc : Grows c] [hd : Grows d] : Grows (if p then c else d) := by
  split
  · exact hc
  · exact hd

instance (c : Check α) (next : α → Check β) [Grows c] [∀ a, Grows (next a)] : Grows (c >>= next) :=
  ⟨fun os => (Grows.keeps (c := c) os).trans (Grows.keeps (c := next (c.run os).1) (c.run os).2)⟩

theorem gives_pure {a b : α} : Gives (pure a : Check α) b ↔ a = b := by
  show ((a, []) : α × List Objection) = (b, []) ↔ _
  simp

theorem gives_get {os : List Objection} : Gives (get : Check (List Objection)) os ↔ [] = os := by
  show (([], []) : List Objection × List Objection) = (os, []) ↔ _
  simp

theorem not_gives_complain {o : Objection} {a b : α} : ¬ Gives (do complain o; pure a) b := by
  intro h
  cases congrArg Prod.snd h

/-- Nothing to object in the end means nothing to object on the way. -/
theorem gives_bind {c : Check α} {next : α → Check β} [∀ a, Grows (next a)] {b : β} :
    Gives (c >>= next) b ↔ ∃ a, Gives c a ∧ Gives (next a) b := by
  constructor
  · intro h
    have hrun : (next (c.run []).1).run (c.run []).2 = (b, []) := h
    have hnone : (c.run []).2 = [] := by
      have hprefix := Grows.keeps (c := next (c.run []).1) (c.run []).2
      rw [hrun] at hprefix
      exact List.prefix_nil.mp hprefix
    rw [hnone] at hrun
    exact ⟨(c.run []).1, Prod.ext rfl hnone, hrun⟩
  · rintro ⟨a, hc, ha⟩
    show (next (c.run []).1).run (c.run []).2 = (b, [])
    rw [hc]
    exact ha

theorem gives_unless {p : Prop} [Decidable p] {o : Objection} {a b : α} :
    Gives (if p then (do complain o; pure a) else pure a) b ↔ ¬ p ∧ a = b := by
  by_cases hp : p
  · rw [if_pos hp]
    exact iff_of_false not_gives_complain fun h => h.1 hp
  · rw [if_neg hp, gives_pure]
    simp [hp]

theorem gives_iff_eq {c : Check α} {a b : α} (ha : Gives c a) : Gives c b ↔ a = b :=
  ⟨fun hb => congrArg Prod.fst (ha.symm.trans hb), fun h => h ▸ ha⟩

theorem settle_eq_ok_iff {c : Check α} {a : α} : settle c = .ok a ↔ Gives c a := by
  show (if ((c []).2).isEmpty then Except.ok (c []).1 else Except.error (c []).2) = Except.ok a ↔ c [] = (a, [])
  rw [Prod.ext_iff]
  cases h : (c []).2 with
  | nil => simp
  | cons o os => simp

end Check

/-! ### Single settings -/

/-- The value of a setting by what stands under its name, its default if nothing does. -/
def settingOf {α : Type} (fs : List (String × Value)) (key : String) (default : α) (read : Value → Except Defect α) :
    Except Defect α :=
  match fs.lookup key with
  | none => .ok default
  | some v => read v

section Setting
variable {α : Type} {place : List String} {fs : List (String × Value)} {key : String} {default a : α}
  {read : Value → Except Defect α}

theorem run_setting (os : List Objection) : (setting place fs key default read).run os =
    match settingOf fs key default read with
    | .ok a => (a, os)
    | .error d => (default, os ++ [⟨place ++ [key], d⟩]) := by
  unfold setting settingOf
  cases fs.lookup key with
  | none => rfl
  | some v =>
    cases hv : read v with
    | ok a =>
      simp only [hv]
      rfl
    | error d =>
      simp only [hv]
      rfl

instance : Grows (setting place fs key default read) := by
  refine ⟨fun os => ?_⟩
  rw [run_setting]
  split
  · exact List.prefix_refl os
  · exact List.prefix_append os _

theorem gives_setting : Gives (setting place fs key default read) a ↔ settingOf fs key default read = .ok a := by
  rw [Gives, run_setting]
  cases settingOf fs key default read with
  | ok b =>
    show ((b, []) : α × List Objection) = (a, []) ↔ _
    simp
  | error d => exact iff_of_false (fun h => nomatch congrArg Prod.snd h) nofun

end Setting

/-! ### Kinds of settings -/

/-- What a setting is. -/
inductive Kind where
  | text
  | integer
  | count
  | number
  | share
  | positive
deriving DecidableEq, Repr

/-- The value that is taken for a setting of the kind when a value is supplied. -/
def Kind.read : Kind → Value → Except Defect Value
  | .text, v => (asString v).map .str
  | .integer, v => (asInt v).map .ofInt
  | .count, v => (asCount v).map .ofNat
  | .number, v => (asNumber v).map .num
  | .share, v => (asShare v).map .num
  | .positive, v => (asPositive v).map .num

/-- The settings that are not plain numbers. -/
def kinds : List ((String × String) × Kind) :=
  [(("scanner", "context_before"), .count), (("scanner", "context_after"), .count),
   (("scanner", "relevance_pattern"), .text), (("scoring", "min_confidence"), .share),
   (("complexity", "size_divisor"), .positive), (("effort", "confidence"), .share),
   (("plan", "default_plan_hours"), .integer), (("plan", "optimization_hours"), .integer),
   (("plan", "phase_estimate"), .text), (("plan", "target_package"), .text)]

def kindOf (part key : String) : Kind := (kinds.lookup (part, key)).getD .number

/-- The value of a setting of a section. -/
def valueAt (s : Settings) (part key : String) : Value :=
  ((s.toValue.field? part).bind (Value.field? key)).getD .null

/-- The fields of a section supply the setting, or leave it at its default. -/
def Supplies (fs : List (String × Value)) (part : String) (s : Settings) (key : String) : Prop :=
  settingOf fs key (valueAt {} part key) (kindOf part key).read = .ok (valueAt s part key)

/-- The names of a section's settings. -/
def namesOf (part : String) : List String := (sections.lookup part).getD []

/-- The fields of a section supply the settings, each by itself. -/
def SectionReads (fs : List (String × Value)) (part : String) (s : Settings) : Prop :=
  ∀ key ∈ namesOf part, Supplies fs part s key

/-- A setting may be read as its value in data, if no two values are one in data. -/
theorem settingOf_map_iff {α : Type} {f : α → Value} (hf : ∀ a b, f a = f b → a = b) {fs : List (String × Value)}
    {key : String} {default a : α} {read : Value → Except Defect α} :
    settingOf fs key (f default) (fun v => (read v).map f) = .ok (f a) ↔ settingOf fs key default read = .ok a := by
  have hmap : settingOf fs key (f default) (fun v => (read v).map f) = (settingOf fs key default read).map f := by
    unfold settingOf
    cases fs.lookup key with
    | none => rfl
    | some v => rfl
  rw [hmap]
  cases settingOf fs key default read with
  | error d => simp [Except.map]
  | ok b =>
    simp only [Except.map, Except.ok.injEq]
    exact ⟨hf b a, congrArg f⟩

section Kinds
variable {fs : List (String × Value)} {key : String}

theorem settingOf_text {default a : String} : settingOf fs key (.str default) Kind.text.read = .ok (.str a) ↔
    settingOf fs key default asString = .ok a := settingOf_map_iff fun _ _ => Value.str.inj

theorem settingOf_integer {default a : Int} : settingOf fs key (.ofInt default) Kind.integer.read = .ok (.ofInt a) ↔
    settingOf fs key default asInt = .ok a := settingOf_map_iff fun _ _ h => Number.int.inj (Value.num.inj h)

theorem settingOf_count {default a : Nat} : settingOf fs key (.ofNat default) Kind.count.read = .ok (.ofNat a) ↔
    settingOf fs key default asCount = .ok a :=
  settingOf_map_iff fun _ _ h => Int.ofNat.inj (Number.int.inj (Value.num.inj h))

variable {default a : Number}

theorem settingOf_number : settingOf fs key (.num default) Kind.number.read = .ok (.num a) ↔
    settingOf fs key default asNumber = .ok a := settingOf_map_iff fun _ _ => Value.num.inj

theorem settingOf_share : settingOf fs key (.num default) Kind.share.read = .ok (.num a) ↔
    settingOf fs key default asShare = .ok a := settingOf_map_iff fun _ _ => Value.num.inj

theorem settingOf_positive : settingOf fs key (.num default) Kind.positive.read = .ok (.num a) ↔
    settingOf fs key default asPositive = .ok a := settingOf_map_iff fun _ _ => Value.num.inj

end Kinds

/-! ### Sections -/

theorem sectionReads_iff {fs : List (String × Value)} {part : String} {names : List String} {s : Settings}
    (h : sections.lookup part = some names) :
    SectionReads fs part s ↔ ∀ key ∈ names, Supplies fs part s key := by
  rw [SectionReads, namesOf, h, Option.getD_some]

-- A record is read field by field, and each field is a setting of its own kind: both directions go through the
-- settings in their order.
section Section
variable {place : List String} {fs : List (String × Value)} {s : Settings}

theorem gives_scanner : Gives (Scanner.read place fs) s.scanner ↔ SectionReads fs "scanner" s := by
  obtain ⟨_, scanner, _, _, _, _, _⟩ := s
  rw [sectionReads_iff rfl]
  simp only [Scanner.read, gives_bind, gives_setting, gives_pure, List.forall_mem_cons]
  constructor
  · rintro ⟨_, h₁, _, h₂, _, h₃, rfl⟩
    exact ⟨settingOf_count.mpr h₁, settingOf_count.mpr h₂, settingOf_text.mpr h₃, List.forall_mem_nil _⟩
  · rintro ⟨h₁, h₂, h₃, -⟩
    exact ⟨_, settingOf_count.mp h₁, _, settingOf_count.mp h₂, _, settingOf_text.mp h₃, rfl⟩

theorem gives_scoring : Gives (Scoring.read place fs) s.scoring ↔ SectionReads fs "scoring" s := by
  obtain ⟨_, _, scoring, _, _, _, _⟩ := s
  rw [sectionReads_iff rfl]
  simp only [Scoring.read, gives_bind, gives_setting, gives_pure, List.forall_mem_cons]
  constructor
  · rintro ⟨_, h₁, _, h₂, _, h₃, _, h₄, _, h₅, rfl⟩
    exact ⟨settingOf_number.mpr h₁, settingOf_number.mpr h₂, settingOf_number.mpr h₃, settingOf_number.mpr h₄,
      settingOf_share.mpr h₅, List.forall_mem_nil _⟩
  · rintro ⟨h₁, h₂, h₃, h₄, h₅, -⟩
    exact ⟨_, settingOf_number.mp h₁, _, settingOf_number.mp h₂, _, settingOf_number.mp h₃, _, settingOf_number.mp h₄,
      _, settingOf_share.mp h₅, rfl⟩

theorem gives_complexity : Gives (Complexity.read place fs) s.complexity ↔ SectionReads fs "complexity" s := by
  obtain ⟨_, _, _, complexity, _, _, _⟩ := s
  rw [sectionReads_iff rfl]
  simp only [Complexity.read, gives_bind, gives_setting, gives_pure, List.forall_mem_cons]
  constructor
  · rintro ⟨_, h₁, _, h₂, _, h₃, _, h₄, _, h₅, _, h₆, _, h₇, _, h₈, _, h₉, _, h₁₀, _, h₁₁, rfl⟩
    exact ⟨settingOf_number.mpr h₁, settingOf_number.mpr h₂, settingOf_number.mpr h₃, settingOf_number.mpr h₄,
      settingOf_positive.mpr h₅, settingOf_number.mpr h₆, settingOf_number.mpr h₇, settingOf_number.mpr h₈,
      settingOf_number.mpr h₉, settingOf_number.mpr h₁₀, settingOf_number.mpr h₁₁, List.forall_mem_nil _⟩
  · rintro ⟨h₁, h₂, h₃, h₄, h₅, h₆, h₇, h₈, h₉, h₁₀, h₁₁, -⟩
    exact ⟨_, settingOf_number.mp h₁, _, settingOf_number.mp h₂, _, settingOf_number.mp h₃, _, settingOf_number.mp h₄,
      _, settingOf_positive.mp h₅, _, settingOf_number.mp h₆, _, settingOf_number.mp h₇, _, settingOf_number.mp h₈,
      _, settingOf_number.mp h₉, _, settingOf_number.mp h₁₀, _, settingOf_number.mp h₁₁, rfl⟩

theorem gives_conversion : Gives (Conversion.read place fs) s.conversion ↔ SectionReads fs "conversion" s := by
  obtain ⟨_, _, _, _, _, conversion, _⟩ := s
  rw [sectionReads_iff rfl]
  simp only [Conversion.read, gives_bind, gives_setting, gives_pure, List.forall_mem_cons]
  constructor
  · rintro ⟨_, h₁, _, h₂, _, h₃, _, h₄, _, h₅, _, h₆, rfl⟩
    exact ⟨settingOf_number.mpr h₁, settingOf_number.mpr h₂, settingOf_number.mpr h₃, settingOf_number.mpr h₄,
      settingOf_number.mpr h₅, settingOf_number.mpr h₆, List.forall_mem_nil _⟩
  · rintro ⟨h₁, h₂, h₃, h₄, h₅, h₆, -⟩
    exact ⟨_, settingOf_number.mp h₁, _, settingOf_number.mp h₂, _, settingOf_number.mp h₃, _, settingOf_number.mp h₄,
      _, settingOf_number.mp h₅, _, settingOf_number.mp h₆, rfl⟩

theorem gives_plan : Gives (Plan.read place fs) s.plan ↔ SectionReads fs "plan" s := by
  obtain ⟨_, _, _, _, _, _, plan⟩ := s
  rw [sectionReads_iff rfl]
  simp only [Plan.read, gives_bind, gives_setting, gives_pure, List.forall_mem_cons]
  constructor
  · rintro ⟨_, h₁, _, h₂, _, h₃, _, h₄, rfl⟩
    exact ⟨settingOf_integer.mpr h₁, settingOf_integer.mpr h₂, settingOf_text.mpr h₃, settingOf_text.mpr h₄,
      List.forall_mem_nil _⟩
  · rintro ⟨h₁, h₂, h₃, h₄, -⟩
    exact ⟨_, settingOf_integer.mp h₁, _, settingOf_integer.mp h₂, _, settingOf_text.mp h₃, _, settingOf_text.mp h₄,
      rfl⟩

/-- The shares are checked as well, since nothing is objected to before. -/
theorem gives_effort :
    Gives (Effort.read place fs) s.effort ↔ SectionReads fs "effort" s ∧ s.effort.balanced = true := by
  obtain ⟨_, _, _, _, effort, _, _⟩ := s
  rw [sectionReads_iff rfl]
  simp only [Effort.read, gives_bind, gives_setting, gives_get, gives_unless, List.forall_mem_cons]
  constructor
  · rintro ⟨_, rfl, _, h₁, _, h₂, _, h₃, _, h₄, _, h₅, _, h₆, _, h₇, _, h₈, _, h₉, _, h₁₀, _, h₁₁, _, h₁₂, _, h₁₃, _,
      rfl, hbalanced, rfl⟩
    exact ⟨⟨settingOf_number.mpr h₁, settingOf_number.mpr h₂, settingOf_number.mpr h₃, settingOf_number.mpr h₄,
      settingOf_number.mpr h₅, settingOf_number.mpr h₆, settingOf_number.mpr h₇, settingOf_number.mpr h₈,
      settingOf_number.mpr h₉, settingOf_number.mpr h₁₀, settingOf_number.mpr h₁₁, settingOf_number.mpr h₁₂,
      settingOf_share.mpr h₁₃, List.forall_mem_nil _⟩, by simpa using hbalanced⟩
  · rintro ⟨⟨h₁, h₂, h₃, h₄, h₅, h₆, h₇, h₈, h₉, h₁₀, h₁₁, h₁₂, h₁₃, -⟩, hbalanced⟩
    exact ⟨_, rfl, _, settingOf_number.mp h₁, _, settingOf_number.mp h₂, _, settingOf_number.mp h₃,
      _, settingOf_number.mp h₄, _, settingOf_number.mp h₅, _, settingOf_number.mp h₆, _, settingOf_number.mp h₇,
      _, settingOf_number.mp h₈, _, settingOf_number.mp h₉, _, settingOf_number.mp h₁₀, _, settingOf_number.mp h₁₁,
      _, settingOf_number.mp h₁₂, _, settingOf_share.mp h₁₃, _, rfl, by simpa using hbalanced, rfl⟩

end Section

/-! ### Whole documents -/

/-- What a document has in a section: no fields if it leaves the section out, and nothing if what it has is none. -/
def sectionFields? (document : List (String × Value)) (part : String) : Option (List (String × Value)) :=
  match document.lookup part with
  | none => some []
  | some (.object fs) => some fs
  | some _ => none

/-- A document reads as the settings: each setting has the value supplied for it or else its default, and the shares
    of an effort make one. -/
structure ReadsAs (document : List (String × Value)) (s : Settings) : Prop where
  version : settingOf document "version" "1.0" asString = .ok s.version
  parts : ∀ part ∈ sections.map (·.1), ∃ fs, sectionFields? document part = some fs ∧ SectionReads fs part s
  balanced : s.effort.balanced = true

instance (place : List String) (fs : List (String × Value)) : Grows (Scanner.read place fs) := by
  unfold Scanner.read
  infer_instance

instance (place : List String) (fs : List (String × Value)) : Grows (Scoring.read place fs) := by
  unfold Scoring.read
  infer_instance

instance (place : List String) (fs : List (String × Value)) : Grows (Complexity.read place fs) := by
  unfold Complexity.read
  infer_instance

instance (place : List String) (fs : List (String × Value)) : Grows (Effort.read place fs) := by
  unfold Effort.read
  infer_instance

instance (place : List String) (fs : List (String × Value)) : Grows (Conversion.read place fs) := by
  unfold Conversion.read
  infer_instance

instance (place : List String) (fs : List (String × Value)) : Grows (Plan.read place fs) := by
  unfold Plan.read
  infer_instance

section Document
variable {α : Type} {document : List (String × Value)} {part : String} {default a : α}
  {read : List String → List (String × Value) → Check α}

instance [∀ place fs, Grows (read place fs)] : Grows (readSection document part default read) := by
  unfold readSection
  split <;> infer_instance

/-- A section that is left out reads as one without fields, if its defaults are what such a section gives. -/
theorem gives_readSection (hdefault : Gives (read [part] []) default) :
    Gives (readSection document part default read) a ↔
      ∃ fs, sectionFields? document part = some fs ∧ Gives (read [part] fs) a := by
  unfold readSection sectionFields?
  cases document.lookup part with
  | none => simp [gives_pure, gives_iff_eq hdefault]
  | some v =>
    cases v with
    | object fs => simp
    | _ => simp only [not_gives_complain, reduceCtorEq, false_and, exists_false]

end Document

theorem gives_readAll {document : List (String × Value)} {s : Settings} : Gives (readAll document) s ↔
    settingOf document "version" "1.0" asString = .ok s.version ∧
    Gives (readSection document "scanner" {} Scanner.read) s.scanner ∧
    Gives (readSection document "scoring" {} Scoring.read) s.scoring ∧
    Gives (readSection document "complexity" {} Complexity.read) s.complexity ∧
    Gives (readSection document "effort" {} Effort.read) s.effort ∧
    Gives (readSection document "conversion" {} Conversion.read) s.conversion ∧
    Gives (readSection document "plan" {} Plan.read) s.plan := by
  simp only [readAll, gives_bind, gives_setting, gives_pure]
  constructor
  · rintro ⟨_, h₁, _, h₂, _, h₃, _, h₄, _, h₅, _, h₆, _, h₇, rfl⟩
    exact ⟨h₁, h₂, h₃, h₄, h₅, h₆, h₇⟩
  · rintro ⟨h₁, h₂, h₃, h₄, h₅, h₆, h₇⟩
    exact ⟨_, h₁, _, h₂, _, h₃, _, h₄, _, h₅, _, h₆, _, h₇, rfl⟩

/-- A document is accepted exactly if it reads as some settings, and gives those. -/
theorem read_eq_ok_iff {document : List (String × Value)} {s : Settings} :
    read document = .ok s ↔ ReadsAs document s := by
  have hscanner : Gives (Scanner.read ["scanner"] []) {} := rfl
  have hscoring : Gives (Scoring.read ["scoring"] []) {} := rfl
  have hcomplexity : Gives (Complexity.read ["complexity"] []) {} := rfl
  have heffort : Gives (Effort.read ["effort"] []) {} := rfl
  have hconversion : Gives (Conversion.read ["conversion"] []) {} := rfl
  have hplan : Gives (Plan.read ["plan"] []) {} := rfl
  rw [read, settle_eq_ok_iff, gives_readAll, gives_readSection hscanner, gives_readSection hscoring,
    gives_readSection hcomplexity, gives_readSection heffort, gives_readSection hconversion, gives_readSection hplan]
  simp only [gives_scanner, gives_scoring, gives_complexity, gives_effort, gives_conversion, gives_plan]
  constructor
  · rintro ⟨hversion, h₁, h₂, h₃, ⟨fs, hfs, h₄, hbalanced⟩, h₅, h₆⟩
    refine ⟨hversion, ?_, hbalanced⟩
    simp only [sections, List.map_cons, List.map_nil, List.forall_mem_cons]
    exact ⟨h₁, h₂, h₃, ⟨fs, hfs, h₄⟩, h₅, h₆, List.forall_mem_nil _⟩
  · rintro ⟨hversion, hparts, hbalanced⟩
    simp only [sections, List.map_cons, List.map_nil, List.forall_mem_cons] at hparts
    obtain ⟨h₁, h₂, h₃, ⟨fs, hfs, h₄⟩, h₅, h₆, -⟩ := hparts
    exact ⟨hversion, h₁, h₂, h₃, ⟨fs, hfs, h₄, hbalanced⟩, h₅, h₆⟩

end ClientMigration.Settings
