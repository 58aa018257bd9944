import ClientMigration.Proofs.Conversion.Outcome
import ClientMigration.Proofs.Detection

/-! # The built-in catalog at work

Every built-in signature recognizes its idiom by literal texts and converts it by substitutions, so what is
found in a text and what its conversion does are both said in terms of texts that occur. -/

namespace ClientMigration
open Text (Substitution)

theorem Idiom.mem_all : ∀ i : Idiom, i ∈ Idiom.all := by
  intro i
  cases i <;> decide

theorem Dialect.mem_all : ∀ d : Dialect, d ∈ Dialect.all := by
  intro d
  cases d <;> decide

/-- What holds of every idiom, and of every dialect, is decided by going through them. -/
instance {p : Idiom → Prop} [DecidablePred p] : Decidable (∀ i, p i) :=
  decidable_of_iff (∀ i ∈ Idiom.all, p i) ⟨fun h i => h i (Idiom.mem_all i), fun h i _ => h i⟩

instance {p : Dialect → Prop} [DecidablePred p] : Decidable (∀ d, p d) :=
  decidable_of_iff (∀ d ∈ Dialect.all, p d) ⟨fun h d => h d (Dialect.mem_all d), fun h d _ => h d⟩

/-! ### Patterns that spell a text -/

/-- The characters that an expression of single characters spells. -/
def Regex.spelled : Regex → List Char
  | .seq (.set ⟨false, [.range c _], .exact⟩) r => c :: r.spelled
  | _ => []

theorem Regex.spelled_sequence_char : ∀ cs : List Char, (Regex.sequence (cs.map Regex.char)).spelled = cs
  | [] => rfl
  | c :: cs => congrArg (c :: ·) (Regex.spelled_sequence_char cs)

theorem Pattern.literal_spelled (s : String) :
    Pattern.literal (String.ofList (Pattern.literal s).regex.spelled) = Pattern.literal s := by
  have h : (Pattern.literal s).regex.spelled = s.toList := Regex.spelled_sequence_char s.toList
  rw [h, String.ofList_toList]

theorem Pattern.map_literal_spelled (ss : List String) : ss.map Pattern.literal =
    ((ss.map Pattern.literal).map (·.regex.spelled)).map fun t => Pattern.literal (String.ofList t) := by
  simp only [List.map_map, Function.comp_def, Pattern.literal_spelled]

/-! ### Texts spelled out

To evaluate the characters of a string is slow. What is decided about built-in texts by evaluation is decided about
lists of characters, and these are read off the strings without evaluating them. -/

/-- A list together with the same list in which every text is spelled out. -/
structure Spelling {α : Type} (xs : List α) where
  spelled : List α
  eq : xs = spelled

namespace Spelling

def nil {α : Type} : Spelling ([] : List α) := ⟨[], rfl⟩

def substitution {t r : List Char} {σs : List Substitution} (rest : Spelling σs) :
    Spelling ((⟨(String.ofList t).toList, (String.ofList r).toList⟩ : Substitution) :: σs) :=
  ⟨⟨t, r⟩ :: rest.spelled, by rw [String.toList_ofList, String.toList_ofList, ← rest.eq]⟩

def text {t : List Char} {ts : List (List Char)} (rest : Spelling ts) : Spelling ((String.ofList t).toList :: ts) :=
  ⟨t :: rest.spelled, by rw [String.toList_ofList, ← rest.eq]⟩

def pattern {t : List Char} {ts : List (List Char)} (rest : Spelling ts) :
    Spelling ((Pattern.literal (String.ofList t)).regex.spelled :: ts) :=
  ⟨t :: rest.spelled, by
    rw [← rest.eq]
    exact congrArg (· :: ts) ((Regex.spelled_sequence_char _).trans String.toList_ofList)⟩

end Spelling

/-- The renames of a dialect, spelled out. -/
def Rename.spelling : (d : Dialect) → Spelling ((forDialect d).map (·.substitution))
  | .ioredis => .nil
  | .nodeRedis => .substitution <| .substitution <| .substitution <| .substitution <| .substitution <|
    .substitution <| .substitution <| .substitution <| .substitution <| .substitution .nil

theorem Rename.substitutions_spelled (d : Dialect) : (forDialect d).map (·.substitution) = (spelling d).spelled :=
  (spelling d).eq

namespace Catalog

/-! ### Signatures and recipes -/

/-- The built-in signature of an idiom. -/
def builtinOf : Idiom → Signature
  | .pipeline => pipeline
  | .transaction => transaction
  | .clustering => clustering
  | .pubsub => pubsub
  | .streaming => streaming
  | .connection => connection

theorem idiom_builtinOf (i : Idiom) : (builtinOf i).idiom = i := by cases i <;> rfl

theorem builtinOf_mem (i : Idiom) : builtinOf i ∈ builtinEntries := by cases i <;> simp [builtinOf, builtinEntries]

theorem eq_builtinOf_of_mem {e : Signature} (h : e ∈ builtinEntries) : e = builtinOf e.idiom := by
  simp only [builtinEntries, List.mem_cons, List.not_mem_nil, or_false] at h
  rcases h with rfl | rfl | rfl | rfl | rfl | rfl <;> rfl

theorem idioms_builtin_nodup : builtin.idioms.Nodup := by decide

/-- The built-in recipe for an idiom of a dialect. -/
def builtinRecipe (d : Dialect) (i : Idiom) : Recipe := (Finding.ofSightings {} (builtinOf i) []).recipeFor (some d)

theorem ordered_builtinRecipe (d : Dialect) (i : Idiom) : (builtinRecipe d i).ordered = (builtinRecipe d i).edits := by
  refine List.mergeSort_of_pairwise ?_
  cases d <;> cases i <;> decide

/-- The substitutions that convert an idiom of a dialect. -/
def builtinSubstitutions (d : Dialect) (i : Idiom) : List Substitution :=
  (builtinRecipe d i).edits.map (·.substitution)

/-- The texts that an idiom of a dialect is recognized by. -/
def builtinTexts (d : Dialect) (i : Idiom) : List (List Char) :=
  ((builtinOf i).patternsFor d).map (·.regex.spelled)

theorem patternsFor_builtinOf (d : Dialect) (i : Idiom) :
    (builtinOf i).patternsFor d = (builtinTexts d i).map fun t => .literal (String.ofList t) := by
  cases d <;> cases i <;> exact Pattern.map_literal_spelled _

/-- The built-in substitutions, spelled out. -/
def substitutionSpelling : (d : Dialect) → (i : Idiom) → Spelling (builtinSubstitutions d i)
  | .ioredis, .pipeline | .ioredis, .clustering => .substitution (.substitution .nil)
  | .nodeRedis, .pipeline | .nodeRedis, .clustering => .substitution (.substitution .nil)
  | .ioredis, .transaction | .ioredis, .pubsub | .ioredis, .connection => .substitution .nil
  | .nodeRedis, .transaction | .nodeRedis, .pubsub | .nodeRedis, .connection => .substitution .nil
  | .ioredis, .streaming => .substitution (.substitution (.substitution (.substitution .nil)))
  | .nodeRedis, .streaming => .substitution (.substitution (.substitution (.substitution .nil)))

theorem builtinSubstitutions_spelled (d : Dialect) (i : Idiom) :
    builtinSubstitutions d i = (substitutionSpelling d i).spelled := (substitutionSpelling d i).eq

/-- The built-in texts, spelled out. -/
def textSpelling : (d : Dialect) → (i : Idiom) → Spelling (builtinTexts d i)
  | .nodeRedis, .pipeline => .pattern (.pattern .nil)
  | .ioredis, .pipeline | .ioredis, .transaction | .ioredis, .clustering => .pattern (.pattern (.pattern .nil))
  | .nodeRedis, .transaction | .nodeRedis, .clustering | .nodeRedis, .pubsub => .pattern (.pattern (.pattern .nil))
  | .ioredis, .pubsub | .ioredis, .streaming | .ioredis, .connection =>
    .pattern (.pattern (.pattern (.pattern .nil)))
  | .nodeRedis, .streaming | .nodeRedis, .connection => .pattern (.pattern (.pattern (.pattern .nil)))

theorem builtinTexts_spelled (d : Dialect) (i : Idiom) : builtinTexts d i = (textSpelling d i).spelled :=
  (textSpelling d i).eq

theorem builtinTexts_onOneLine : ∀ d i, ∀ t ∈ builtinTexts d i, t ≠ [] ∧ '\n' ∉ t := by
  simp only [builtinTexts_spelled]
  decide

end Catalog

/-! ### Findings -/

namespace Finding
open Catalog

/-- The finding is one of a built-in signature, with a sighting. -/
def IsBuiltin (f : Finding) : Prop :=
  f.sightings ≠ [] ∧ ∃ e ∈ builtinEntries, f.idiom = e.idiom ∧ f.rating = e.rating ∧ f.requirements = e.requirements ∧
    f.recipes = e.recipes

theorem isBuiltin_of_mem_detect {s : Settings} {source : String} {d : Dialect} {f : Finding}
    (h : f ∈ detect s builtin source d) : f.IsBuiltin := exists_entry_of_mem_detect h

theorem IsBuiltin.recipeFor {f : Finding} (h : f.IsBuiltin) (d : Dialect) :
    f.recipeFor (some d) = builtinRecipe d f.idiom := by
  obtain ⟨-, e, he, hi, -, -, hr⟩ := h
  have heq : e = builtinOf f.idiom := hi ▸ eq_builtinOf_of_mem he
  exact recipeFor_congr (hr.trans (congrArg Signature.recipes heq)) (some d)

/-- What the findings of the built-in catalog convert depends on their idioms alone. -/
theorem substitutions_of_isBuiltin {d : Dialect} : ∀ {fs : List Finding}, (∀ f ∈ fs, f.IsBuiltin) →
    Conversion.substitutions d fs = (fs.map (·.idiom)).flatMap (builtinSubstitutions d)
  | [], _ => rfl
  | f :: fs, h => by
    rw [Conversion.substitutions_cons, (h f List.mem_cons_self).recipeFor, ordered_builtinRecipe,
      substitutions_of_isBuiltin fun g hg => h g (List.mem_cons_of_mem f hg), List.map_cons, List.flatMap_cons]
    rfl

/-- With a threshold of zero an idiom is found exactly if one of its texts occurs. -/
theorem mem_idioms_detect_iff {s : Settings} (h : s.scoring.threshold.isZero = true) {source : String} {d : Dialect}
    {i : Idiom} :
    i ∈ (detect s builtin source d).map (·.idiom) ↔ ∃ t ∈ builtinTexts d i, t <:+: source.toList := by
  have hsight := @Sighting.ofPatterns_ne_nil_iff s.scanner _ _ (Enclosing.length_ofLines (Text.lines source))
    ((builtinOf i).patternsFor d)
  rw [Sighting.exists_onLine_iff (patternsFor_builtinOf d i) fun t ht => (builtinTexts_onOneLine d i t ht).2] at hsight
  rw [← hsight, List.mem_map]
  constructor
  · rintro ⟨f, hf, rfl⟩
    obtain ⟨-, e, he, hsome⟩ := mem_detect_iff.mp hf
    obtain ⟨hne, rfl, -⟩ := ofSignature?_eq_some_iff.mp hsome
    show Sighting.ofPatterns _ _ _ ((builtinOf e.idiom).patternsFor d) ≠ []
    rw [← eq_builtinOf_of_mem he]
    exact hne
  · intro hne
    obtain ⟨t, ht, ho⟩ := hsight.mp hne
    have hsource : source ≠ "" := by
      rintro rfl
      exact (builtinTexts_onOneLine d i t ht).1 (List.infix_nil.mp ho)
    refine ⟨_, mem_detect_iff.mpr ⟨hsource, builtinOf i, builtinOf_mem i, ofSignature?_eq_some_iff.mpr ⟨hne, rfl, ?_⟩⟩,
      idiom_builtinOf i⟩
    exact ofSightings_not_less_of_isZero h _ _

theorem detect_eq_nil_iff {s : Settings} (h : s.scoring.threshold.isZero = true) {source : String} {d : Dialect} :
    detect s builtin source d = [] ↔ ∀ i, ∀ t ∈ builtinTexts d i, ¬t <:+: source.toList := by
  rw [← @List.map_eq_nil_iff _ _ Finding.idiom, List.eq_nil_iff_forall_not_mem]
  simp only [mem_idioms_detect_iff h, not_exists, not_and]

end Finding

/-! ### Analyses and files -/

namespace Detector
variable {s : Settings} {t : Detector}

theorem findings_of_make (h : make .builtin s = .ok t) (source : String) (d : Dialect) :
    (t.analyze source d).findings = Finding.detect s .builtin source d := by
  obtain ⟨hcatalog, hsettings⟩ := make_eq_ok h
  rw [findings_analyze, hsettings, hcatalog]
  rfl

theorem isBuiltin_of_make (h : make .builtin s = .ok t) {source : String} {d : Dialect} :
    ∀ f ∈ (t.analyze source d).findings, f.IsBuiltin := by
  rw [findings_of_make h]
  exact fun f hf => Finding.isBuiltin_of_mem_detect hf

theorem idioms_nodup_of_make (h : make .builtin s = .ok t) (source : String) (d : Dialect) :
    ((t.analyze source d).findings.map (·.idiom)).Nodup := by
  rw [findings_of_make h]
  exact Finding.idioms_detect_nodup Catalog.idioms_builtin_nodup

/-- The default settings make a detector. -/
theorem exists_make_default : ∃ t, make .builtin {} = .ok t := by
  have hread : (make .builtin {}).toOption.isSome = true := by decide +kernel
  cases hmake : make .builtin {} with
  | error e =>
    rw [hmake] at hread
    cases hread
  | ok t => exact ⟨t, rfl⟩

end Detector

namespace ConvertedFile
open Catalog

theorem convert_builtin_eq_ok {a : Analysis} (h : ∀ f ∈ a.findings, f.IsBuiltin) (s : Settings.Conversion)
    (text name : String) : convert s text a name = .ok (made s text a name) :=
  convert_eq_ok (fun f hf => (h f hf).1) s text name

/-- The code of a file that was converted by built-in findings. -/
theorem toList_code_builtin {a : Analysis} (h : ∀ f ∈ a.findings, f.IsBuiltin) (s : Settings.Conversion)
    (text name : String) : (made s text a name).code.toList =
      Substitution.run ((a.findings.map (·.idiom)).flatMap (builtinSubstitutions a.dialect) ++
        (Rename.forDialect a.dialect).map (·.substitution)) text.toList := by
  rw [toList_code_made, substitutions, Finding.substitutions_of_isBuiltin h]

end ConvertedFile

end ClientMigration
