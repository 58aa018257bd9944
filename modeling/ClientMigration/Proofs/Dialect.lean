import ClientMigration.Fault
import ClientMigration.Proofs.Catalog.Builtin
import ClientMigration.Proofs.Text.NormalForm

/-! # The names of dialects

A dialect goes by its name in ASCII letters of either case, with blanks around it, and with an underscore in place of the
hyphen. Lowering knows all scripts, but no letter of another one comes out as a letter of a name. A text of blanks is
reported as no name at all, and any other text under itself. -/

namespace ClientMigration.Dialect
open Text

/-! ### Spellings of a name -/

/-- Between the blanks around it, the text is the name with some letters as ASCII capitals. -/
def Names (v name : String) : Prop := ∃ w, Trimmed isBlank v.toList w ∧ CaseVariant w name.toList

theorem names_iff {v name : String} : Names v name ↔ CaseVariant (trim isBlank v.toList) name.toList := by
  simp only [Names, trimmed_iff, exists_eq_left]

instance (v name : String) : Decidable (Names v name) :=
  decidable_of_iff (List.Forall₂ _ (trim isBlank v.toList) name.toList) names_iff.symm

def hyphenated (c : Char) : Char := if c = '_' then '-' else c

theorem toList_normalize (v : String) :
    (normalize v).toList = (lowerFrom [] (trim isBlank v.toList)).map hyphenated := by
  have hline : "_".toList = ['_'] := by decide
  have hhyphen : "-".toList = ['-'] := by decide
  rw [normalize, replace, hline, hhyphen, replaceAll_singleton]
  simp only [lower, strip, String.toList_ofList]
  rfl

theorem isPlain_of_hyphenated {c : Char} (h : IsPlain (hyphenated c)) : IsPlain c := by
  rw [hyphenated] at h
  split at h
  · rename_i hc
    rw [hc]
    exact ⟨by decide, by decide, by decide⟩
  · exact h

theorem normalize_eq_iff {v name : String} (hname : ∀ d ∈ name.toList, IsPlain d) :
    normalize v = name ↔ ((trim isBlank v.toList).map Char.toLower).map hyphenated = name.toList := by
  have hplain : ∀ {u : List Char}, u.map hyphenated = name.toList → ∀ d ∈ u, IsPlain d := by
    intro u hu d hd
    exact isPlain_of_hyphenated (hname _ (hu ▸ List.mem_map_of_mem hd))
  rw [← String.toList_inj, toList_normalize]
  constructor
  · intro h
    rwa [(lowerFrom_eq_iff (hplain h) [] _).mp rfl]
  · intro h
    rwa [(lowerFrom_eq_iff (hplain h) [] _).mpr rfl]

theorem hyphenated_eq_iff {c d : Char} (h : d ≠ '_') : hyphenated c = d ↔ c = d ∨ c = '_' ∧ d = '-' := by
  rw [hyphenated]
  split <;> grind

theorem map_hyphenated_eq_iff {u name : List Char} (hname : ∀ d ∈ name, d ≠ '_' ∧ d ≠ '-') :
    u.map hyphenated = name ↔ u = name := by
  induction u generalizing name with
  | nil => rfl
  | cons c u ih =>
    cases name with
    | nil => simp
    | cons d name =>
      obtain ⟨⟨hline, hhyphen⟩, hname⟩ := List.forall_mem_cons.mp hname
      rw [List.map_cons, List.cons.injEq, List.cons.injEq, hyphenated_eq_iff hline, ih hname]
      simp [hhyphen]

theorem map_hyphenated_eq_append_iff {u a b : List Char} (ha : ∀ d ∈ a, d ≠ '_' ∧ d ≠ '-')
    (hb : ∀ d ∈ b, d ≠ '_' ∧ d ≠ '-') :
    u.map hyphenated = a ++ '-' :: b ↔ u = a ++ '-' :: b ∨ u = a ++ '_' :: b := by
  rw [List.map_eq_append_iff]
  simp only [List.map_eq_cons_iff, map_hyphenated_eq_iff ha, map_hyphenated_eq_iff hb]
  constructor
  · rintro ⟨_, _, rfl, rfl, c, _, rfl, hc, rfl⟩
    rcases (hyphenated_eq_iff (by decide)).mp hc with rfl | ⟨rfl, -⟩
    · exact .inl rfl
    · exact .inr rfl
  · rintro (rfl | rfl)
    · exact ⟨a, _, rfl, rfl, '-', b, rfl, rfl, rfl⟩
    · exact ⟨a, _, rfl, rfl, '_', b, rfl, rfl, rfl⟩

/-! ### The two dialects -/

def spellings : List String := ["ioredis", "node-redis", "node_redis"]

theorem spellings_plain : (spellings.all fun name => name.toList.all fun d =>
    decide (0 < d.toNat) && decide (d.toNat < 128) && d != 'k' && !d.isUpper) = true := by
  decide

theorem isPlain_of_mem_spellings {name : String} (h : name ∈ spellings) :
    ∀ d ∈ name.toList, IsPlain d ∧ ¬d.isUpper = true := by
  intro d hd
  have hplain := List.all_eq_true.mp (List.all_eq_true.mp spellings_plain name h) d hd
  simp only [Bool.and_eq_true, decide_eq_true_eq, bne_iff_ne, Bool.not_eq_true'] at hplain
  obtain ⟨⟨⟨hpos, hascii⟩, hk⟩, hupper⟩ := hplain
  exact ⟨⟨hpos, hascii, hk⟩, by rw [hupper]; exact Bool.false_ne_true⟩

theorem map_toLower_eq_iff_names {v name : String} (h : name ∈ spellings) :
    (trim isBlank v.toList).map Char.toLower = name.toList ↔ Names v name := by
  rw [map_toLower_eq_iff fun d hd => (isPlain_of_mem_spellings h d hd).2, names_iff]

theorem unhyphened {name : String} (h : (name.toList.all fun d => d != '_' && d != '-') = true) :
    ∀ d ∈ name.toList, d ≠ '_' ∧ d ≠ '-' := by
  intro d hd
  have hd := List.all_eq_true.mp h d hd
  simpa only [Bool.and_eq_true, bne_iff_ne] using hd

theorem normalize_eq_ioredis_iff {v : String} : normalize v = "ioredis" ↔ Names v "ioredis" := by
  have hmem : "ioredis" ∈ spellings := by decide
  rw [normalize_eq_iff fun d hd => (isPlain_of_mem_spellings hmem d hd).1, map_hyphenated_eq_iff (unhyphened (by decide)),
    map_toLower_eq_iff_names hmem]

theorem normalize_eq_nodeRedis_iff {v : String} :
    normalize v = "node-redis" ↔ Names v "node-redis" ∨ Names v "node_redis" := by
  have hhyphen : "node-redis" ∈ spellings := by decide
  have hline : "node_redis" ∈ spellings := by decide
  have hsplit : "node-redis".toList = "node".toList ++ '-' :: "redis".toList := by decide
  have hsplit' : "node_redis".toList = "node".toList ++ '_' :: "redis".toList := by decide
  rw [normalize_eq_iff fun d hd => (isPlain_of_mem_spellings hhyphen d hd).1, hsplit,
    map_hyphenated_eq_append_iff (unhyphened (by decide)) (unhyphened (by decide)), ← hsplit, ← hsplit',
    map_toLower_eq_iff_names hhyphen, map_toLower_eq_iff_names hline]

theorem strip_isEmpty_iff {v : String} : (strip v).isEmpty = true ↔ ∀ c ∈ v.toList, isBlank c = true := by
  rw [String.isEmpty_iff, ← String.toList_eq_nil_iff, strip, String.toList_ofList, trim_eq_nil_iff]

theorem normalize_of_blank {v : String} (h : ∀ c ∈ v.toList, isBlank c = true) : normalize v = "" := by
  rw [← String.toList_eq_nil_iff, toList_normalize, trim_eq_nil_iff.mpr h]
  rfl

theorem name_ne_empty (d : Dialect) : d.name ≠ "" := by
  cases d <;> decide

theorem name_injective {d d' : Dialect} (h : d.name = d'.name) : d = d' := by
  revert h
  cases d <;> cases d' <;> decide

/-! ### What becomes of a text -/

/-- A text of blanks is no name, one whose normal form is a name is its dialect, and any other is refused. -/
theorem ofValue_cases (v : String) :
    (normalize v = "" ∧ (∀ c ∈ v.toList, isBlank c = true) ∧ ofValue (.str v) = .error (.dialect .missing)) ∨
    (∃ d : Dialect, normalize v = d.name ∧ ofValue (.str v) = .ok d) ∨
    ((∀ d : Dialect, normalize v ≠ d.name) ∧ (∃ c ∈ v.toList, isBlank c = false) ∧
      ofValue (.str v) = .error (.dialect (.unknown v))) := by
  have hparse : ofValue (.str v) = (parse v).mapError .dialect := rfl
  rw [hparse, parse]
  by_cases hblank : ∀ c ∈ v.toList, isBlank c = true
  · left
    rw [if_pos (strip_isEmpty_iff.mpr hblank)]
    exact ⟨normalize_of_blank hblank, hblank, rfl⟩
  · right
    rw [if_neg (mt strip_isEmpty_iff.mp hblank)]
    cases hfind : all.find? (·.name == normalize v) with
    | some d =>
      left
      have hname := List.find?_some hfind
      simp only [beq_iff_eq] at hname
      exact ⟨d, hname.symm, rfl⟩
    | none =>
      right
      refine ⟨fun d hd => ?_, ?_, rfl⟩
      · have hother := List.find?_eq_none.mp hfind d (mem_all d)
        simp only [beq_iff_eq] at hother
        exact hother hd.symm
      · simpa using hblank

/-- The problem that is reported of a text given for a dialect. -/
def Reports (v : String) (p : Problem) : Prop := ∃ f, ofValue (.str v) = .error f ∧ p = f.toProblem

variable {v : String}

theorem ofValue_eq_ok_iff {d : Dialect} : ofValue (.str v) = .ok d ↔ normalize v = d.name := by
  rcases ofValue_cases v with ⟨hempty, -, h⟩ | ⟨d', hname, h⟩ | ⟨hnone, -, h⟩
  · rw [h, hempty]
    exact iff_of_false (by simp) (name_ne_empty d).symm
  · rw [h, hname, Except.ok.injEq]
    exact ⟨congrArg name, name_injective⟩
  · rw [h]
    exact iff_of_false (by simp) (hnone d)

/-- What is reported: a missing name of texts of blanks, and an unknown one of other texts that are no name. -/
theorem reports_iff {p : Problem} : Reports v p ↔
    (∀ c ∈ v.toList, isBlank c = true) ∧ p = (Fault.dialect .missing).toProblem ∨
    ((∀ d : Dialect, normalize v ≠ d.name) ∧ ∃ c ∈ v.toList, isBlank c = false) ∧
      p = (Fault.dialect (.unknown v)).toProblem := by
  rcases ofValue_cases v with ⟨-, hblank, h⟩ | ⟨d, hname, h⟩ | ⟨hnone, hsome, h⟩
  · have hnot : ¬∃ c ∈ v.toList, isBlank c = false := by simpa using hblank
    simp only [Reports, h, Except.error.injEq, exists_eq_left', hnot, and_false, false_and, or_false]
    exact (and_iff_right hblank).symm
  · refine iff_of_false ?_ ?_
    · rintro ⟨f, hf, -⟩
      rw [h] at hf
      cases hf
    · rintro (⟨hblank, -⟩ | ⟨⟨hnone, -⟩, -⟩)
      · exact name_ne_empty d (hname.symm.trans (normalize_of_blank hblank))
      · exact hnone d hname
  · have hnot : ¬∀ c ∈ v.toList, isBlank c = true := by simpa using hsome
    simp only [Reports, h, Except.error.injEq, exists_eq_left', hnot, false_and, false_or]
    exact (and_iff_right ⟨hnone, hsome⟩).symm

theorem reports_input_iff : (∃ p, Reports v p ∧ p.kind = .input ∧ p.message = "Source dialect is required") ↔
    ∀ c ∈ v.toList, isBlank c = true := by
  constructor
  · rintro ⟨p, hp, hkind, -⟩
    rcases reports_iff.mp hp with ⟨hblank, -⟩ | ⟨-, rfl⟩
    · exact hblank
    · cases hkind
  · intro hblank
    exact ⟨_, reports_iff.mpr (.inl ⟨hblank, rfl⟩), rfl, rfl⟩

theorem reports_unsupported_iff :
    (∃ p, Reports v p ∧ p.kind = .unsupportedDialect ∧ p.context.lookup "dialect" = some (.str v)) ↔
      (∀ d : Dialect, normalize v ≠ d.name) ∧ ∃ c ∈ v.toList, isBlank c = false := by
  constructor
  · rintro ⟨p, hp, hkind, -⟩
    rcases reports_iff.mp hp with ⟨-, rfl⟩ | ⟨hother, -⟩
    · cases hkind
    · exact hother
  · intro hother
    exact ⟨_, reports_iff.mpr (.inr ⟨hother, rfl⟩), rfl, rfl⟩

theorem ofValue_eq_ioredis_iff : ofValue (.str v) = .ok .ioredis ↔ Names v "ioredis" :=
  ofValue_eq_ok_iff.trans normalize_eq_ioredis_iff

theorem ofValue_eq_nodeRedis_iff :
    ofValue (.str v) = .ok .nodeRedis ↔ Names v "node-redis" ∨ Names v "node_redis" :=
  ofValue_eq_ok_iff.trans normalize_eq_nodeRedis_iff

theorem forall_normalize_ne_iff : (∀ d : Dialect, normalize v ≠ d.name) ↔
    ¬Names v "ioredis" ∧ ¬Names v "node-redis" ∧ ¬Names v "node_redis" := by
  have hdialects : (∀ d : Dialect, normalize v ≠ d.name) ↔ normalize v ≠ "ioredis" ∧ normalize v ≠ "node-redis" := by
    constructor
    · intro h
      exact ⟨h .ioredis, h .nodeRedis⟩
    · rintro ⟨h, h'⟩ (_ | _)
      · exact h
      · exact h'
  rw [hdialects, ne_eq, ne_eq, normalize_eq_ioredis_iff, normalize_eq_nodeRedis_iff, not_or]

theorem Names.toNat_lt {name : String} (hname : name ∈ spellings) (h : Names v name) :
    ∀ c ∈ trim isBlank v.toList, c.toNat < 128 :=
  (names_iff.mp h).toNat_lt fun d hd => (isPlain_of_mem_spellings hname d hd).1.2.1

theorem toNat_lt_of_ofValue {d : Dialect} (h : ofValue (.str v) = .ok d) :
    ∀ c ∈ trim isBlank v.toList, c.toNat < 128 := by
  cases d with
  | ioredis => exact (ofValue_eq_ioredis_iff.mp h).toNat_lt (by decide)
  | nodeRedis =>
    rcases ofValue_eq_nodeRedis_iff.mp h with hhyphen | hline
    · exact hhyphen.toNat_lt (by decide)
    · exact hline.toNat_lt (by decide)

/-- A text is read as a dialect exactly if, without the blanks around it, it is a name of the dialect with letters in
    either case of ASCII. A text of blanks is reported as a missing name, and every other one as unsupported, with the text
    itself. So no character beyond ASCII stands in for one of a name. -/
theorem ofValue_exact (v : String) :
    (ofValue (.str v) = .ok .ioredis ↔ Names v "ioredis") ∧
    (ofValue (.str v) = .ok .nodeRedis ↔ Names v "node-redis" ∨ Names v "node_redis") ∧
    ((∃ p, Reports v p ∧ p.kind = .input ∧ p.message = "Source dialect is required") ↔
      ∀ c ∈ v.toList, isBlank c = true) ∧
    ((∃ p, Reports v p ∧ p.kind = .unsupportedDialect ∧ p.context.lookup "dialect" = some (.str v)) ↔
      (¬Names v "ioredis" ∧ ¬Names v "node-redis" ∧ ¬Names v "node_redis") ∧ ∃ c ∈ v.toList, isBlank c = false) ∧
    ∀ d w, ofValue (.str v) = .ok d → Trimmed isBlank v.toList w → ∀ c ∈ w, c.toNat < 128 := by
  refine ⟨ofValue_eq_ioredis_iff, ofValue_eq_nodeRedis_iff, reports_input_iff, ?_, ?_⟩
  · rw [reports_unsupported_iff, forall_normalize_ne_iff]
  · intro d w h hw
    rw [hw.eq_trim]
    exact toNat_lt_of_ofValue h

/-- Blanks of other scripts are taken off, but a capital I with a dot above is no letter of a name. -/
theorem ofValue_exact_beyond_ascii :
    ofValue (.str "\u00a0Node_REDIS\u3000") = .ok .nodeRedis ∧
    Trimmed isBlank "\u00a0Node_REDIS\u3000".toList "Node_REDIS".toList ∧
    (∀ c ∈ "Node_REDIS".toList, c.toNat < 128) ∧
    ∃ p, Reports "\u0130oredis" p ∧ p.kind = .unsupportedDialect ∧
      p.context.lookup "dialect" = some (.str "\u0130oredis") := by
  obtain ⟨-, hnode, -, -, hascii⟩ := ofValue_exact "\u00a0Node_REDIS\u3000"
  obtain ⟨-, -, -, hrefused, -⟩ := ofValue_exact "\u0130oredis"
  have hok := hnode.mpr (.inr (by decide))
  have htrimmed : Trimmed isBlank "\u00a0Node_REDIS\u3000".toList "Node_REDIS".toList := trimmed_iff.mpr (by decide)
  refine ⟨hok, htrimmed, hascii _ _ hok htrimmed, hrefused.mpr ⟨⟨by decide, by decide, by decide⟩, ?_⟩⟩
  exact ⟨'o', by decide, by decide⟩

end ClientMigration.Dialect
