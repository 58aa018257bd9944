import ClientMigration.Proofs.Batch
import ClientMigration.Proofs.Catalog.Builtin
import ClientMigration.Proofs.CommandLine.Messages
import ClientMigration.Proofs.Text.Newlines

/-! # Every path is accounted for

The command that analyses files puts each path that it is given into one of two lists, as often as it is given: the
results, if the path leads to a file of UTF-8 text, and else the skipped files. Both keep the order of the paths. Each
result is the analysis of its own text, whatever order the analyses end in, and the code of the run tells whether
something was skipped. -/

namespace ClientMigration

/-! ### Lists and results -/

theorem map_filterMap_eq_filter {α β : Type} {f : α → Option β} {g : β → α} {p : α → Prop} [DecidablePred p]
    (hpos : ∀ a, p a → (f a).map g = some a) (hneg : ∀ a, ¬p a → f a = none) (as : List α) :
    (as.filterMap f).map g = as.filter (p ·) := by
  rw [List.map_filterMap, ← List.filterMap_eq_filter]
  refine congrArg (List.filterMap · as) (funext fun a => ?_)
  by_cases ha : p a
  · rw [hpos a ha]
    exact (if_pos (decide_eq_true ha)).symm
  · rw [hneg a ha]
    exact (if_neg (ha ∘ of_decide_eq_true)).symm

/-! ### Files that can be read -/

namespace Folder
variable {folder : Folder} {path text : String}

/-- The path leads to a file that encodes a text, and this is the text with its ends of lines unified. -/
def Reads (folder : Folder) (path text : String) : Prop :=
  ∃ stored, folder.place path = .file (Text.encode stored) ∧ text = String.ofList (Text.unifyNewlines stored.toList)

/-- The path leads to a file that encodes a text. -/
def Readable (folder : Folder) (path : String) : Prop := ∃ text, folder.Reads path text

theorem readText_eq_ok_iff : folder.readText path = .ok text ↔ folder.Reads path text := by
  constructor
  · intro h
    rw [readText, readBytes] at h
    cases hplace : folder.place path with
    | file bytes =>
      rw [hplace] at h
      change ((Text.decode bytes).mapError ReadFault.undecodable >>= _) = _ at h
      cases hdecode : Text.decode bytes with
      | error e =>
        rw [hdecode] at h
        cases h
      | ok stored =>
        rw [hdecode] at h
        cases h
        exact ⟨stored, by rw [hplace, Text.decode_eq_ok_iff.mp hdecode], rfl⟩
    | _ =>
      rw [hplace] at h
      cases h
  · rintro ⟨stored, hplace, rfl⟩
    rw [readText, readBytes, hplace]
    change ((Text.decode (Text.encode stored)).mapError ReadFault.undecodable >>= _) = _
    rw [Text.decode_eq_ok_iff.mpr rfl]
    rfl

theorem readText_of_encode {stored : String} (h : folder.place path = .file (Text.encode stored)) :
    folder.readText path = .ok (Text.unified stored) :=
  readText_eq_ok_iff.mpr ⟨stored, h, rfl⟩

theorem readable_iff : folder.Readable path ↔ (folder.readText path).toOption.isSome = true := by
  simp only [Readable, Option.isSome_iff_exists, toOption_eq_some_iff, readText_eq_ok_iff]

instance : Decidable (folder.Readable path) := decidable_of_iff _ readable_iff.symm

end Folder

/-! ### Parts of a run -/

theorem Tally.ending_of_no_problem {t : Tally} (h : t.problems = []) :
    t.ending = if t.skipped = [] then .success else .partialSuccess := by
  rw [ending, hasEnding, hasEnding, h]
  cases t.skipped <;> rfl

namespace CommandLine

theorem Workspace.printAll_append (w : Workspace) (lines lines' : List String) :
    w.printAll (lines ++ lines') = (w.printAll lines).printAll lines' := List.foldl_append

theorem Workspace.folder_printAll (w : Workspace) (lines : List String) : (w.printAll lines).folder = w.folder := by
  induction lines generalizing w with
  | nil => rfl
  | cons line lines ih => exact ih (w.print line)

/-- What is printed does not depend on what was reported. -/
theorem Workspace.Reports.out_printAll {w w' : Workspace} (h : w.Reports w') (lines : List String) :
    (w'.printAll lines).out = (w.printAll lines).out := by
  obtain ⟨reports, rfl⟩ := h
  induction lines generalizing w with
  | nil => rfl
  | cons line lines ih => exact ih (w := w.print line)

namespace Analyze
variable {folder : Folder} {d : Dialect}

/-! ### Units and skipped files -/

theorem unitOf_of_reads {path text : String} (h : folder.Reads path text) :
    unitOf folder d path = .ok ⟨path, text, d⟩ := by
  rw [unitOf, readSource, Folder.readText_eq_ok_iff.mpr h]
  rfl

theorem unitOf_of_not_readable {path : String} (h : ¬folder.Readable path) :
    ∃ reason, unitOf folder d path = .error ⟨path, reason⟩ := by
  cases hread : folder.readText path with
  | ok text => exact absurd ⟨text, Folder.readText_eq_ok_iff.mp hread⟩ h
  | error f =>
    rw [unitOf, readSource, hread]
    exact ⟨_, rfl⟩

theorem map_name_units (paths : List String) :
    (units folder d paths).map (·.name) = paths.filter (folder.Readable ·) := by
  refine map_filterMap_eq_filter (fun p hp => ?_) (fun p hp => ?_) paths
  · obtain ⟨text, htext⟩ := hp
    rw [unitOf_of_reads htext]
    rfl
  · obtain ⟨reason, hreason⟩ := unitOf_of_not_readable (d := d) hp
    rw [hreason]
    rfl

theorem map_path_skipped (paths : List String) :
    (skipped folder d paths).map (·.path) = paths.filter (¬folder.Readable ·) := by
  refine map_filterMap_eq_filter (fun p hp => ?_) (fun p hp => ?_) paths
  · obtain ⟨reason, hreason⟩ := unitOf_of_not_readable (d := d) hp
    rw [hreason]
    rfl
  · obtain ⟨text, htext⟩ := Decidable.not_not.mp hp
    rw [unitOf_of_reads htext]

theorem reads_of_mem_units {paths : List String} {u : SourceUnit} (h : u ∈ units folder d paths) :
    folder.Reads u.name u.source ∧ u.dialect = d := by
  obtain ⟨p, -, hp⟩ := List.mem_filterMap.mp h
  by_cases hr : folder.Readable p
  · obtain ⟨text, htext⟩ := hr
    rw [unitOf_of_reads htext] at hp
    cases hp
    exact ⟨htext, rfl⟩
  · obtain ⟨reason, hreason⟩ := unitOf_of_not_readable (d := d) hr
    rw [hreason] at hp
    cases hp

/-! ### Accounts -/

/-- The results and the tally account for the paths. -/
structure Accounts (folder : Folder) (t : Detector) (d : Dialect) (paths : List String)
    (results : List (SourceUnit × Analysis)) (tally : Tally) : Prop where
  names : results.map (·.1.name) = paths.filter (folder.Readable ·)
  own : ∀ r ∈ results, folder.Reads r.1.name r.1.source ∧ r.2 = t.analyze r.1.source d
  processed : tally.processed = results.map (·.1.name)
  skipped : tally.skipped.map (·.path) = paths.filter (¬folder.Readable ·)

namespace Accounts
variable {t : Detector} {paths : List String} {results : List (SourceUnit × Analysis)} {tally : Tally}

/-- Each path stands in the two lists together as often as it is given. -/
theorem perm (h : Accounts folder t d paths results tally) :
    (results.map (·.1.name) ++ tally.skipped.map (·.path)).Perm paths := by
  rw [h.names, h.skipped]
  simpa only [decide_not] using List.filter_append_perm (folder.Readable ·) paths

theorem not_mem_skipped (h : Accounts folder t d paths results tally) {path : String}
    (hp : path ∈ results.map (·.1.name)) : path ∉ tally.skipped.map (·.path) := by
  rw [h.names] at hp
  rw [h.skipped]
  intro hskip
  exact of_decide_eq_true (List.mem_filter.mp hskip).2 (of_decide_eq_true (List.mem_filter.mp hp).2)

theorem length_add_length (h : Accounts folder t d paths results tally) :
    tally.processed.length + tally.skipped.length = paths.length := by
  rw [h.processed, ← h.perm.length_eq, List.length_append, List.length_map, List.length_map]

end Accounts

theorem accounts_units (folder : Folder) (t : Detector) (d : Dialect) (paths : List String) :
    Accounts folder t d paths ((units folder d paths).zip ((units folder d paths).map fun u =>
      t.analyze u.source u.dialect)) (tally folder d paths) := by
  rw [← List.map_prod_left_eq_zip]
  have hnames : ((units folder d paths).map fun u => (u, t.analyze u.source u.dialect)).map (·.1.name) =
      (units folder d paths).map (·.name) := by
    rw [List.map_map]
    rfl
  refine ⟨hnames.trans (map_name_units paths), fun r hr => ?_, hnames.symm, map_path_skipped paths⟩
  obtain ⟨u, hu, rfl⟩ := List.mem_map.mp hr
  obtain ⟨hreads, hd⟩ := reads_of_mem_units hu
  exact ⟨hreads, congrArg (t.analyze u.source) hd⟩

/-! ### What is shown -/

/-- The lines that show an analysis. -/
def analysisLines (name : String) (a : Analysis) : List String :=
  [Display.plain name, countLine a] ++ (a.findings.flatMap findingLines ++ closingLines a)

theorem isPlain_countLine (a : Analysis) : IsPlain (countLine a).toList := by
  rw [countLine]
  split
  · decide
  · simp only [String.toList_append, isPlain_append]
    exact ⟨⟨by decide, isPlain_toString _⟩, by decide⟩

section
variable (k : Console) (w : Workspace)

theorem run_showCount (a : Analysis) : (showCount k a).run w = .ok () (w.print (countLine a)) := by
  rw [showCount]
  split
  · exact Step.run_say_of_render (Console.render_of_isPlain (isPlain_countLine a))
  · exact Step.run_say_of_render (Console.render_succeeded (isPlain_countLine a))

theorem run_showAnalysis (name : String) (a : Analysis) :
    (showAnalysis k name a).run w = .ok () (w.printAll (analysisLines name a)) := by
  rw [showAnalysis]
  exact (Step.run_bind_of_ok (x := .print _) rfl).trans (Step.run_bind_of_ok (run_showCount k _ a))

theorem run_forM_showAnalysis (results : List (SourceUnit × Analysis)) :
    (results.forM fun (u, a) => showAnalysis k u.name a).run w =
      .ok () (w.printAll (results.flatMap fun (u, a) => analysisLines u.name a)) := by
  induction results generalizing w with
  | nil => rfl
  | cons r results ih =>
    rw [List.flatMap_cons, Workspace.printAll_append]
    exact (Step.run_bind_of_ok (run_showAnalysis k w r.1.name r.2)).trans (ih _)

/-- The results are all printed, and how many files were skipped is reported. -/
theorem run_showResults (results : List (SourceUnit × Analysis)) (t : Tally) :
    ∃ w', (showResults k results t).run w = .ok () w' ∧
      (w.printAll (results.flatMap fun (u, a) => analysisLines u.name a)).Reports w' := by
  rw [showResults, Step.run_bind_of_ok (run_forM_showAnalysis k w results)]
  by_cases hnone : t.skipped.isEmpty = true
  · rw [if_pos hnone]
    exact ⟨_, rfl, .refl _⟩
  · rw [if_neg hnone]
    refine Step.run_report_of_shows (Console.shows_warned ?_)
    rw [String.toList_append, List.mem_append]
    exact not_or.mpr ⟨fun hin => (isPlain_toString _ _ hin).2.1 rfl, by decide⟩

end

/-! ### Runs -/

/-- What is said of the files that are skipped. -/
def skipWarnings (folder : Folder) (d : Dialect) (paths : List String) : List String :=
  ((tally folder d paths).skipped.map skipMessage).map Markup.warned

section
variable {q : Analyze} {c : Context} {w : Workspace} (hd : readDialect q.dialect = .ok d)
include hd

theorem run_eq : (q.run c).run w = (do
    q.reportSkipped c.console (tally w.folder d q.paths)
    let t ← Step.detector c
    q.reportResults c.console ((units w.folder d q.paths).zip
      (t.analyzeUnits (units w.folder d q.paths) q.concurrency)) (tally w.folder d q.paths)
    return (tally w.folder d q.paths).ending : Step Ending).run w := by
  rw [run, hd]
  exact Step.run_bind_of_ok (x := get) rfl

theorem run_of_flaw {f : Markup.Flaw} (hj : q.json = false)
    (hf : c.console.firstFlaw? (skipWarnings w.folder d q.paths) = some f) :
    ∃ w', (q.run c).run w = .error (.unshowable f) w' ∧ w.Reports w' := by
  obtain ⟨w', hw', hreports⟩ := Step.run_warnAll_of_firstFlaw (w := w) hf
  refine ⟨w', ?_, hreports⟩
  rw [run_eq hd, reportSkipped, hj]
  exact Step.run_bind_of_error hw'

variable {s : Settings} {t : Detector} (hs : c.settings = .ok s) (ht : Detector.make .builtin s = .ok t)
include hs ht

theorem run_of_json (hj : q.json = true) : (q.run c).run w = .ok (tally w.folder d q.paths).ending
    (w.print (Json.indented (toValue ((units w.folder d q.paths).zip
      (t.analyzeUnits (units w.folder d q.paths) q.concurrency)) (tally w.folder d q.paths)))) := by
  rw [run_eq hd, reportSkipped, hj]
  refine (Step.run_bind_of_ok (x := pure ()) rfl).trans ((Step.run_bind_of_ok (Step.run_detector hs ht)).trans ?_)
  rw [reportResults, hj]
  rfl

theorem run_of_shows (hj : q.json = false) (h : ∀ m ∈ skipWarnings w.folder d q.paths, c.console.Shows m) :
    ∃ w', (q.run c).run w = .ok (tally w.folder d q.paths).ending w' ∧ w'.folder = w.folder ∧
      w'.out = (w.printAll (((units w.folder d q.paths).zip
        (t.analyzeUnits (units w.folder d q.paths) q.concurrency)).flatMap
          fun (u, a) => analysisLines u.name a)).out := by
  obtain ⟨w₁, hw₁, hwarned⟩ := Step.run_warnAll_of_shows (w := w) (List.forall_mem_map.mp h)
  obtain ⟨w₂, hw₂, hshown⟩ := run_showResults c.console w₁ ((units w.folder d q.paths).zip
    (t.analyzeUnits (units w.folder d q.paths) q.concurrency)) (tally w.folder d q.paths)
  refine ⟨w₂, ?_, ?_, ?_⟩
  · rw [run_eq hd, reportSkipped, hj]
    refine (Step.run_bind_of_ok hw₁).trans ((Step.run_bind_of_ok (Step.run_detector hs ht)).trans ?_)
    rw [reportResults, hj]
    exact Step.run_bind_of_ok hw₂
  · rw [hshown.folder_eq, Workspace.folder_printAll, hwarned.folder_eq]
  · rw [hshown.out_eq, hwarned.out_printAll]

end

theorem readDialect_ioredis : readDialect "ioredis" = .ok .ioredis := toOption_eq_some_iff.mp (by decide +kernel)

/-- The run of a command on one path that leads nowhere. -/
def missingRun (path : String) : Exit :=
  .ofResult bareHost false ((Analyze.run ⟨[path], "ioredis", 4, false⟩ ⟨bareHost, .ok {}⟩).run { folder := {} })

theorem code_missingRun {path : String} {f : Markup.Flaw}
    (hf : Console.plain.firstFlaw? (skipWarnings {} .ioredis [path]) = some f) : (missingRun path).code =
      if Console.plain.Shows (Exit.breakdownMessage bareHost (.unshowable f)) then 3 else 1 := by
  obtain ⟨w', hw', -⟩ := run_of_flaw (q := ⟨[path], "ioredis", 4, false⟩) (c := ⟨bareHost, .ok {}⟩)
    (w := { folder := {} }) readDialect_ioredis rfl hf
  rw [missingRun, hw']
  exact (Exit.ofResult_error bareHost false (.unshowable f) w').2

end Analyze
end CommandLine
end ClientMigration
