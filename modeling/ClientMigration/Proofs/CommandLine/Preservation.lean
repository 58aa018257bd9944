import ClientMigration.Proofs.CommandLine.Accounting
import ClientMigration.Proofs.Conversion.Provenance
import ClientMigration.Proofs.Conversion.Unfound
import ClientMigration.Proofs.Folder
import ClientMigration.Proofs.Settings.Fallback

/-! # Files that need no change

The command that converts a file writes what it has read where no change is logged. What it has read is the stored text
with its ends of lines unified, so the bytes that it writes are those of the file exactly if the file has no carriage
return. What the run has to say decides whether it gets as far as that, and whether it ends well. -/

namespace ClientMigration.CommandLine

/-! ### The words of the command -/

/-- A conversion of a whole file into another. -/
def conversionWords (path dialect out : String) : List String := ["convert", path, "-d", dialect, "-o", out]

theorem Check.mem_of_mem_ordered {w : Words} {checks : List Check} {c : Check} (h : c ∈ ordered w checks) :
    c ∈ checks := by
  simp only [ordered, List.mem_append, List.mem_flatMap, List.mem_filter] at h
  rcases h with (⟨_, _, hc, _⟩ | ⟨hc, _⟩) | ⟨hc, _⟩ <;> exact hc

theorem Check.all_eq_ok {w : Words} {checks : List Check} (h : ∀ c ∈ checks, c.fault = none) :
    all w checks [] = .ok () := by
  have hnone : (ordered w checks).findSome? (·.fault) = none :=
    List.findSome?_eq_none_iff.mpr fun c hc => h c (mem_of_mem_ordered hc)
  rw [all, hnone]
  rfl

namespace Convert
variable {folder : Folder} {path out : String} (dialect : String)

/-- The words of the command as they are read. -/
def conversionOf (path dialect out : String) : Words :=
  ⟨[⟨dialectOption, some dialect⟩, ⟨outputOption, some out⟩], [path]⟩

theorem read_words (hpath : Words.readOption? options path = none) :
    Words.read options true none [path, "-d", dialect, "-o", out] = .ok (conversionOf path dialect out) := by
  have hne : path ≠ "--" := by
    rintro rfl
    cases hpath
  rw [Words.read, if_neg hne, hpath]
  rfl

theorem ofWords_eq_ok (env : Environment) {bytes : Text.Bytes} (hplace : folder.place path = .file bytes)
    (hout : folder.MayHold out) : ofWords env folder (conversionOf path dialect out) =
      .ok ⟨Path.normal path, dialect, none, some (Path.normal out), false⟩ := by
  have hfile : pathFault? folder [path] = none := by rw [pathFault?, fileFault?, hplace, Option.map_none]
  have houtput : outputFault? folder out = none := by
    rw [outputFault?, if_neg]
    intro hdirectory
    obtain ⟨-, -, -, -, hother⟩ := hout
    exact hother (Folder.destination_of_place_eq_directory hdirectory)
  have houtput' : (valueCheck (conversionOf path dialect out) outputOption (outputFault? folder)).fault = none :=
    congrArg (Option.map (UsageFault.invalidValue outputOption.shown)) houtput
  have hchecks : Check.all (conversionOf path dialect out)
      [⟨none, pathFault? folder (conversionOf path dialect out).rest⟩, dialectCheck env (conversionOf path dialect out),
        valueCheck (conversionOf path dialect out) idiomOption idiomFault?,
        valueCheck (conversionOf path dialect out) outputOption (outputFault? folder)] [] = .ok () := by
    refine Check.all_eq_ok ?_
    rw [List.forall_mem_cons, List.forall_mem_cons, List.forall_mem_cons, List.forall_mem_cons]
    exact ⟨hfile, rfl, rfl, houtput', List.forall_mem_nil _⟩
  rw [ofWords, show (conversionOf path dialect out).rest.drop 1 = [] from rfl, hchecks]
  rfl

/-! ### Runs that log no change -/

theorem product_of_no_change {q : Convert} {t : Detector} {text : String} {d : Dialect} {file : ConvertedFile}
    (hall : q.idiom = none)
    (hfile : ConvertedFile.convert t.settings.conversion text (t.analyze text d) q.path = .ok file)
    (hchanges : file.changes = []) :
    ∃ p, q.product t text d = .ok (some p) ∧ p.code = text ∧ p.warnings = file.warnings := by
  refine ⟨ofFile q.path file, ?_, ?_, rfl⟩
  · rw [product, hall]
    dsimp only
    rw [hfile]
    rfl
  · rw [ConvertedFile.convert_eq_ok Detector.sightings_ne_nil] at hfile
    cases hfile
    exact ConvertedFile.code_made_of_changes_eq_nil _ _ _ _ hchanges

section
variable {q : Convert} {k : Console} {w : Workspace} {p : Product}

theorem leaves_showProduct (hoption : q.output = some out) (found : Bool) : Step.Leaves (q.showProduct k p found) w ()
    w.folder (∀ m ∈ p.warnings, k.Shows (Markup.warned m)) := by
  have hcode : Step.Leaves (q.printCode p) w () w.folder True := by
    rw [printCode, hoption]
    exact .of_run rfl
  have hwarnings : ∀ w' : Workspace, w'.folder = w.folder → Step.Leaves (.warnAll k p.warnings) w' () w.folder
      (∀ m ∈ p.warnings, k.Shows (Markup.warned m)) := by
    intro w' hw'
    exact hw' ▸ Step.leaves_warnAll p.warnings
  have hunchanged : ∀ w' : Workspace, w'.folder = w.folder → Step.Leaves
      (if found then pure () else .say k "No migration patterns detected; code left unchanged") w' () w.folder True := by
    intro w' hw'
    rw [← hw']
    split
    · exact .of_run rfl
    · exact Step.leaves_say.congr (iff_true_intro (Console.shows_of_no_bracket (by decide)))
  rw [showProduct]
  refine (hcode.bind fun w' hw' => (hwarnings w' hw').bind hunchanged).congr ?_
  rw [true_and, and_true]

theorem leaves_writeOutput (hoption : q.output = some out) (hj : q.json = false) {code : String} {after : Folder}
    (hwrite : w.folder.writeText out code = .ok after) :
    Step.Leaves (q.writeOutput k code) w () after (k.Shows (Markup.succeeded (writtenMessage out))) := by
  have hrun : (q.writeOutput k code).run w = (Step.succeed k (writtenMessage out)).run { w with folder := after } := by
    rw [writeOutput, hoption]
    refine (Step.run_bind_of_ok (x := get) rfl).trans ?_
    rw [hwrite, hj]
    rfl
  exact .of_run_eq hrun Step.leaves_say

end

/-- A conversion that logs no change writes the text that it has read. It ends well if its messages can be shown. -/
theorem leaves_run {q : Convert} {c : Context} {w : Workspace} {d : Dialect} {s : Settings} {t : Detector}
    {stored : String} {file : ConvertedFile} {after : Folder} (hall : q.idiom = none) (hj : q.json = false)
    (hoption : q.output = some out) (hd : readDialect q.dialect = .ok d)
    (hplace : w.folder.place q.path = .file (Text.encode stored)) (hs : c.settings = .ok s)
    (ht : Detector.make .builtin s = .ok t)
    (hfile : ConvertedFile.convert t.settings.conversion (Text.unified stored) (t.analyze (Text.unified stored) d)
      q.path = .ok file) (hchanges : file.changes = [])
    (hwrite : w.folder.writeText out (Text.unified stored) = .ok after) :
    Step.Leaves (q.run c) w .success after (c.console.Shows (Markup.succeeded (writtenMessage out)) ∧
      ∀ m ∈ file.warnings, c.console.Shows (Markup.warned m)) := by
  have hread : readSource w.folder q.path = .ok (Text.unified stored) := by
    rw [readSource, Folder.readText_of_encode hplace]
    rfl
  obtain ⟨p, hp, hcode, hwarnings⟩ := product_of_no_change hall hfile hchanges
  have hdeliver : Step.Leaves (q.deliver c.console t (Text.unified stored) d) w () after
      (c.console.Shows (Markup.succeeded (writtenMessage out)) ∧
        ∀ m ∈ file.warnings, c.console.Shows (Markup.warned m)) := by
    rw [deliver, hp, ← hwarnings]
    refine (leaves_writeOutput hoption hj (hcode.symm ▸ hwrite)).bind fun w' hw' => ?_
    rw [reportProduct, hj, ← hw']
    exact leaves_showProduct hoption _
  have hrun : (q.run c).run w =
      (do q.deliver c.console t (Text.unified stored) d; return .success : Step Ending).run w := by
    rw [run, hd]
    refine (Step.run_bind_of_ok (x := get) rfl).trans ?_
    rw [hread]
    exact Step.run_bind_of_ok (Step.run_detector hs ht)
  exact .of_run_eq hrun (hdeliver.bind_pure Ending.success)

end Convert

/-! ### Runs of the program -/

/-- That settings cannot be loaded, if they cannot, can be said. -/
def Announces (host : Host) (folder : Folder) (asked : Option String) (quiet : Bool) : Prop :=
  ∀ r, Settings.load folder host.toDirectories asked host.environment = .error r → quiet = false →
    host.console.Shows (Markup.failed (refusalMessage host.wording r))

section
variable {host : Host} {asked : Option String} {quiet : Bool} {w : Workspace}

theorem run_announceSettings_of_ok {s : Settings}
    (h : Settings.load w.folder host.toDirectories asked host.environment = .ok s) :
    (announceSettings host asked quiet).run w = .ok () w := by
  rw [announceSettings]
  refine (Step.run_bind_of_ok (x := get) rfl).trans ?_
  rw [h]
  rfl

theorem run_announceSettings_of_error {r : Settings.Refusal}
    (h : Settings.load w.folder host.toDirectories asked host.environment = .error r) :
    (announceSettings host asked quiet).run w = (do
      unless quiet do
        Step.error host.console (refusalMessage host.wording r)
        Step.error host.console "Falling back to built-in defaults" : Step Unit).run w := by
  rw [announceSettings]
  refine (Step.run_bind_of_ok (x := get) rfl).trans ?_
  rw [h]

end

theorem leaves_announceSettings (host : Host) (asked : Option String) (quiet : Bool) (w : Workspace) :
    Step.Leaves (announceSettings host asked quiet) w () w.folder (Announces host w.folder asked quiet) := by
  cases hload : Settings.load w.folder host.toDirectories asked host.environment with
  | ok s =>
    refine (Step.Leaves.of_run (run_announceSettings_of_ok hload)).congr (iff_of_true trivial ?_)
    intro r hr
    rw [hload] at hr
    cases hr
  | error r =>
    have hcondition : Announces host w.folder asked quiet ↔
        (quiet = false → host.console.Shows (Markup.failed (refusalMessage host.wording r))) := by
      simp only [Announces, hload, Except.error.injEq, forall_eq']
    refine .of_run_eq (run_announceSettings_of_error hload) (Step.Leaves.congr ?_ hcondition.symm)
    cases quiet with
    | true => exact (Step.Leaves.of_run rfl).congr (iff_of_true trivial nofun)
    | false =>
      have hdefaults : ∀ w' : Workspace, w'.folder = w.folder →
          Step.Leaves (.error host.console "Falling back to built-in defaults") w' () w.folder True := fun w' hw' =>
        hw' ▸ Step.leaves_report.congr (iff_true_intro (Console.shows_failed (by decide)))
      refine (Step.leaves_report.bind hdefaults).congr ?_
      rw [and_true, forall_prop_of_true rfl]

variable (host : Host) (dialect : String) {path out : String} {folder : Folder}

theorem Command.run_convert {c : Context} {bytes : Text.Bytes}
    (hpath : Words.readOption? Convert.options path = none) (hplace : folder.place path = .file bytes)
    (hout : folder.MayHold out) : Command.convert.run c folder [path, "-d", dialect, "-o", out] =
      .ok (Convert.run ⟨Path.normal path, dialect, none, some (Path.normal out), false⟩ c) := by
  have hwords : Words.read Command.convert.options true none [path, "-d", dialect, "-o", out] =
      .ok (Convert.conversionOf path dialect out) := Convert.read_words dialect hpath
  have hask := Convert.ofWords_eq_ok dialect c.environment hplace hout
  rw [Command.run, hwords]
  change (Convert.ofWords c.environment folder (Convert.conversionOf path dialect out)).map _ = _
  rw [hask]
  rfl

/-- The context of a run without options. -/
def contextOf (host : Host) (folder : Folder) : Context :=
  ⟨host, settingsFor folder host.toDirectories none host.environment⟩

theorem runCommand_of_ok {debug : Bool} (words : Words) {w : Workspace} {name : String} {args : List String}
    {c : Command} {step : Step Ending} (hrest : words.rest = name :: args) (hc : Command.named? name = some c)
    (hstep : c.run ⟨host, settingsFor w.folder host.toDirectories (words.value? configOption) host.environment⟩
      w.folder args = .ok step) : runCommand host debug words w = .ofResult host debug
      ((do announceSettings host (words.value? configOption) (words.has quietOption); step : Step Ending).run w) := by
  have hannounce := leaves_announceSettings host (words.value? configOption) (words.has quietOption) w
  simp only [runCommand, hrest, hc]
  by_cases h : Announces host w.folder (words.value? configOption) (words.has quietOption)
  · obtain ⟨w', hw', hfolder⟩ := hannounce.ok h
    rw [Step.run_bind_of_ok hw', hw']
    dsimp only
    rw [hfolder, hstep]
  · obtain ⟨b, w', hw', -⟩ := hannounce.error h
    rw [Step.run_bind_of_error hw', hw']

theorem run_conversionWords {bytes : Text.Bytes} (hpath : Words.readOption? Convert.options path = none)
    (hplace : folder.place path = .file bytes) (hout : folder.MayHold out) :
    ∃ debug, run host folder (conversionWords path dialect out) = .ofResult host debug
      ((do announceSettings host none false
           Convert.run ⟨Path.normal path, dialect, none, some (Path.normal out), false⟩ (contextOf host folder) :
        Step Ending).run { folder := folder }) := by
  refine ⟨(conversionWords path dialect out).contains "--debug", ?_⟩
  have hread : Words.read options false none (conversionWords path dialect out) =
      .ok ⟨[], conversionWords path dialect out⟩ := rfl
  rw [run, hread]
  exact runCommand_of_ok host ⟨[], conversionWords path dialect out⟩ (w := { folder := folder }) rfl (c := .convert) rfl
    (Command.run_convert dialect hpath hplace hout)

/-- What a conversion says of its output can be shown. -/
def ShowsConversion (host : Host) (out : String) (warnings : List String) : Prop :=
  host.console.Shows (Markup.succeeded (Convert.writtenMessage (Path.normal out))) ∧
    ∀ m ∈ warnings, host.console.Shows (Markup.warned m)

theorem run_of_not_announces {bytes : Text.Bytes} (hword : Words.readOption? Convert.options path = none)
    (hplace : folder.place path = .file bytes) (hout : folder.MayHold out) (h : ¬Announces host folder none false) :
    (run host folder (conversionWords path dialect out)).workspace.folder = folder ∧
    (run host folder (conversionWords path dialect out)).code ≠ 0 := by
  obtain ⟨debug, hrun⟩ := run_conversionWords host dialect hword hplace hout
  obtain ⟨b, w, hw, hfolder⟩ := (leaves_announceSettings host none false { folder := folder }).error h
  rw [hrun, Step.run_bind_of_error hw]
  exact ⟨(Exit.ofResult_error host debug b w).1.trans hfolder, Exit.code_ofResult_error_ne_zero host debug b w⟩

section
variable {host : Host} {dialect : String} {d : Dialect} {s : Settings} {t : Detector} {stored : String}
  {file : ConvertedFile}
  (hword : Words.readOption? Convert.options path = none) (hpath : Path.parts path ≠ [])
  (hplace : folder.place path = .file (Text.encode stored)) (hout : folder.MayHold out)
  (hd : readDialect dialect = .ok d)
  (hs : settingsFor folder host.toDirectories none host.environment = .ok s) (ht : Detector.make .builtin s = .ok t)
  (hfile : ConvertedFile.convert s.conversion (Text.unified stored) (t.analyze (Text.unified stored) d)
    (Path.normal path) = .ok file) (hchanges : file.changes = [])
include hword hpath hplace hout hd hs ht hfile hchanges

theorem run_of_announces (h : Announces host folder none false) :
    (run host folder (conversionWords path dialect out)).workspace.folder.readBytes (Path.normal out) =
      .ok (Text.encode (Text.unified stored)) ∧
    ((run host folder (conversionWords path dialect out)).code = 0 ↔ ShowsConversion host out file.warnings) := by
  obtain ⟨debug, hrun⟩ := run_conversionWords host dialect hword hplace hout
  obtain ⟨w, hw, rfl⟩ := (leaves_announceSettings host none false { folder := folder }).ok h
  have hnormal : w.folder.place (Path.normal path) = .file (Text.encode stored) := by
    rw [Folder.place_normal hpath, Folder.destination_of_place_eq_file hplace]
  obtain ⟨after, hwrite, hbytes⟩ := hout.exists_writeText (Text.unified stored)
  rw [← (Detector.make_eq_ok ht).2] at hfile
  have hleaves := Convert.leaves_run (q := ⟨Path.normal path, dialect, none, some (Path.normal out), false⟩)
    (c := contextOf host w.folder) rfl rfl rfl hd hnormal hs ht hfile hchanges hwrite
  obtain ⟨hafter, hcode⟩ := Exit.ofResult_of_leaves host debug w hleaves
  rw [hrun, Step.run_bind_of_ok hw, hafter]
  exact ⟨hbytes, hcode⟩

end

/-! ### A file of one line -/

/-- A folder with one file of source code, which ends as given. -/
def lineFolder (ending : String) : Folder := { files := [("a.ts", Text.encode ("const a = 1;" ++ ending))] }

/-- The line is all there is, however it ends. -/
theorem lineFolder_spec : ∀ ending ∈ ["\n", "\r\n"],
    (lineFolder ending).place "a.ts" = .file (Text.encode ("const a = 1;" ++ ending)) ∧
    (lineFolder ending).destination "out.ts" = .missing ∧
    Settings.location? (lineFolder ending) "/work" "/home" none = none ∧
    Text.unified ("const a = 1;" ++ ending) = "const a = 1;\n" := by
  decide +kernel

theorem exists_unchanged_line : ∃ t file, Detector.make .builtin {} = .ok t ∧
    ConvertedFile.convert {} "const a = 1;\n" (t.analyze "const a = 1;\n" .nodeRedis) "a.ts" = .ok file ∧
    file.changes = [] ∧ file.warnings = [] := by
  obtain ⟨t, hmake, hnone⟩ := @Detector.exists_unfound "const a = 1;\n" (by decide +kernel)
  refine ⟨t, _, hmake, ConvertedFile.convert_of_findings_eq_nil hnone {} _ _, ?_⟩
  have hcalled : Rename.NoneCalled .nodeRedis "const a = 1;\n" := by
    rw [Rename.NoneCalled]
    decide +kernel
  rw [Detector.dialect_analyze]
  dsimp only
  rw [Rename.apply_changes_iff_noneCalled.mpr hcalled]
  exact ⟨rfl, rfl⟩

section
variable {ending : String} (h : ending ∈ ["\n", "\r\n"])
include h

theorem load_lineFolder :
    Settings.load (lineFolder ending) bareHost.toDirectories none bareHost.environment = .ok {} := by
  obtain ⟨-, -, hnone, -⟩ := lineFolder_spec ending h
  rw [Settings.load_of_noFile ⟨"/home", rfl, hnone⟩]
  exact Settings.compose_nil_of_silent (List.forall_mem_nil _)

theorem settingsFor_lineFolder :
    settingsFor (lineFolder ending) bareHost.toDirectories none bareHost.environment = .ok {} := by
  rw [settingsFor, load_lineFolder h]

theorem announces_lineFolder : Announces bareHost (lineFolder ending) none false := by
  intro r hr
  rw [load_lineFolder h] at hr
  cases hr

theorem mayHold_lineFolder : (lineFolder ending).MayHold "out.ts" := by
  obtain ⟨-, hmissing, -⟩ := lineFolder_spec ending h
  refine ⟨[], "out.ts", rfl, rfl, ?_⟩
  rw [hmissing]
  nofun

end

theorem readDialect_nodeRedis : readDialect "node-redis" = .ok .nodeRedis :=
  toOption_eq_some_iff.mp (by decide +kernel)

end ClientMigration.CommandLine
