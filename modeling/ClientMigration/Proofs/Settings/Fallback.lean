import ClientMigration.CommandLine.Run
import ClientMigration.Proofs.Settings.Reading

/-! # Settings of a run whose file is of no use

Where settings cannot be loaded, a run takes what the environment alone supplies, setting by setting. These are the
defaults if no variable is about settings. Otherwise they need not be, and where it is the environment that is at
fault there are none at all. -/

namespace ClientMigration.Settings

/-! ### Environments that are not about settings -/

/-- The name of a variable that is about settings, in lower case. -/
def AboutSettings (name : String) : Prop := variableStem.toList <+: name.toList

instance (name : String) : Decidable (AboutSettings name) :=
  inferInstanceAs (Decidable (variableStem.toList <+: name.toList))

/-- No variable of the environment is about settings. -/
def Silent (env : Environment) : Prop := ∀ kv ∈ env, ¬ AboutSettings (Text.lower kv.1)

instance (env : Environment) : Decidable (Silent env) :=
  inferInstanceAs (Decidable (∀ kv ∈ env, ¬ AboutSettings (Text.lower kv.1)))

theorem aboutSettings_append (rest : String) : AboutSettings (variableStem ++ rest) := by
  rw [AboutSettings, String.toList_append]
  exact List.prefix_append _ _

theorem forall_mem_lowerNames {P : String → Prop} {env : Environment} (h : ∀ kv ∈ env, P (Text.lower kv.1)) :
    ∀ kv ∈ lowerNames env, P kv.1 := by
  unfold lowerNames
  refine List.foldlRecOn (motive := fun acc : Environment => ∀ kv ∈ acc, P kv.1) env _ (by simp) ?_
  intro acc hacc kv hkv old hold
  dsimp only at hold
  split at hold
  · obtain ⟨x, hx, rfl⟩ := List.mem_map.mp hold
    split
    · exact h kv hkv
    · exact hacc x hx
  · rcases List.mem_append.mp hold with hin | hnew
    · exact hacc old hin
    · obtain rfl := List.mem_singleton.mp hnew
      exact h kv hkv

section Silent
variable {env : Environment} (henv : ∀ kv ∈ env, ¬ AboutSettings kv.1)
include henv

theorem lookup_eq_none (name : String) : env.lookup (variableStem ++ name) = none := by
  rw [List.lookup_eq_none_iff]
  intro kv hkv
  have hne : variableStem ++ name ≠ kv.1 := fun heq => henv kv hkv (heq ▸ aboutSettings_append name)
  simpa using hne

theorem singles_eq_nil (name : String) : singles env name = [] := by
  unfold singles
  refine List.foldlRecOn (motive := fun acc : List (String × Value) => acc = []) env _ rfl ?_
  rintro acc rfl kv hkv
  rw [if_neg]
  intro hprefix
  rw [List.isPrefixOf_iff_prefix, String.toList_append, String.toList_append, List.append_assoc] at hprefix
  exact henv kv hkv ((List.prefix_append _ _).trans hprefix)

theorem sectionFrom_eq_none (name : String) (names : List String) : sectionFrom env name names = .ok none := by
  simp [sectionFrom, lookup_eq_none henv, singles_eq_nil henv]

end Silent

theorem fromEnvironment_of_silent {env : Environment} (h : Silent env) : fromEnvironment env = .ok [] := by
  have henv : ∀ kv ∈ lowerNames env, ¬ AboutSettings kv.1 := forall_mem_lowerNames (P := (¬ AboutSettings ·)) h
  simp only [fromEnvironment, lookup_eq_none henv, sectionFrom_eq_none henv]
  rfl

/-! ### The environment alone -/

theorem compose_nil (env : Environment) : compose [] env =
    match fromEnvironment env with
    | .error name => .error (.envSection name)
    | .ok document => (read document).mapError .objections := rfl

theorem compose_nil_eq_ok_iff {env : Environment} {s : Settings} :
    compose [] env = .ok s ↔ ∃ document, fromEnvironment env = .ok document ∧ ReadsAs document s := by
  rw [compose_nil]
  cases fromEnvironment env with
  | error name => simp
  | ok document =>
    simp only [Except.ok.injEq, exists_eq_left', ← read_eq_ok_iff]
    cases read document with
    | error os => exact iff_of_false nofun nofun
    | ok t =>
      show (.ok t : Except Refusal Settings) = .ok s ↔ _
      simp

theorem compose_nil_of_silent {env : Environment} (h : Silent env) : compose [] env = .ok {} := by
  rw [compose_nil, fromEnvironment_of_silent h]
  rfl

/-- None of the places of settings files has one. -/
def NoFile (folder : Folder) (at_ : Directories) (asked : Option String) (env : Environment) : Prop :=
  ∃ home, home? at_.accountHome env = some home ∧ location? folder at_.working home (asked.map Path.normal) = none

theorem load_of_noFile {folder : Folder} {at_ : Directories} {asked : Option String} {env : Environment}
    (h : NoFile folder at_ asked env) : load folder at_ asked env = compose [] env := by
  obtain ⟨home, hhome, hnone⟩ := h
  rw [load, hhome]
  dsimp only
  rw [hnone]
  rfl

end ClientMigration.Settings

namespace ClientMigration.CommandLine
open Settings

theorem settingsFor_of_error {folder : Folder} {at_ : Directories} {asked : Option String} {env : Environment}
    {r : Refusal} (h : load folder at_ asked env = .error r) : settingsFor folder at_ asked env = compose [] env := by
  rw [settingsFor, h]

/-- A working directory and the home directory of an account. -/
def workAndHome : Directories := ⟨"/work", some "/home"⟩

/-- A folder with a settings file that breaks off. -/
def brokenFile (path : String) : Folder := { files := [(path, [0x5b])] }

end ClientMigration.CommandLine
