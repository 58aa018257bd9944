import ClientMigration.CommandLine.Workspace
import ClientMigration.Proofs.CommandLine.Accounting
import ClientMigration.Proofs.Supplied.Failure
import ClientMigration.Supplied.File

/-! # Loading supplied files

A file of supplied data is decoded, read as a document and looked at for an object. What goes wrong in the last two
steps is a fault of the input, as far as documents are refused for their form. What goes wrong in the first is not: bytes
that encode no text leave the reader as such, although the reader of source files reports them. -/

namespace ClientMigration

theorem Folder.readText_of_undecodable {folder : Folder} {path : String} {bytes : Text.Bytes} {e : Text.DecodeError}
    (hplace : folder.place path = .file bytes) (he : Text.decode bytes = .error e) :
    folder.readText path = .error (.undecodable e) := by
  rw [readText, readBytes, hplace]
  show ((Text.decode bytes).mapError ReadFault.undecodable >>= _) = _
  rw [he]
  rfl

/-- The document has a value, or is refused for its form. -/
def Yaml.Parses (text : String) : Prop := ∀ t, Yaml.read text = .error t → t = .malformed

namespace Supplied

/-- An object or null was read, or a fault of the input is reported. -/
def Answers : Except Failure Value → Prop
  | .ok v => v = .null ∨ v.fields?.isSome = true
  | .error f => f.IsInput

section
variable {flaw : String → String} {folder : Folder} {path : String} {bytes : Text.Bytes}

theorem readObject_of_undecodable {e : Text.DecodeError} (hplace : folder.place (Path.normal path) = .file bytes)
    (he : Text.decode bytes = .error e) : readObject flaw folder path = .error (.undecodable e) := by
  simp only [readObject, Folder.readText_of_undecodable hplace he]

theorem not_isInput_undecodable (e : Text.DecodeError) : ¬(Failure.undecodable e).IsInput := by
  rintro ⟨f, hf, -⟩
  cases hf

variable {stored : String} (hplace : folder.place (Path.normal path) = .file (Text.encode stored))
include hplace

theorem readObject_of_value {v : Value} (hv : Yaml.read (Text.unified stored) = .ok v) : readObject flaw folder path =
    if v.isNull || v.fields?.isSome then .ok v else .error (.fault (.documentNotAnObject (Path.normal path))) := by
  simp only [readObject, Folder.readText_of_encode hplace, hv]

theorem readObject_of_malformed (h : Yaml.read (Text.unified stored) = .error .malformed) :
    readObject flaw folder path = .error (.fault (.notADocument (Path.normal path) (flaw (Text.unified stored)))) := by
  simp only [readObject, Folder.readText_of_encode hplace, h]

theorem readObject_of_trouble {t : Yaml.Trouble} (h : Yaml.read (Text.unified stored) = .error t)
    (ht : t ≠ .malformed) : readObject flaw folder path = .error (.document t) := by
  simp only [readObject, Folder.readText_of_encode hplace, h]

theorem readObject_ne_undecodable (e : Text.DecodeError) : readObject flaw folder path ≠ .error (.undecodable e) := by
  cases hread : Yaml.read (Text.unified stored) with
  | ok v =>
    rw [readObject_of_value hplace hread]
    split <;> nofun
  | error t =>
    by_cases ht : t = .malformed
    · rw [readObject_of_malformed hplace (ht ▸ hread)]
      nofun
    · rw [readObject_of_trouble hplace hread ht]
      nofun

theorem answers_iff_parses : Answers (readObject flaw folder path) ↔ Yaml.Parses (Text.unified stored) := by
  rw [Yaml.Parses]
  cases hread : Yaml.read (Text.unified stored) with
  | ok v =>
    refine iff_of_true ?_ nofun
    rw [readObject_of_value hplace hread]
    split
    · rename_i hv
      cases v <;> simp_all [Answers, Value.isNull]
    · exact ⟨_, rfl, rfl⟩
  | error t =>
    by_cases ht : t = .malformed
    · rw [readObject_of_malformed hplace (ht ▸ hread)]
      refine iff_of_true ⟨_, rfl, rfl⟩ ?_
      rintro t' ⟨⟩
      exact ht
    · rw [readObject_of_trouble hplace hread ht]
      refine iff_of_false ?_ fun h => ht (h t rfl)
      rintro ⟨f, hf, -⟩
      cases hf

end

/-- A folder with one file of supplied data. -/
def holding (bytes : Text.Bytes) : Folder := { files := [("d.yaml", bytes)] }

end Supplied

end ClientMigration
