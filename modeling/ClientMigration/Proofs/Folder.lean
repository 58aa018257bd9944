import ClientMigration.Folder
import ClientMigration.Proofs.Text.Lines

/-! # What is stored is found

A path in its normal form leads where the path led, and bytes that are stored under a path are found under it. Both rest
on the steps of a path: joined, they make a path of just these steps, so different places have different names. -/

namespace ClientMigration

/-! ### Steps of a path -/

namespace Path

/-- A part that stands for a step. -/
def IsStep (p : String) : Prop := p ≠ "" ∧ p ≠ "." ∧ '/' ∉ p.toList

theorem split_eq_splitOn (cs : List Char) : split cs = cs.splitOn '/' := Text.eq_splitOn rfl (fun _ _ => rfl) cs

theorem isStep_of_mem_parts {path p : String} (h : p ∈ parts path) : IsStep p := by
  obtain ⟨hp, hkept⟩ := List.mem_filter.mp h
  obtain ⟨cs, hcs, rfl⟩ := List.mem_map.mp hp
  rw [Bool.and_eq_true, bne_iff_ne, bne_iff_ne] at hkept
  rw [split_eq_splitOn] at hcs
  exact ⟨hkept.1, hkept.2, String.toList_ofList ▸ Text.not_mem_of_mem_splitOn hcs⟩

theorem parts_joined {ps : List String} (h : ∀ p ∈ ps, IsStep p) : parts (String.intercalate "/" ps) = ps := by
  cases ps with
  | nil => rfl
  | cons p rest =>
    have hsplit : split (String.intercalate "/" (p :: rest)).toList = (p :: rest).map (·.toList) := by
      rw [split_eq_splitOn, String.toList_intercalate]
      refine List.splitOn_intercalate '/' ?_ (List.cons_ne_nil _ _)
      intro cs hcs
      obtain ⟨q, hq, rfl⟩ := List.mem_map.mp hcs
      exact (h q hq).2.2
    have hparts : ((p :: rest).map (·.toList)).map String.ofList = p :: rest := by
      rw [List.map_map]
      exact (List.map_congr_left fun q _ => String.ofList_toList).trans (List.map_id _)
    rw [parts, hsplit, hparts, List.filter_eq_self]
    intro q hq
    rw [Bool.and_eq_true, bne_iff_ne, bne_iff_ne]
    exact ⟨(h q hq).1, (h q hq).2.1⟩

/-- A slash in front adds no step. -/
theorem parts_slash (path : String) : parts ("/" ++ path) = parts path := by
  rw [parts, String.toList_append]
  rfl

theorem parts_ofParts (absolute : Bool) {ps : List String} (h : ∀ p ∈ ps, IsStep p) :
    parts (ofParts absolute ps) = ps := by
  rw [ofParts]
  cases absolute with
  | true => exact (parts_slash _).trans (parts_joined h)
  | false =>
    cases ps with
    | nil => rfl
    | cons p ps => exact parts_joined h

theorem ofParts_inj {absolute : Bool} {ps qs : List String} (hps : ∀ p ∈ ps, IsStep p) (hqs : ∀ q ∈ qs, IsStep q)
    (h : ofParts absolute ps = ofParts absolute qs) : ps = qs := by
  rw [← parts_ofParts absolute hps, h, parts_ofParts absolute hqs]

theorem isStep_enter {ps : List String} {p : String} (hps : ∀ q ∈ ps, IsStep q) (hp : IsStep p) :
    ∀ q ∈ enter ps p, IsStep q := by
  intro q hq
  rw [enter] at hq
  split at hq
  · exact hps q (List.dropLast_subset _ hq)
  · rcases List.mem_append.mp hq with hq | hq
    · exact hps q hq
    · exact List.mem_singleton.mp hq ▸ hp

theorem isStep_foldl_enter {rest : List String} (hrest : ∀ q ∈ rest, IsStep q) :
    ∀ {ps : List String}, (∀ q ∈ ps, IsStep q) → ∀ q ∈ rest.foldl enter ps, IsStep q := by
  induction rest with
  | nil => exact fun hps => hps
  | cons p rest ih =>
    rw [List.forall_mem_cons] at hrest
    exact fun hps => ih hrest.2 (isStep_enter hps hrest.1)

/-! ### Normal forms -/

theorem head?_joined {p : String} (hp : p ≠ "") (ps : List String) :
    (String.intercalate "/" (p :: ps)).toList.head? = p.toList.head? := by
  cases ps with
  | nil => rw [String.intercalate_singleton]
  | cons q ps =>
    rw [String.intercalate_cons_cons, String.append_assoc, String.toList_append, List.head?_append]
    cases hcs : p.toList with
    | nil => exact absurd (String.toList_eq_nil_iff.mp hcs) hp
    | cons c cs => rfl

/-- A path of some steps ends with a character of the last. -/
theorem getLast?_joined : ∀ {ps : List String}, ps ≠ [] → (∀ p ∈ ps, IsStep p) →
    ∃ c, (String.intercalate "/" ps).toList.getLast? = some c ∧ c ≠ '/'
  | [p], _, h => by
    obtain ⟨hne, -, hslash⟩ := h p List.mem_cons_self
    have hchars : p.toList ≠ [] := mt String.toList_eq_nil_iff.mp hne
    rw [String.intercalate_singleton]
    refine ⟨_, List.getLast?_eq_some_getLast hchars, ?_⟩
    rintro hlast
    exact hslash (hlast ▸ List.getLast_mem hchars)
  | p :: q :: ps, _, h => by
    obtain ⟨c, hc, hslash⟩ := getLast?_joined (List.cons_ne_nil q ps) fun x hx => h x (List.mem_cons_of_mem p hx)
    refine ⟨c, ?_, hslash⟩
    rw [String.intercalate_cons_cons, String.toList_append, List.getLast?_append, hc, Option.some_or]

theorem isAbsolute_ofParts (absolute : Bool) {ps : List String} (h : ∀ p ∈ ps, IsStep p) :
    isAbsolute (ofParts absolute ps) = absolute := by
  rw [isAbsolute, ofParts]
  cases absolute with
  | true =>
    rw [if_pos rfl, String.toList_append]
    rfl
  | false =>
    cases ps with
    | nil => rfl
    | cons p ps =>
      obtain ⟨hne, -, hslash⟩ := h p List.mem_cons_self
      rw [if_neg Bool.false_ne_true, if_neg (by simp), head?_joined hne]
      cases hp : p.toList with
      | nil => rfl
      | cons c cs =>
        rw [hp, List.mem_cons, not_or] at hslash
        simp [Ne.symm hslash.1]

theorem isAbsolute_of_hasOtherRoot {path : String} (h : hasOtherRoot path = true) : isAbsolute path = true := by
  rw [hasOtherRoot] at h
  rw [isAbsolute]
  cases hcs : path.toList with
  | nil =>
    rw [hcs] at h
    cases h
  | cons c cs =>
    by_cases hc : c = '/'
    · simp [hc]
    · rw [hcs, List.takeWhile_cons_of_neg (by simpa using hc)] at h
      cases h

theorem normal_eq (path : String) : normal path = ofParts (isAbsolute path) (parts path) ∨
    normal path = "/" ++ ofParts (isAbsolute path) (parts path) ∧ isAbsolute path = true := by
  rw [normal]
  split
  · rename_i hroot
    exact Or.inr ⟨rfl, isAbsolute_of_hasOtherRoot hroot⟩
  · exact Or.inl String.empty_append

theorem isStep_parts (path : String) : ∀ p ∈ parts path, IsStep p := fun _ => isStep_of_mem_parts

theorem parts_normal (path : String) : parts (normal path) = parts path := by
  have hparts := parts_ofParts (isAbsolute path) (isStep_parts path)
  rcases normal_eq path with heq | ⟨heq, -⟩
  · rw [heq, hparts]
  · rw [heq, parts_slash, hparts]

theorem isAbsolute_normal (path : String) : isAbsolute (normal path) = isAbsolute path := by
  rcases normal_eq path with heq | ⟨heq, habsolute⟩
  · rw [heq, isAbsolute_ofParts _ (isStep_parts path)]
  · rw [heq, habsolute, isAbsolute, String.toList_append]
    rfl

/-- Only where there is no step does a normal form end with a slash. -/
theorem getLast?_normal {path : String} (hne : parts path ≠ []) :
    ∃ c, (normal path).toList.getLast? = some c ∧ c ≠ '/' := by
  obtain ⟨c, hc, hslash⟩ := getLast?_joined hne (isStep_parts path)
  refine ⟨c, ?_, hslash⟩
  have hofParts : (ofParts (isAbsolute path) (parts path)).toList.getLast? = some c := by
    rw [ofParts]
    split
    · rw [String.toList_append, List.getLast?_append, hc, Option.some_or]
    · rwa [if_neg (mt List.isEmpty_iff.mp hne)]
  rcases normal_eq path with heq | ⟨heq, -⟩
  · rw [heq, hofParts]
  · rw [heq, String.toList_append, List.getLast?_append, hofParts, Option.some_or]

end Path

/-! ### Where a path leads -/

namespace Folder
variable {folder : Folder} {absolute : Bool} {path : String} {bytes : Text.Bytes}

/-- Where the steps of a path lead. -/
def destination (folder : Folder) (path : String) : Place :=
  folder.walk (Path.isAbsolute path) [] (Path.parts path)

theorem place_of_getLast? {c : Char} (h : path.toList.getLast? = some c) (hslash : c ≠ '/') :
    folder.place path = folder.destination path := by
  have hne : ¬path.isEmpty = true := by
    intro hempty
    rw [String.isEmpty_iff.mp hempty] at h
    cases h
  rw [place, if_neg hne, h, destination]
  cases folder.walk (Path.isAbsolute path) [] (Path.parts path) <;> simp [hslash]

theorem destination_of_place_eq_file (h : folder.place path = .file bytes) : folder.destination path = .file bytes := by
  rw [place] at h
  rw [destination]
  split at h
  · cases h
  · split at h
    · split at h
      · cases h
      · simp_all
    · exact h

theorem destination_of_place_eq_directory (h : folder.place path = .directory) :
    folder.destination path = .directory := by
  rw [place] at h
  rw [destination]
  split at h
  · cases h
  · split at h
    · split at h <;> cases h
    · exact h

theorem destination_normal (folder : Folder) (path : String) :
    folder.destination (Path.normal path) = folder.destination path := by
  rw [destination, destination, Path.isAbsolute_normal, Path.parts_normal]

theorem place_normal (hne : Path.parts path ≠ []) : folder.place (Path.normal path) = folder.destination path := by
  obtain ⟨c, hc, hslash⟩ := Path.getLast?_normal hne
  rw [place_of_getLast? hc hslash, destination_normal]

theorem walk_concat {at_ front : List String} {p : String} : folder.walk absolute at_ (front ++ [p]) =
    match folder.walk absolute at_ front with
    | .directory => folder.find absolute (Path.enter (front.foldl Path.enter at_) p)
    | .file _ => .insideFile
    | other => other := by
  induction front generalizing at_ with
  | nil =>
    rw [List.nil_append, walk, walk, List.foldl_nil]
    cases folder.find absolute at_ <;> rfl
  | cons q front ih =>
    rw [List.cons_append, walk, walk, List.foldl_cons]
    cases folder.find absolute at_ with
    | directory => exact ih
    | _ => rfl

/-! ### Storing -/

theorem lookup_put_self (name : String) (bytes : Text.Bytes) : ∀ files : List (String × Text.Bytes),
    (put name bytes files).lookup name = some bytes
  | [] => List.lookup_cons_self
  | file :: files => by
    rw [put]
    split
    · exact List.lookup_cons_self
    · rename_i hname
      rw [List.lookup_cons, beq_false_of_ne (Ne.symm hname)]
      exact lookup_put_self name bytes files

theorem lookup_put_of_ne {name other : String} (h : other ≠ name) : ∀ files : List (String × Text.Bytes),
    (put name bytes files).lookup other = files.lookup other
  | [] => by
    rw [put, List.lookup_cons, beq_false_of_ne h]
  | file :: files => by
    rw [put]
    split
    · rename_i hname
      rw [List.lookup_cons, List.lookup_cons, hname, beq_false_of_ne h]
    · rw [List.lookup_cons, List.lookup_cons, lookup_put_of_ne h files]

theorem any_put (p : String → Bool) {name : String} : ∀ {files : List (String × Text.Bytes)},
    files.any (fun file => p file.1) = true → (put name bytes files).any (fun file => p file.1) = true
  | file :: files, h => by
    rw [put]
    rw [List.any_cons, Bool.or_eq_true] at h
    split
    · rename_i hname
      rw [hname] at h
      rwa [List.any_cons, Bool.or_eq_true]
    · rw [List.any_cons, Bool.or_eq_true]
      exact h.imp_right (any_put p)

theorem find_eq_directory_iff {ps : List String} : folder.find absolute ps = .directory ↔
    folder.files.lookup (Path.ofParts absolute ps) = none ∧
      ((ps.all (· == "..") || folder.directories.contains (Path.ofParts absolute ps)) = true ∨
        folder.isParent (Path.ofParts absolute ps) = true) := by
  rw [find]
  cases folder.files.lookup (Path.ofParts absolute ps) with
  | some _ => simp
  | none =>
    rw [← Bool.or_eq_true]
    simp only [ite_eq_left_iff, reduceCtorEq, imp_false, Decidable.not_not, true_and]

theorem find_ne_insideFile {ps : List String} : folder.find absolute ps ≠ .insideFile := by
  rw [find]
  cases folder.files.lookup (Path.ofParts absolute ps) with
  | some bytes => nofun
  | none =>
    dsimp only
    split <;> nofun

theorem find_store_target (folder : Folder) (path : String) (bytes : Text.Bytes) :
    (folder.store path bytes).find (Path.isAbsolute path) (target path) = .file bytes := by
  simp only [find, store, lookup_put_self]

/-- A directory with another name than the stored file is one still. -/
theorem find_store_of_ne {ps : List String} (h : folder.find absolute ps = .directory)
    (hne : Path.ofParts absolute ps ≠ Path.ofParts (Path.isAbsolute path) (target path)) :
    (folder.store path bytes).find absolute ps = .directory := by
  rw [find_eq_directory_iff] at h ⊢
  exact ⟨(lookup_put_of_ne hne _).trans h.1, h.2.imp_right (any_put fun name => List.isPrefixOf _ name.toList)⟩

theorem isStep_target (path : String) : ∀ p ∈ target path, Path.IsStep p :=
  Path.isStep_foldl_enter (Path.isStep_parts path) (List.forall_mem_nil _)

/-- A way to a directory is one still, unless the stored file took the place of a directory. -/
theorem walk_store (bytes : Text.Bytes) (htarget : folder.find (Path.isAbsolute path) (target path) ≠ .directory) :
    ∀ {ps at_ : List String}, (∀ p ∈ ps, Path.IsStep p) → (∀ p ∈ at_, Path.IsStep p) →
    folder.walk (Path.isAbsolute path) at_ ps = .directory →
    (folder.store path bytes).walk (Path.isAbsolute path) at_ ps = .directory := by
  have hkept : ∀ {ps : List String}, (∀ p ∈ ps, Path.IsStep p) → folder.find (Path.isAbsolute path) ps = .directory →
      (folder.store path bytes).find (Path.isAbsolute path) ps = .directory := by
    intro ps hps hdirectory
    refine find_store_of_ne hdirectory fun hname => htarget ?_
    rwa [← Path.ofParts_inj hps (isStep_target path) hname]
  intro ps
  induction ps with
  | nil => exact fun _ hat h => hkept hat h
  | cons p ps ih =>
    intro at_ hps hat h
    rw [List.forall_mem_cons] at hps
    rw [walk] at h ⊢
    cases hfind : folder.find (Path.isAbsolute path) at_ with
    | directory =>
      rw [hfind] at h
      rw [hkept hat hfind]
      exact ih hps.2 (Path.isStep_enter hat hps.1) h
    | _ =>
      rw [hfind] at h
      cases h

/-- The last step of the path is made in a directory, and leads to no directory. -/
def MayHold (folder : Folder) (path : String) : Prop :=
  ∃ front p, Path.parts path = front ++ [p] ∧ folder.walk (Path.isAbsolute path) [] front = .directory ∧
    folder.destination path ≠ .directory

theorem target_eq {front : List String} {p : String} (h : Path.parts path = front ++ [p]) :
    target path = Path.enter (front.foldl Path.enter []) p := by
  rw [target, h, List.foldl_append]
  rfl

namespace MayHold

theorem parts_ne_nil (h : folder.MayHold path) : Path.parts path ≠ [] := by
  obtain ⟨front, p, hparts, -, -⟩ := h
  rw [hparts]
  exact List.append_ne_nil_of_right_ne_nil _ (List.cons_ne_nil _ _)

theorem normal (h : folder.MayHold path) : folder.MayHold (Path.normal path) := by
  rwa [MayHold, Path.parts_normal, Path.isAbsolute_normal, destination_normal]

theorem destination_eq (h : folder.MayHold path) :
    folder.destination path = folder.find (Path.isAbsolute path) (target path) := by
  obtain ⟨front, p, hparts, hfront, -⟩ := h
  rw [destination, hparts, walk_concat, hfront, target_eq hparts]

/-- What is stored under a path that may hold a file is found there. -/
theorem destination_store (h : folder.MayHold path) (bytes : Text.Bytes) :
    (folder.store path bytes).destination path = .file bytes := by
  have htarget := h.destination_eq
  obtain ⟨front, p, hparts, hfront, hother⟩ := h
  have hsteps := Path.isStep_parts path
  rw [hparts] at hsteps
  rw [htarget] at hother
  have hwalk := walk_store bytes hother (fun q hq => hsteps q (List.mem_append_left _ hq))
    (List.forall_mem_nil _) hfront
  rw [destination, hparts, walk_concat, hwalk]
  dsimp only
  rw [← target_eq hparts, find_store_target]

/-- A text can be written to a path that may hold a file, and its bytes are found there. -/
theorem exists_writeText (h : folder.MayHold path) (text : String) :
    ∃ after, folder.writeText (Path.normal path) text = .ok after ∧
      after.readBytes (Path.normal path) = .ok (Text.encode text) := by
  refine ⟨folder.store (Path.normal path) (Text.encode text), ?_, ?_⟩
  · rw [writeText, place_normal h.parts_ne_nil, h.destination_eq]
    cases hfind : folder.find (Path.isAbsolute path) (target path) with
    | file old => rfl
    | missing =>
      obtain ⟨front, p, hparts, hfront, -⟩ := h
      rw [Path.parts_normal, Path.isAbsolute_normal, hparts, List.dropLast_concat, hfront]
    | directory =>
      obtain ⟨front, p, -, -, hother⟩ := id h
      exact absurd (h.destination_eq.trans hfind) hother
    | insideFile => exact absurd hfind find_ne_insideFile
  · rw [readBytes, place_normal h.parts_ne_nil, ← destination_normal, h.normal.destination_store]

end MayHold

end Folder

end ClientMigration
