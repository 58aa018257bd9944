import ClientMigration.Proofs.Conversion.LineByLine
import ClientMigration.Proofs.Conversion.Unfound
import ClientMigration.Proofs.Text.Separate

/-! # Renaming

The calls that a dialect renames meet neither each other nor what is written for them. So the order of the renames plays
no part, nor do lines, and renaming puts exactly the characters inside such calls into lower case. The log of the renames
quotes each line as the renames before it left it, and made again change by change it leads to the renamed lines. -/

namespace ClientMigration
open Text (Substitution)

theorem Text.toLower_eq_newline_iff (c : Char) : c.toLower = '\n' ↔ c = '\n' := by
  unfold Char.toLower
  split
  case isTrue h =>
    constructor
    · intro heq
      have hval : c.val + 32 = 10 := congrArg Char.val heq
      have hlow : 65 ≤ c.val := h.1
      have hhigh : c.val ≤ 90 := h.2
      grind
    · rintro rfl
      exact absurd h (by decide)
  case isFalse => rfl

namespace Rename

/-! ### The calls of a dialect -/

theorem separate : ∀ d, Substitution.Separate ((forDialect d).map (·.substitution)) := by
  simp only [substitutions_spelled]
  decide

theorem replacement_eq_map_toLower : ∀ d, ∀ σ ∈ (forDialect d).map (·.substitution),
    σ.replacement = σ.target.map Char.toLower := by
  simp only [substitutions_spelled]
  decide

/-- The place is inside a call that the dialect renames. -/
def InCall (d : Dialect) (text : String) (i : Nat) : Prop :=
  Text.Covered ((forDialect d).map (·.call.toList)) text.toList i

/-- The text after some renames, one upon the other, each of the whole text. -/
def throughout (rs : List Rename) (text : String) : String :=
  rs.foldl (fun text r => Text.replace text r.call r.replacement) text

theorem toList_onLine (r : Rename) (l : String) :
    (r.onLine l).toList = Text.replaceAll r.call.toList r.replacement.toList l.toList := String.toList_ofList

theorem toList_throughout : ∀ {rs : List Rename}, (∀ r ∈ rs, r.OnOneLine) → ∀ text : String,
    (throughout rs text).toList = Substitution.run (rs.map (·.substitution)) text.toList
  | [], _, _ => rfl
  | r :: rs, h, text => by
    have hfirst : r.substitution.apply text.toList = (r.onLine text).toList := by
      rw [toList_onLine]
      exact Substitution.apply_of_ne_nil (σ := r.substitution) (h r List.mem_cons_self).1 _
    rw [List.map_cons, Substitution.run_cons, hfirst]
    exact toList_throughout (fun x hx => h x (List.mem_cons_of_mem r hx)) (r.onLine text)

theorem onLines_fst : ∀ (rs : List Rename) (ls : List String), (onLines rs ls).1 = ls.map (throughout rs)
  | [], ls => (List.map_id ls).symm
  | r :: rs, ls => by
    have hrest : (onLines (r :: rs) ls).1 = (onLines rs (ls.map r.onLine)).1 := rfl
    rw [hrest, onLines_fst rs, List.map_map]
    rfl

theorem newline_not_mem_throughout (d : Dialect) {l : String} (h : '\n' ∉ l.toList) :
    '\n' ∉ (throughout (forDialect d) l).toList := by
  rw [toList_throughout onOneLine_of_mem, ← List.count_eq_zero,
    Substitution.count_run (ConvertedFile.renames_writeOneLine d), List.count_eq_zero]
  exact h

/-- Renaming keeps the lines apart. -/
theorem lines_apply (d : Dialect) (text : String) :
    Text.lines (apply d text).1 = (onLines (forDialect d) (Text.lines text)).1 := by
  refine Text.lines_joinLines ?_ ?_
  · rw [onLines_fst]
    exact mt List.map_eq_nil_iff.mp Text.lines_ne_nil
  · rw [onLines_fst, List.forall_mem_map]
    exact fun l hl => newline_not_mem_throughout d (Text.newline_not_mem_of_mem_lines hl)

/-- What renaming makes of a text: the calls in lower case and nothing else, in whatever order and by whatever lines it
is done. -/
structure Lowers (d : Dialect) (text out : String) : Prop where
  noneCalled : NoneCalled d out
  again : apply d out = (out, [])
  length : out.length = text.length
  newlines : ∀ i : Nat, out.toList[i]? = some '\n' ↔ text.toList[i]? = some '\n'
  inCall : ∀ i, InCall d text i → out.toList[i]? = text.toList[i]?.map Char.toLower
  elsewhere : ∀ i, ¬InCall d text i → out.toList[i]? = text.toList[i]?
  inAnyOrder : ∀ rs, rs.Perm (forDialect d) → Text.joinLines (onLines rs (Text.lines text)).1 = out
  onWholeText : ∀ rs, rs.Perm (forDialect d) → throughout rs text = out

section Apply
variable (d : Dialect) (text : String)

theorem getElem?_apply (i : Nat) :
    (InCall d text i → (apply d text).1.toList[i]? = text.toList[i]?.map Char.toLower) ∧
    (¬InCall d text i → (apply d text).1.toList[i]? = text.toList[i]?) := by
  have h := (separate d).getElem?_run (replacement_eq_map_toLower d) text.toList i
  rwa [← toList_apply, List.map_map] at h

theorem length_apply : (apply d text).1.length = text.length := by
  rw [← String.length_toList, ← String.length_toList, toList_apply]
  refine Substitution.length_run (fun σ hσ => ?_) _
  rw [replacement_eq_map_toLower d σ hσ, List.length_map]

theorem newline_apply_iff (i : Nat) : (apply d text).1.toList[i]? = some '\n' ↔ text.toList[i]? = some '\n' := by
  obtain ⟨hin, hout⟩ := getElem?_apply d text i
  by_cases hcall : InCall d text i
  · rw [hin hcall, Option.map_eq_some_iff]
    simp only [Text.toLower_eq_newline_iff, exists_eq_right]
  · rw [hout hcall]

/-- Two lists of the same renames leave the same text. -/
theorem run_of_perm {rs : List Rename} (h : rs.Perm (forDialect d)) :
    Substitution.run (rs.map (·.substitution)) text.toList = (apply d text).1.toList := by
  rw [toList_apply]
  exact (separate d).run_congr (fun σ => (h.map _).mem_iff) _

theorem onOneLine_of_perm {rs : List Rename} (h : rs.Perm (forDialect d)) : ∀ r ∈ rs, r.OnOneLine :=
  fun r hr => onOneLine_of_mem r (h.mem_iff.mp hr)

end Apply

theorem lowers_apply (d : Dialect) (text : String) : Lowers d text (apply d text).1 where
  noneCalled := noneCalled_apply d text
  again := by
    have hnone := noneCalled_apply d text
    exact Prod.ext (apply_fst_eq_iff.mpr hnone) (apply_changes_iff_noneCalled.mpr hnone)
  length := length_apply d text
  newlines := newline_apply_iff d text
  inCall i := (getElem?_apply d text i).1
  elsewhere i := (getElem?_apply d text i).2
  inAnyOrder rs h := by
    have hjoin := toList_joinLines_onLines (onOneLine_of_perm d h) (Text.lines_ne_nil (s := text))
    rw [← String.toList_inj, hjoin, Text.joinLines_lines, run_of_perm d text h]
  onWholeText rs h := by
    rw [← String.toList_inj, toList_throughout (onOneLine_of_perm d h), run_of_perm d text h]

end Rename

/-! ### The log -/

/-- The lines after the change is made again: the line that it names is still as the change quotes it, and is altered. -/
def Change.replayOnLine? (ls : List String) (c : Change) : Option (List String) :=
  match c.line with
  | .ofNat (i + 1) => if ls[i]? = some c.before ∧ c.converted ≠ c.before then some (ls.set i c.converted) else none
  | _ => none

theorem Change.exists_of_replayOnLine? {c : Change} {ls ls' : List String} (h : replayOnLine? ls c = some ls') :
    ∃ i : Nat, c.line = i + 1 ∧ ls' = ls.set i c.converted := by
  rw [replayOnLine?] at h
  split at h
  case h_1 i hline =>
    obtain ⟨-, hset⟩ := Option.ite_none_right_eq_some.mp h
    exact ⟨i, hline, (Option.some.inj hset).symm⟩
  case h_2 => exact absurd h.symm (Option.some_ne_none ls')

/-- Lines that no change names are left as they are. -/
theorem Change.getElem?_replay {i : Nat} : ∀ {cs : List Change} {ls ls' : List String},
    cs.foldlM replayOnLine? ls = some ls' → (∀ c ∈ cs, c.line ≠ i + 1) → ls'[i]? = ls[i]?
  | [], _, _, h, _ => by
    rw [List.foldlM_nil] at h
    cases h
    rfl
  | c :: cs, ls, ls', h, hnot => by
    rw [List.foldlM_cons] at h
    obtain ⟨mid, hc, hcs⟩ := Option.bind_eq_some_iff.mp h
    obtain ⟨j, hline, rfl⟩ := exists_of_replayOnLine? hc
    have hne : j ≠ i := by
      rintro rfl
      exact hnot c List.mem_cons_self hline
    rw [getElem?_replay hcs fun x hx => hnot x (List.mem_cons_of_mem c hx), List.getElem?_set_ne hne]

namespace Rename

theorem onLine_ne {r : Rename} (h : ¬r.substitution.Idle) {l : String} (ho : r.call.toList <:+: l.toList) :
    r.onLine l ≠ l := by
  have hne : r.call.toList ≠ [] := Substitution.target_ne_nil h
  intro hsame
  rw [← String.toList_inj, toList_onLine] at hsame
  have hself := hsame.trans (Text.replaceAll_self hne l.toList).symm
  exact h (Or.inr ((Text.replaceAll_inj hne l.toList ho).mp hself).symm)

/-- The changes that a rename logs of some lines, from a place on, make exactly these lines into their renamed ones. -/
theorem replay_changes_from {r : Rename} (h : ¬r.substitution.Idle) : ∀ done ls : List String,
    ((ls.zipIdx done.length).filterMap fun (l, i) => r.change? l i).foldlM Change.replayOnLine? (done ++ ls) =
      some (done ++ ls.map r.onLine)
  | done, [] => rfl
  | done, l :: ls => by
    -- The lines behind are already renamed: the next one joins them, renamed or left as it is.
    have ih := replay_changes_from h (done ++ [r.onLine l]) ls
    rw [List.length_append, List.length_singleton, List.append_assoc, List.append_assoc, List.singleton_append,
      List.singleton_append] at ih
    rw [List.zipIdx_cons, List.map_cons]
    by_cases ho : r.call.toList <:+: l.toList
    · have hchange : r.change? l done.length = some ⟨.rename, Int.ofNat done.length + 1, l, r.onLine l, reason⟩ :=
        if_pos (Text.contains_iff.mpr ho)
      have hstep : Change.replayOnLine? (done ++ l :: ls) ⟨.rename, Int.ofNat done.length + 1, l, r.onLine l, reason⟩ =
          some (done ++ r.onLine l :: ls) := by
        have hquoted : (done ++ l :: ls)[done.length]? = some l := by simp
        have hset : (done ++ l :: ls).set done.length (r.onLine l) = done ++ r.onLine l :: ls := by simp
        exact (if_pos ⟨hquoted, onLine_ne h ho⟩).trans (congrArg some hset)
      simp only [List.filterMap_cons, hchange, List.foldlM_cons, hstep]
      exact ih
    · have hchange : r.change? l done.length = none := if_neg (mt Text.contains_iff.mp ho)
      rw [onLine_of_not_called (Substitution.target_ne_nil h) ho] at ih ⊢
      simp only [List.filterMap_cons, hchange]
      exact ih

theorem replay_changes {r : Rename} (h : ¬r.substitution.Idle) (ls : List String) :
    (r.changes ls).foldlM Change.replayOnLine? ls = some (ls.map r.onLine) := replay_changes_from h [] ls

/-- Each rename logs the lines as the renames before it left them, so the logs replay one after the other. -/
theorem replay_onLines : ∀ {rs : List Rename}, (∀ r ∈ rs, ¬r.substitution.Idle) → ∀ ls : List String,
    (onLines rs ls).2.foldlM Change.replayOnLine? ls = some (onLines rs ls).1
  | [], _, _ => rfl
  | r :: rs, h, ls => by
    have hlog : (onLines (r :: rs) ls).2 = r.changes ls ++ (onLines rs (ls.map r.onLine)).2 := rfl
    rw [hlog, List.foldlM_append, replay_changes (h r List.mem_cons_self)]
    exact replay_onLines (fun x hx => h x (List.mem_cons_of_mem r hx)) (ls.map r.onLine)

theorem log_replays (d : Dialect) (text : String) :
    (apply d text).2.foldlM Change.replayOnLine? (Text.lines text) = some (Text.lines (apply d text).1) ∧
    ∀ i : Nat, (∀ c ∈ (apply d text).2, c.line ≠ i + 1) →
      (Text.lines (apply d text).1)[i]? = (Text.lines text)[i]? := by
  have hreplay : (apply d text).2.foldlM Change.replayOnLine? (Text.lines text) = some (Text.lines (apply d text).1) := by
    rw [lines_apply]
    refine replay_onLines (fun r hr => ?_) (Text.lines text)
    exact (Catalog.interference.rename_makesNo d r.substitution (List.mem_map_of_mem hr)).1
  exact ⟨hreplay, fun i => Change.getElem?_replay hreplay⟩

end Rename

end ClientMigration
