import Phrasebook.Proofs.Files.Writing

/-!
# Reading text under paths

A path cannot be read as text for one of three reasons: it names nothing, it names a directory, or
it names a file that is not UTF-8 (`readText?_eq_none_iff`). What can be read is read again as long
as no file is written (`Writes.readText?`).
-/

set_option autoImplicit false

namespace Phrasebook.FileSystem

variable {fs fs' : FileSystem} {p : Path} {t : Text}

/-- Why no text can be read under a path. -/
inductive Unreadable (fs : FileSystem) (p : Path) : Prop where
  /-- The path names nothing. -/
  | missing (h : fs.nodeAt? p = none)
  /-- The path names a directory. -/
  | directory (h : fs.nodeAt? p = some .directory)
  /-- The path names a file, whose content is not UTF-8. -/
  | malformed {content : Bytes} (h : fs.nodeAt? p = some (.file content))
      (hcontent : Text.decode? content = none)

theorem nodeAt?_eq_some_iff {n : Node} :
    fs.nodeAt? p = some n ↔ ∃ l, fs.locate? p = some l ∧ fs.node? l = some n := by
  rw [nodeAt?]
  cases fs.locate? p <;> simp

theorem readBytes?_eq_some_iff {content : Bytes} :
    fs.readBytes? p = some content ↔ fs.nodeAt? p = some (.file content) := by
  rw [readBytes?]
  split
  case h_1 c h => simp [h]
  case h_2 h => simpa using h content

theorem readText?_eq_some_iff :
    fs.readText? p = some t ↔
      ∃ content, fs.nodeAt? p = some (.file content) ∧ Text.decode? content = some t := by
  rw [readText?]
  cases hread : fs.readBytes? p with
  | none => simp [← readBytes?_eq_some_iff, hread]
  | some content => simp [← readBytes?_eq_some_iff, hread]

theorem readText?_eq_none_iff : fs.readText? p = none ↔ fs.Unreadable p := by
  constructor
  · intro h
    cases hnode : fs.nodeAt? p with
    | none => exact .missing hnode
    | some n =>
        cases n with
        | directory => exact .directory hnode
        | file content =>
            rw [Option.eq_none_iff_forall_ne_some] at h
            refine .malformed hnode (Option.eq_none_iff_forall_ne_some.2 fun t ht => ?_)
            exact h t (readText?_eq_some_iff.2 ⟨content, hnode, ht⟩)
  · intro h
    rw [Option.eq_none_iff_forall_ne_some]
    intro t ht
    obtain ⟨content, hnode, hdecode⟩ := readText?_eq_some_iff.1 ht
    cases h with
    | missing hmissing => simp [hmissing] at hnode
    | directory hdir => simp [hdir] at hnode
    | malformed hfile hbad =>
        rw [hfile] at hnode
        cases hnode
        simp [hbad] at hdecode

theorem pathExists_of_readText? (h : fs.readText? p = some t) : fs.pathExists p = true := by
  obtain ⟨content, hnode, -⟩ := readText?_eq_some_iff.1 h
  rw [pathExists, hnode]
  rfl

theorem pathExists_of_readBytes? {content : Bytes} (h : fs.readBytes? p = some content) :
    fs.pathExists p = true := by
  rw [pathExists, readBytes?_eq_some_iff.1 h]
  rfl

/-- What names a file still names it, with the same content, if no file was written. -/
theorem Writes.readText? (h : Writes fs fs' []) (ht : fs.readText? p = some t) :
    fs'.readText? p = some t := by
  obtain ⟨content, hnode, hdecode⟩ := readText?_eq_some_iff.1 ht
  obtain ⟨l, hl, hfile⟩ := nodeAt?_eq_some_iff.1 hnode
  have hkept : fs'.node? l = some (.file content) := (h.apart (by simp)).2 hfile
  exact readText?_eq_some_iff.2
    ⟨content, nodeAt?_eq_some_iff.2 ⟨l, h.grows.locate? hl, hkept⟩, hdecode⟩

end Phrasebook.FileSystem
