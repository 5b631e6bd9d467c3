import Phrasebook.Proofs.Files.Tree

/-!
# Writing under paths

`Writes` says that two file systems have the same files, apart from those that some written paths
name. It holds of every operation that adds to a file system, with no word on what the paths named
before, and it holds of operations one after the other (`Writes.trans`). The path of a file that was
written names it afterwards, so that its content is read back (`readBytes?_of_writeBytes?`).
-/

set_option autoImplicit false

namespace Phrasebook.FileSystem

variable {fs fs₁ fs₂ : FileSystem} {p : Path}

/-! ## The same files apart from some paths -/

/-- From `fs` to `fs'` nothing is lost, and the files are the same apart from those that the paths
`written` name. -/
structure Writes (fs fs' : FileSystem) (written : List Path) : Prop where
  /-- Nodes stay and keep their kind. -/
  grows : Grows fs fs'
  /-- A file that no written path names is neither added nor changed. -/
  apart : ∀ {l}, (∀ p ∈ written, fs'.locate? p ≠ some l) →
    ∀ {c}, fs'.node? l = some (.file c) ↔ fs.node? l = some (.file c)

/-- Every file of `fs` is in `fs'` with the same content. -/
def KeepsFiles (fs fs' : FileSystem) : Prop :=
  ∀ l c, fs.node? l = some (.file c) → fs'.node? l = some (.file c)

/-- Every file of `fs'` that is none in `fs` is named by one of the paths. -/
def AddsFilesAt (fs fs' : FileSystem) (paths : List Path) : Prop :=
  ∀ l c, fs'.node? l = some (.file c) → (∃ c', fs.node? l = some (.file c')) ∨
    ∃ p ∈ paths, fs'.locate? p = some l

namespace Writes

theorem refl (fs : FileSystem) : Writes fs fs [] := ⟨.refl fs, fun _ => Iff.rfl⟩

theorem trans {ps qs : List Path} (h₁ : Writes fs fs₁ ps) (h₂ : Writes fs₁ fs₂ qs) :
    Writes fs fs₂ (ps ++ qs) where
  grows := h₁.grows.trans h₂.grows
  apart {l} hl {c} := by
    have hqs : ∀ q ∈ qs, fs₂.locate? q ≠ some l := fun q hq => hl q (List.mem_append_right ps hq)
    -- A path that names `l` after the first half still does after the second.
    have hps : ∀ q ∈ ps, fs₁.locate? q ≠ some l := fun q hq hq₁ =>
      hl q (List.mem_append_left qs hq) (h₂.grows.locate? hq₁)
    exact (h₂.apart hqs).trans (h₁.apart hps)

/-- A new directory adds and changes no file. -/
theorem directory {l : Location} (hfree : fs.node? l = none) :
    Writes fs (fs.put l .directory) [] := by
  have hdir : fs.node? l ≠ some .directory := by simp [hfree]
  refine ⟨.put hdir (by simp [hfree]), fun {k} _ c => ?_⟩
  by_cases hkl : k = l
  · subst hkl
    rw [node?_put_self (ne_nil_of_node?_ne hdir), hfree]
    simp
  · rw [node?_put_of_ne hkl]

end Writes

/-! ## Making directories -/

theorem writes_makeSteps (fs : FileSystem) (l : Location) (steps : List Path.Step) :
    Writes fs (fs.makeSteps l steps).1 [] := by
  fun_induction makeSteps fs l steps with
  | case1 fs => exact .refl fs
  | case2 fs l later ih => exact ih
  | case3 fs l later ih => exact ih
  | case4 fs l name later hthere ih => exact ih
  | case5 fs => exact .refl fs
  | case6 fs l name later hfree hfits ih =>
      -- The only case that changes the tree: a directory is made where nothing was.
      exact (Writes.directory hfree).trans ih
  | case7 fs => exact .refl fs

theorem writes_makeDirectories (fs : FileSystem) (p : Path) :
    Writes fs (fs.makeDirectories p).1 [] := by
  rw [makeDirectories]
  split
  · exact writes_makeSteps fs _ _
  · exact .refl fs

/-! ## Writing a file -/

/-- A file is written in a directory that is there, under the last name of the path. -/
theorem writable?_spec {l : Location} (h : fs.writable? p = some l) :
    Path.isUsable p ∧ fs.node? l ≠ some .directory ∧ ∃ k before name, l = k ++ [name] ∧
      Path.steps p = before ++ [.down name] ∧ fs.walk? (fs.origin p) before = some k ∧
      fs.node? k = some .directory := by
  rw [writable?] at h
  split at h
  case isFalse => cases h
  case isTrue husable =>
    split at h
    case h_2 => cases h
    case h_1 name hlast =>
      obtain ⟨before, hsteps⟩ := List.getLast?_eq_some_iff.1 hlast
      rw [hsteps, List.dropLast_concat] at h
      split at h
      case h_1 => cases h
      case h_2 k hk =>
        rw [Option.ite_none_right_eq_some] at h
        obtain ⟨hdir, h⟩ := h
        have hl : k ++ [name] = l ∧ fs.node? (k ++ [name]) ≠ some .directory := by
          grind
        obtain ⟨rfl, hfree⟩ := hl
        exact ⟨husable, hfree, k, before, name, rfl, hsteps, hk, hdir⟩

theorem writeBytes?_eq_some_iff {fs' : FileSystem} {content : Bytes} :
    fs.writeBytes? p content = some fs' ↔
      ∃ l, fs.writable? p = some l ∧ fs' = fs.put l (.file content) := by
  rw [writeBytes?]
  cases fs.writable? p with
  | none => simp
  | some l => simp [eq_comm]

theorem grows_put_of_writable? {l : Location} (h : fs.writable? p = some l) (content : Bytes) :
    Grows fs (fs.put l (.file content)) :=
  .put (writable?_spec h).2.1 fun _ => ⟨content, rfl⟩

theorem node?_put_of_writable? {l : Location} (h : fs.writable? p = some l) (content : Bytes) :
    (fs.put l (.file content)).node? l = some (.file content) :=
  node?_put_self (ne_nil_of_node?_ne (writable?_spec h).2.1) _

/-- After a file was written under a path, the path names it. -/
theorem locate?_put_of_writable? {l : Location} (h : fs.writable? p = some l) (content : Bytes) :
    (fs.put l (.file content)).locate? p = some l := by
  have hgrows := grows_put_of_writable? h content
  have hnew := node?_put_of_writable? h content
  obtain ⟨husable, -, k, before, name, rfl, hsteps, hwalk, hk⟩ := writable?_spec h
  rw [locate?, if_pos husable, hsteps, walk?_concat, hgrows.origin]
  exact ⟨k, hgrows.walk? hwalk, follow?_down.2 ⟨hgrows.directory hk, by simp [hnew], rfl⟩⟩

/-- To write under a path changes no file but the one that the path names then. -/
theorem writes_writeBytes? {fs' : FileSystem} {content : Bytes}
    (h : fs.writeBytes? p content = some fs') : Writes fs fs' [p] := by
  obtain ⟨l, hl, rfl⟩ := writeBytes?_eq_some_iff.1 h
  refine ⟨grows_put_of_writable? hl content, fun {m} hm c => ?_⟩
  have hne : m ≠ l := by
    rintro rfl
    exact hm p (by simp) (locate?_put_of_writable? hl content)
  rw [node?_put_of_ne hne]

/-- **What was written under a path is read under it.** -/
theorem readBytes?_of_writeBytes? {fs' : FileSystem} {content : Bytes}
    (h : fs.writeBytes? p content = some fs') : fs'.readBytes? p = some content := by
  obtain ⟨l, hl, rfl⟩ := writeBytes?_eq_some_iff.1 h
  have hnode : (fs.put l (.file content)).nodeAt? p = some (.file content) := by
    simp only [nodeAt?, locate?_put_of_writable? hl, node?_put_of_writable? hl]
  rw [readBytes?, hnode]

theorem IsTree.writeBytes? {fs' : FileSystem} {content : Bytes} (tree : fs.IsTree)
    (h : fs.writeBytes? p content = some fs') : fs'.IsTree := by
  obtain ⟨l, hl, rfl⟩ := writeBytes?_eq_some_iff.1 h
  obtain ⟨-, hdir, k, before, name, rfl, -, -, hk⟩ := writable?_spec hl
  exact tree.put (by simpa using hk) hdir _

end Phrasebook.FileSystem
