import Phrasebook.Files.Tree

/-!
# Trees that only grow

A file system that is a tree has a directory above every node (`IsTree`). Between two file systems
`Grows` says that nothing is lost, and that directories stay directories and files stay files.
Whatever a path names before, it names afterwards (`Grows.locate?`). The other direction needs a
condition on the path: to make a directory can only give a new meaning to a path that climbs out of
it again (`IsTree.locate?_of_grows`).
-/

set_option autoImplicit false

namespace Phrasebook.FileSystem

variable {fs fs₁ fs₂ : FileSystem} {l m : Location} {p : Path}

/-! ## Nodes after a change -/

theorem node?_root (fs : FileSystem) : fs.node? [] = some .directory := rfl

theorem node?_of_ne_nil (hl : l ≠ []) : fs.node? l = fs.nodes.lookup l := if_neg hl

theorem lookup_filter_ne (hne : m ≠ l) (nodes : List (Location × Node)) :
    (nodes.filter fun entry => entry.1 != l).lookup m = nodes.lookup m := by
  induction nodes with
  | nil => rfl
  | cons entry rest ih =>
      obtain ⟨k, n⟩ := entry
      by_cases hk : k = l
      · subst hk
        have hmk : (m == k) = false := by simpa using hne
        simpa [List.lookup_cons, hmk] using ih
      · simp [hk, List.lookup_cons, ih]

theorem node?_put_self (hl : l ≠ []) (n : Node) : (fs.put l n).node? l = some n := by
  rw [node?_of_ne_nil hl]
  exact List.lookup_cons_self

theorem node?_put_of_ne (hne : m ≠ l) (n : Node) : (fs.put l n).node? m = fs.node? m := by
  by_cases hm : m = []
  · subst hm
    rfl
  · have hml : (m == l) = false := by simpa using hne
    rw [node?_of_ne_nil hm, node?_of_ne_nil hm, put, List.lookup_cons, hml]
    exact lookup_filter_ne hne fs.nodes

/-- The root is a directory, so what is no directory is below it. -/
theorem ne_nil_of_node?_ne (h : fs.node? l ≠ some .directory) : l ≠ [] := by
  rintro rfl
  exact h (node?_root fs)

/-- To put a node elsewhere leaves a directory as it is. -/
theorem node?_put_directory (hl : fs.node? l ≠ some .directory)
    (hm : fs.node? m = some .directory) (n : Node) : (fs.put l n).node? m = some .directory := by
  have hne : m ≠ l := by
    rintro rfl
    exact hl hm
  rw [node?_put_of_ne hne, hm]

/-! ## Trees -/

/-- There is a directory right above every node, and the working directory is there. -/
structure IsTree (fs : FileSystem) : Prop where
  /-- Every node is in a directory. -/
  above : ∀ entry ∈ fs.nodes, fs.node? entry.1.dropLast = some .directory
  /-- Relative paths start in a directory. -/
  working : fs.node? fs.workingDirectory = some .directory

instance (fs : FileSystem) : Decidable fs.IsTree :=
  decidable_of_iff
    ((∀ entry ∈ fs.nodes, fs.node? entry.1.dropLast = some .directory) ∧
      fs.node? fs.workingDirectory = some .directory)
    ⟨fun h => ⟨h.1, h.2⟩, fun h => ⟨h.above, h.working⟩⟩

theorem IsTree.node?_dropLast (tree : fs.IsTree) (h : (fs.node? l).isSome) :
    fs.node? l.dropLast = some .directory := by
  by_cases hl : l = []
  · subst hl
    rfl
  · rw [node?_of_ne_nil hl, List.lookup_isSome_iff] at h
    obtain ⟨entry, hmem, heq⟩ := h
    rw [eq_of_beq heq]
    exact tree.above entry hmem

/-- Everything on the way to a node is there. -/
theorem IsTree.isSome_of_prefix (tree : fs.IsTree) (hpre : l <+: m) (h : (fs.node? m).isSome) :
    (fs.node? l).isSome := by
  obtain ⟨names, rfl⟩ := hpre
  induction names generalizing l with
  | nil => simpa using h
  | cons name names ih =>
      have hnext : (fs.node? (l ++ [name])).isSome := ih (by simpa using h)
      have habove := tree.node?_dropLast hnext
      rw [List.dropLast_concat] at habove
      simp [habove]

/-- A node in a directory keeps the tree, unless it takes the place of a directory. -/
theorem IsTree.put (tree : fs.IsTree) (habove : fs.node? l.dropLast = some .directory)
    (hdir : fs.node? l ≠ some .directory) (n : Node) : (fs.put l n).IsTree := by
  refine ⟨fun entry hentry => ?_, node?_put_directory hdir tree.working n⟩
  obtain rfl | hold := List.mem_cons.1 hentry
  · exact node?_put_directory hdir habove n
  · exact node?_put_directory hdir (tree.above entry (List.mem_filter.1 hold).1) n

/-- To make directories on the way from a directory keeps the tree. -/
theorem IsTree.makeSteps (tree : fs.IsTree) (hl : fs.node? l = some .directory)
    (steps : List Path.Step) : (fs.makeSteps l steps).1.IsTree := by
  fun_induction FileSystem.makeSteps fs l steps with
  | case1 => exact tree
  | case2 fs l later ih => exact ih tree hl
  | case3 fs l later ih => exact ih tree (tree.node?_dropLast (by simp [hl]))
  | case4 fs l name later hthere ih => exact ih tree hthere
  | case5 => exact tree
  | case6 fs l name later hfree hfits ih =>
      -- A directory is made where nothing was, and the later steps start from it.
      have hdir : fs.node? (l ++ [name]) ≠ some .directory := by simp [hfree]
      refine ih (tree.put (by simpa using hl) hdir .directory) ?_
      exact node?_put_self (ne_nil_of_node?_ne hdir) _
  | case7 => exact tree

theorem IsTree.node?_origin (tree : fs.IsTree) (p : Path) :
    fs.node? (fs.origin p) = some .directory := by
  rw [origin]
  split
  · rfl
  · exact tree.working

theorem IsTree.makeDirectories (tree : fs.IsTree) (p : Path) : (fs.makeDirectories p).1.IsTree := by
  rw [FileSystem.makeDirectories]
  split
  · exact tree.makeSteps (tree.node?_origin p) _
  · exact tree

/-! ## Growing -/

/-- Nothing is lost from `fs` to `fs'`: directories stay directories, files stay files, and relative
paths start in the same place. -/
structure Grows (fs fs' : FileSystem) : Prop where
  /-- The working directory is the same. -/
  working : fs'.workingDirectory = fs.workingDirectory
  /-- Directories stay. -/
  directory : ∀ {l}, fs.node? l = some .directory → fs'.node? l = some .directory
  /-- Files stay, but may get another content. -/
  file : ∀ {l c}, fs.node? l = some (.file c) → ∃ c', fs'.node? l = some (.file c')

namespace Grows

theorem refl (fs : FileSystem) : Grows fs fs := ⟨rfl, fun h => h, fun h => ⟨_, h⟩⟩

theorem trans (h₁ : Grows fs fs₁) (h₂ : Grows fs₁ fs₂) : Grows fs fs₂ where
  working := h₂.working.trans h₁.working
  directory h := h₂.directory (h₁.directory h)
  file h := by
    obtain ⟨c₁, hc₁⟩ := h₁.file h
    exact h₂.file hc₁

theorem isSome (h : Grows fs fs₁) (hl : (fs.node? l).isSome) : (fs₁.node? l).isSome := by
  obtain ⟨n, hn⟩ := Option.isSome_iff_exists.1 hl
  cases n with
  | directory => simp [h.directory hn]
  | file c =>
      obtain ⟨c', hc'⟩ := h.file hn
      simp [hc']

/-- What is a directory afterwards, and was there before, was one before. -/
theorem directory_of_isSome (h : Grows fs fs₁) (hdir : fs₁.node? l = some .directory)
    (hl : (fs.node? l).isSome) : fs.node? l = some .directory := by
  obtain ⟨n, hn⟩ := Option.isSome_iff_exists.1 hl
  cases n with
  | directory => exact hn
  | file c =>
      obtain ⟨c', hc'⟩ := h.file hn
      rw [hdir] at hc'
      cases hc'

/-- A node at a free place, or a file in place of a file, takes nothing away. -/
theorem put {n : Node} (hdir : fs.node? l ≠ some .directory)
    (hfile : (fs.node? l).isSome → ∃ c, n = .file c) : Grows fs (fs.put l n) where
  working := rfl
  directory hk := node?_put_directory hdir hk n
  file {k c} hk := by
    by_cases hkl : k = l
    · subst hkl
      obtain ⟨c', rfl⟩ := hfile (by simp [hk])
      exact ⟨c', node?_put_self (ne_nil_of_node?_ne hdir) _⟩
    · exact ⟨c, by rw [node?_put_of_ne hkl, hk]⟩

end Grows

/-! ## Walking -/

theorem follow?_stay : fs.follow? l .stay = some m ↔ fs.node? l = some .directory ∧ m = l := by
  simp [follow?, eq_comm]

theorem follow?_up :
    fs.follow? l .up = some m ↔ fs.node? l = some .directory ∧ m = l.dropLast := by
  simp [follow?, eq_comm]

theorem follow?_down {name : Text} :
    fs.follow? l (.down name) = some m ↔
      fs.node? l = some .directory ∧ (fs.node? (l ++ [name])).isSome ∧ m = l ++ [name] := by
  rw [follow?, Option.ite_none_right_eq_some, Option.ite_none_right_eq_some, Option.some.injEq,
    eq_comm (b := m)]

theorem walk?_nil (fs : FileSystem) (l : Location) : fs.walk? l [] = some l := rfl

theorem walk?_cons {s : Path.Step} {later : List Path.Step} :
    fs.walk? l (s :: later) = some m ↔ ∃ k, fs.follow? l s = some k ∧ fs.walk? k later = some m :=
  Option.bind_eq_some_iff

theorem walk?_concat {before : List Path.Step} {s : Path.Step} :
    fs.walk? l (before ++ [s]) = some m ↔
      ∃ k, fs.walk? l before = some k ∧ fs.follow? k s = some m := by
  induction before generalizing l with
  | nil => simp [walk?_nil, walk?_cons]
  | cons t before ih =>
      simp only [List.cons_append, walk?_cons, ih]
      grind

/-! ## Paths keep their meaning -/

namespace Grows

theorem follow? {s : Path.Step} (h : Grows fs fs₁) (hm : fs.follow? l s = some m) :
    fs₁.follow? l s = some m := by
  cases s with
  | stay =>
      rw [follow?_stay] at hm ⊢
      exact ⟨h.directory hm.1, hm.2⟩
  | up =>
      rw [follow?_up] at hm ⊢
      exact ⟨h.directory hm.1, hm.2⟩
  | down name =>
      rw [follow?_down] at hm ⊢
      exact ⟨h.directory hm.1, h.isSome hm.2.1, hm.2.2⟩

theorem walk? {steps : List Path.Step} (h : Grows fs fs₁) (hm : fs.walk? l steps = some m) :
    fs₁.walk? l steps = some m := by
  induction steps generalizing l with
  | nil => exact hm
  | cons s later ih =>
      obtain ⟨k, hk, hlater⟩ := walk?_cons.1 hm
      exact walk?_cons.2 ⟨k, h.follow? hk, ih hlater⟩

theorem origin (h : Grows fs fs₁) (p : Path) : fs₁.origin p = fs.origin p := by
  rw [FileSystem.origin, FileSystem.origin, h.working]

theorem locate? (h : Grows fs fs₁) (hl : fs.locate? p = some l) : fs₁.locate? p = some l := by
  rw [FileSystem.locate?, Option.ite_none_right_eq_some] at hl ⊢
  rw [h.origin]
  exact ⟨hl.1, h.walk? hl.2⟩

end Grows

theorem pathExists_iff :
    fs.pathExists p = true ↔ ∃ l, fs.locate? p = some l ∧ (fs.node? l).isSome := by
  rw [pathExists, nodeAt?]
  cases fs.locate? p <;> simp

theorem Grows.pathExists (h : Grows fs fs₁) (hp : fs.pathExists p = true) :
    fs₁.pathExists p = true := by
  obtain ⟨l, hl, hsome⟩ := pathExists_iff.1 hp
  exact pathExists_iff.2 ⟨l, h.locate? hl, h.isSome hsome⟩

/-! ## Climbing -/

/-- Whenever the steps from a location climb, they climb out of a directory that is there. -/
def ClimbsWithin (fs : FileSystem) (l : Location) (steps : List Path.Step) : Prop :=
  ∀ before, before ++ [.up] <+: steps → (fs.walk? l (before ++ [.up])).isSome

/-- Before a climb every step can be taken. -/
theorem ClimbsWithin.first {s : Path.Step} {later : List Path.Step}
    (climbs : fs.ClimbsWithin l (s :: later)) (hup : Path.Step.up ∈ s :: later) :
    ∃ k, fs.follow? l s = some k := by
  obtain ⟨before, after, hsplit⟩ := List.append_of_mem hup
  have hpre : before ++ [.up] <+: s :: later := ⟨after, by simp [hsplit]⟩
  have hwalk := climbs before hpre
  obtain hnil | ⟨rest, hrest, -⟩ := List.prefix_cons_iff.1 hpre
  · simp at hnil
  · rw [hrest] at hwalk
    obtain ⟨top, htop⟩ := Option.isSome_iff_exists.1 hwalk
    obtain ⟨k, hk, -⟩ := walk?_cons.1 htop
    exact ⟨k, hk⟩

theorem ClimbsWithin.later {s : Path.Step} {later : List Path.Step} {k : Location}
    (climbs : fs.ClimbsWithin l (s :: later)) (hk : fs.follow? l s = some k) :
    fs.ClimbsWithin k later := by
  intro before hpre
  have hwalk := climbs (s :: before) (List.cons_prefix_cons.2 ⟨rfl, hpre⟩)
  obtain ⟨top, htop⟩ := Option.isSome_iff_exists.1 hwalk
  obtain ⟨k', hk', hrest⟩ := walk?_cons.1 htop
  rw [hk] at hk'
  cases hk'
  exact Option.isSome_iff_exists.2 ⟨top, hrest⟩

theorem prefix_of_follow? {s : Path.Step} (hs : s ≠ .up) (h : fs.follow? l s = some m) :
    l <+: m := by
  cases s with
  | stay =>
      obtain ⟨-, rfl⟩ := follow?_stay.1 h
      exact List.prefix_rfl
  | up => exact absurd rfl hs
  | down name =>
      obtain ⟨-, -, rfl⟩ := follow?_down.1 h
      exact List.prefix_append l [name]

/-- Steps that never climb lead from a place to a place below it. -/
theorem prefix_of_walk? {steps : List Path.Step} (hup : Path.Step.up ∉ steps)
    (h : fs.walk? l steps = some m) : l <+: m := by
  induction steps generalizing l with
  | nil => exact (Option.some.inj h) ▸ List.prefix_rfl
  | cons s later ih =>
      obtain ⟨k, hk, hlater⟩ := walk?_cons.1 h
      rw [List.mem_cons, not_or] at hup
      exact (prefix_of_follow? (Ne.symm hup.1) hk).trans (ih hup.2 hlater)

namespace IsTree

/-- A step down to a node that was there before could be taken before. -/
theorem follow?_of_grows {s : Path.Step} (tree : fs.IsTree) (grows : Grows fs fs₁) (hs : s ≠ .up)
    (h : fs₁.follow? l s = some m) (hm : (fs.node? m).isSome) : fs.follow? l s = some m := by
  have hl : (fs.node? l).isSome := tree.isSome_of_prefix (prefix_of_follow? hs h) hm
  cases s with
  | stay =>
      rw [follow?_stay] at h ⊢
      exact ⟨grows.directory_of_isSome h.1 hl, h.2⟩
  | up => exact absurd rfl hs
  | down name =>
      rw [follow?_down] at h ⊢
      obtain ⟨hdir, -, rfl⟩ := h
      exact ⟨grows.directory_of_isSome hdir hl, hm, rfl⟩

/-- Steps that climb only out of directories that were there, and lead to a node that was there,
could be taken before. -/
theorem walk?_of_grows {steps : List Path.Step} (tree : fs.IsTree) (grows : Grows fs fs₁)
    (climbs : fs.ClimbsWithin l steps) (h : fs₁.walk? l steps = some m)
    (hm : (fs.node? m).isSome) : fs.walk? l steps = some m := by
  induction steps generalizing l with
  | nil => exact h
  | cons s later ih =>
      obtain ⟨k, hk, hlater⟩ := walk?_cons.1 h
      have hfirst : fs.follow? l s = some k := by
        by_cases hup : Path.Step.up ∈ s :: later
        · -- On the way to a climb the steps lead to the same places in both trees.
          obtain ⟨k', hk'⟩ := climbs.first hup
          rw [hk', ← hk, grows.follow? hk']
        · -- From here on the steps only lead down, through places that are above a node.
          rw [List.mem_cons, not_or] at hup
          have hbelow := tree.isSome_of_prefix (prefix_of_walk? hup.2 hlater) hm
          exact tree.follow?_of_grows grows (Ne.symm hup.1) hk hbelow
      exact walk?_cons.2 ⟨k, hfirst, ih (climbs.later hfirst) hlater⟩

/-- A path that climbs only out of directories that were there does not come to name an old node. -/
theorem locate?_of_grows (tree : fs.IsTree) (grows : Grows fs fs₁)
    (climbs : fs.ClimbsWithin (fs.origin p) (Path.steps p)) (h : fs₁.locate? p = some l)
    (hl : (fs.node? l).isSome) : fs.locate? p = some l := by
  rw [locate?, Option.ite_none_right_eq_some] at h ⊢
  rw [grows.origin] at h
  exact ⟨h.1, tree.walk?_of_grows grows climbs h.2 hl⟩

end IsTree

end Phrasebook.FileSystem
