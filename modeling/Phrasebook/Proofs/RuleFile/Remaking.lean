import Phrasebook.Proofs.RuleFile.Existing

/-!
# Making the rule files once more

After the rule files were made without a failure, both rule paths name something, so that to make them
once more changes nothing (`ensureDefaults_once_more`). The two paths may lead to the same place in
many ways, and the second file is written in a tree that the first has changed: what stands at the end
of a written path is what was written there last. `HoldsWritten` says so of all paths written so far,
and it is kept by one more write (`HoldsWritten.append`).
-/

set_option autoImplicit false

namespace Phrasebook.RuleFile

open FileSystem

variable {fs fs' : FileSystem} {paths : RulePaths} {p : Path} {lines : List Text} {force : Bool}

/-! ## What was written last -/

/-- Of all lines that were written in order, each under its path, these are the last that came to
stand at a location. -/
def LastAt (fs : FileSystem) (l : Location) (done : List (Path × List Text)) (lines : List Text) :
    Prop :=
  ∃ before p after, done = before ++ (p, lines) :: after ∧ fs.locate? p = some l ∧
    ∀ entry ∈ after, fs.locate? entry.1 ≠ some l

/-- Every written path names a file, which holds the lines that were written there last. -/
def HoldsWritten (fs : FileSystem) (done : List (Path × List Text)) : Prop :=
  ∀ entry ∈ done, ∃ l lines, fs.locate? entry.1 = some l ∧ LastAt fs l done lines ∧
    fs.node? l = some (.file (Text.encode (contentOf lines)))

theorem holdsWritten_nil (fs : FileSystem) : HoldsWritten fs [] := by
  intro entry h
  cases h

theorem lastAt_concat {l : Location} (done : List (Path × List Text))
    (h : fs.locate? p = some l) : LastAt fs l (done ++ [(p, lines)]) lines :=
  ⟨done, p, [], rfl, h, fun _ hnil => absurd hnil List.not_mem_nil⟩

/-- **One more write** keeps what was written elsewhere and takes the place of what was written at the
same location. -/
theorem HoldsWritten.append {done : List (Path × List Text)} (h : HoldsWritten fs done)
    (hwrites : Writes fs fs' [p])
    (hread : fs'.readBytes? p = some (Text.encode (contentOf lines))) :
    HoldsWritten fs' (done ++ [(p, lines)]) := by
  obtain ⟨l, hl, hnode⟩ := nodeAt?_eq_some_iff.1 (readBytes?_eq_some_iff.1 hread)
  intro entry hentry
  rcases List.mem_append.1 hentry with hold | hnew
  · obtain ⟨k, lines', hk, hlast, hfile⟩ := h entry hold
    have hk' : fs'.locate? entry.1 = some k := hwrites.grows.locate? hk
    by_cases hkl : k = l
    · subst hkl
      exact ⟨k, lines, hk', lastAt_concat done hl, hnode⟩
    · have hapart : fs'.locate? p ≠ some k := by
        rw [hl]
        exact fun heq => hkl (Option.some.inj heq).symm
      refine ⟨k, lines', hk', ?_, (hwrites.apart (by simpa using hapart)).2 hfile⟩
      obtain ⟨before, q, after, rfl, hq, hafter⟩ := hlast
      refine ⟨before, q, after ++ [(p, lines)], by simp, hwrites.grows.locate? hq, ?_⟩
      intro later hlater
      rcases List.mem_append.1 hlater with hlater | hlater
      · -- Paths that named something else before still do.
        obtain ⟨m, -, hm, -⟩ := h later (by simp [hlater])
        rw [hwrites.grows.locate? hm, ← hm]
        exact hafter later hlater
      · rw [List.mem_singleton.1 hlater]
        exact hapart
  · rw [List.mem_singleton.1 hnew]
    exact ⟨l, lines, hl, lastAt_concat done hl, hnode⟩

/-! ## One rule file -/

/-- The files that an attempt to write lines under a path adds to those that were written. -/
def addedBy (p : Path) (lines : List Text) (wrote : Bool) : List (Path × List Text) :=
  if wrote then [(p, lines)] else []

/-- An attempt that does not fail writes nothing, since the path names something, or leaves a file
under the path. -/
theorem writeDefault_eq_ok {wrote : Bool}
    (h : writeDefault fs p lines force = (fs', .ok wrote)) :
    (wrote = false ∧ fs' = fs ∧ force = false ∧ fs.pathExists p = true) ∨
      (wrote = true ∧ (force = true ∨ fs.pathExists p = false) ∧ Writes fs fs' [p] ∧
        fs'.readBytes? p = some (Text.encode (contentOf lines))) := by
  obtain ⟨hexists, hforce, heq⟩ | ⟨e, heq⟩ | ⟨hmissing, fs'', hwrite, heq⟩ :=
    writeDefault_cases fs p lines force
  · cases heq.symm.trans h
    exact .inl ⟨rfl, rfl, hforce, hexists⟩
  · cases heq.symm.trans h
  · cases heq.symm.trans h
    have hor : force = true ∨ fs.pathExists p = false := by
      cases hexists : fs.pathExists p with
      | false => exact .inr rfl
      | true => exact .inl (hmissing hexists)
    exact .inr ⟨rfl, hor, (writes_makeParent fs p).trans (writes_writeBytes? hwrite),
      readBytes?_of_writeBytes? hwrite⟩

section

variable {wrote : Bool} (h : writeDefault fs p lines force = (fs', .ok wrote))

include h

theorem pathExists_of_writeDefault : fs'.pathExists p = true := by
  obtain ⟨-, rfl, -, hexists⟩ | ⟨-, -, -, hread⟩ := writeDefault_eq_ok h
  · exact hexists
  · exact pathExists_of_readBytes? hread

theorem grows_of_writeDefault : Grows fs fs' := by
  obtain ⟨-, rfl, -, -⟩ | ⟨-, -, hwrites, -⟩ := writeDefault_eq_ok h
  · exact .refl _
  · exact hwrites.grows

theorem wrote_iff_of_writeDefault : wrote = true ↔ force = true ∨ fs.pathExists p = false := by
  obtain ⟨rfl, -, hforce, hexists⟩ | ⟨rfl, hor, -, -⟩ := writeDefault_eq_ok h
  · simp [hforce, hexists]
  · simp [hor]

theorem HoldsWritten.writeDefault {done : List (Path × List Text)} (hdone : HoldsWritten fs done) :
    HoldsWritten fs' (done ++ addedBy p lines wrote) := by
  obtain ⟨rfl, rfl, -, -⟩ | ⟨rfl, -, hwrites, hread⟩ := writeDefault_eq_ok h
  · simpa [addedBy] using hdone
  · exact hdone.append hwrites hread

end

/-! ## Both rule files -/

/-- If nothing fails, both paths were gone through, one after the other. -/
theorem ensureDefaults_eq_ok (h : (ensureDefaults fs paths force).failure = none) :
    ∃ fs₁ fs₂ first second,
      writeDefault fs paths.sensitive demoSensitive force = (fs₁, .ok first) ∧
      writeDefault fs₁ paths.insensitive demoInsensitive force = (fs₂, .ok second) ∧
      ensureDefaults fs paths force = ⟨fs₂, (addedBy paths.sensitive demoSensitive first ++
        addedBy paths.insensitive demoInsensitive second).map Prod.fst, none⟩ := by
  simp only [ensureDefaults] at h ⊢
  split at h
  · cases h
  · next fs₁ first hfirst =>
    split at h
    · cases h
    · next fs₂ second hsecond =>
      refine ⟨fs₁, fs₂, first, second, hfirst, hsecond, ?_⟩
      cases first <;> cases second <;> rfl

/-- The files of demonstration rules, in the order in which they are written. -/
def demoFiles (paths : RulePaths) : List (Path × List Text) :=
  [(paths.sensitive, demoSensitive), (paths.insensitive, demoInsensitive)]

/-- **Making the rule files a second time does nothing.** If nothing fails, then both rule paths name
something afterwards, whatever they are and wherever they lead. The written paths name files, each of
which holds the demonstration rules that were written there last, the rules that respect case having
been written first; and to make the rule files once more writes nothing and leaves the tree as it
is. -/
theorem ensureDefaults_once_more (fs : FileSystem) (paths : RulePaths) (force : Bool)
    (h : (ensureDefaults fs paths force).failure = none) :
    let e := ensureDefaults fs paths force
    e.files.pathExists paths.sensitive = true ∧ e.files.pathExists paths.insensitive = true ∧
      (∃ done, done.Sublist (demoFiles paths) ∧ e.written = done.map Prod.fst ∧
        ((paths.sensitive, demoSensitive) ∈ done ↔
          force = true ∨ fs.pathExists paths.sensitive = false) ∧
        HoldsWritten e.files done) ∧
      ensureDefaults e.files paths false = ⟨e.files, [], none⟩ := by
  obtain ⟨fs₁, fs₂, first, second, hfirst, hsecond, heq⟩ := ensureDefaults_eq_ok h
  rw [heq]
  dsimp only
  have hsensitive : fs₂.pathExists paths.sensitive = true :=
    (grows_of_writeDefault hsecond).pathExists (pathExists_of_writeDefault hfirst)
  have hinsensitive : fs₂.pathExists paths.insensitive = true := pathExists_of_writeDefault hsecond
  refine ⟨hsensitive, hinsensitive, ⟨_, ?_, rfl, ?_, ?_⟩,
    ensureDefaults_of_pathExists hsensitive hinsensitive⟩
  · cases first <;> cases second <;> simp [addedBy, demoFiles]
  · rw [← wrote_iff_of_writeDefault hfirst]
    cases first <;> cases second <;> simp [addedBy, demoSensitive, demoInsensitive]
  · exact ((holdsWritten_nil fs).writeDefault hfirst).writeDefault hsecond

/-- Two spellings of one path: the file is written twice and holds the rules of the second time. -/
theorem ensureDefaults_once_more_aliased :
    let paths : RulePaths := ⟨"config/rules.txt".toList, "config/./rules.txt".toList⟩
    let e := ensureDefaults withRules paths true
    e.failure = none ∧ e.written = [paths.sensitive, paths.insensitive] ∧
      e.files.readBytes? paths.sensitive = some (Text.encode (contentOf demoInsensitive)) ∧
      ensureDefaults e.files paths false = ⟨e.files, [], none⟩ := by
  intro paths e
  have hnone : e.failure = none := by decide
  exact ⟨hnone, by decide, by decide, (ensureDefaults_once_more withRules paths true hnone).2.2.2⟩

end Phrasebook.RuleFile
