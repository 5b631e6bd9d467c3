import Phrasebook.Proofs.Rulebook.Reloading

/-!
# Loading and reloading

To load a rulebook and to reload one read the same two files, but they take a file that cannot be read
differently: `load` stops at the first, and `reload` keeps the rule set that was in force. Where both
files can be read they agree (`load_eq_ok_iff`), and where one cannot, `load` names it
(`load_eq_error_iff`).
-/

set_option autoImplicit false

namespace Phrasebook

open Wildcard

/-- Whether the rule file of a case mode was read. -/
def ReloadSummary.loaded (r : ReloadSummary) : CaseMode → Bool
  | .sensitive => r.sensitiveLoaded
  | .insensitive => r.insensitiveLoaded

namespace Rulebook

variable {b next : Rulebook} {fs : FileSystem} {paths : RulePaths} {e : ConfigError}

theorem rules_ext (h : ∀ mode, b.rules mode = next.rules mode) : b = next := by
  have hsensitive : b.sensitive = next.sensitive := h .sensitive
  have hinsensitive : b.insensitive = next.insensitive := h .insensitive
  cases b
  cases next
  exact congr (congrArg mk hsensitive) hinsensitive

/-! ## Loading -/

theorem load_eq (fs : FileSystem) (paths : RulePaths) :
    load fs paths = match fs.readText? paths.sensitive, fs.readText? paths.insensitive with
      | none, _ => .error (.read paths.sensitive)
      | some _, none => .error (.read paths.insensitive)
      | some sensitive, some insensitive =>
          .ok ⟨rulesOfText .sensitive sensitive, rulesOfText .insensitive insensitive⟩ := by
  rw [load, RuleFile.load_eq, RuleFile.load_eq]
  cases fs.readText? paths.sensitive with
  | none => rfl
  | some sensitive =>
      cases fs.readText? paths.insensitive with
      | none => rfl
      | some insensitive => rfl

/-- A rulebook is loaded if both files can be read, and holds their rules. -/
theorem load_eq_ok_iff :
    load fs paths = .ok next ↔ ∀ mode, ∃ content,
      fs.readText? (paths.file mode) = some content ∧ next.rules mode = rulesOfText mode content := by
  rw [load_eq]
  constructor
  · intro h mode
    cases hsensitive : fs.readText? paths.sensitive with
    | none => simp [hsensitive] at h
    | some sensitive =>
        cases hinsensitive : fs.readText? paths.insensitive with
        | none => simp [hsensitive, hinsensitive] at h
        | some insensitive =>
            simp only [hsensitive, hinsensitive, Except.ok.injEq] at h
            subst h
            cases mode with
            | sensitive => exact ⟨sensitive, hsensitive, rfl⟩
            | insensitive => exact ⟨insensitive, hinsensitive, rfl⟩
  · intro h
    obtain ⟨sensitive, hsensitive, hrules⟩ := h .sensitive
    obtain ⟨insensitive, hinsensitive, hrules'⟩ := h .insensitive
    have hsensitive : fs.readText? paths.sensitive = some sensitive := hsensitive
    have hinsensitive : fs.readText? paths.insensitive = some insensitive := hinsensitive
    simp only [hsensitive, hinsensitive, Except.ok.injEq]
    apply rules_ext
    intro mode
    cases mode with
    | sensitive => exact hrules.symm
    | insensitive => exact hrules'.symm

/-- The error names the first file that cannot be read. -/
theorem load_eq_error_iff :
    load fs paths = .error e ↔
      (fs.readText? paths.sensitive).isSome = false ∧ e = .read paths.sensitive ∨
        (fs.readText? paths.sensitive).isSome = true ∧
          (fs.readText? paths.insensitive).isSome = false ∧ e = .read paths.insensitive := by
  rw [load_eq]
  cases fs.readText? paths.sensitive with
  | none => simp [@eq_comm _ e]
  | some sensitive =>
      cases fs.readText? paths.insensitive with
      | none => simp [@eq_comm _ e]
      | some insensitive => simp

/-! ## Reloading -/

theorem loaded_reload (b : Rulebook) (fs : FileSystem) (paths : RulePaths) (mode : CaseMode) :
    (b.reload fs paths).summary.loaded mode = (fs.readText? (paths.file mode)).isSome := by
  cases mode with
  | sensitive => exact RuleFile.isOk_load fs .sensitive paths.sensitive
  | insensitive => exact RuleFile.isOk_load fs .insensitive paths.insensitive

theorem rules_reload (b : Rulebook) (fs : FileSystem) (paths : RulePaths) (mode : CaseMode) :
    (b.reload fs paths).book.rules mode
      = match fs.readText? (paths.file mode) with
        | some content => rulesOfText mode content
        | none => b.rules mode := by
  have hinstalls : (b.reload fs paths).book.rules mode
      = ((fs.readText? (paths.file mode)).map (rulesOfText mode)).getD (b.rules mode) :=
    rules_perform b (.reload fs paths) mode
  rw [hinstalls]
  cases fs.readText? (paths.file mode) with
  | none => rfl
  | some content => rfl

/-- What can be loaded is what a reload puts in force that reads both files. -/
theorem load_eq_ok_iff_reload (b : Rulebook) :
    load fs paths = .ok next ↔
      (∀ mode, (b.reload fs paths).summary.loaded mode = true) ∧
        (b.reload fs paths).book = next := by
  rw [load_eq_ok_iff]
  constructor
  · intro h
    refine ⟨fun mode => ?_, rules_ext fun mode => ?_⟩
    · obtain ⟨content, hread, -⟩ := h mode
      rw [loaded_reload, hread]
      rfl
    · obtain ⟨content, hread, hnext⟩ := h mode
      rw [rules_reload, hread, hnext]
  · rintro ⟨hall, rfl⟩ mode
    have hsome := hall mode
    rw [loaded_reload, Option.isSome_iff_exists] at hsome
    obtain ⟨content, hread⟩ := hsome
    refine ⟨content, hread, ?_⟩
    rw [rules_reload, hread]

/-- What cannot be loaded is a file that a reload does not read, the first of them if there are two. -/
theorem load_eq_error_iff_reload (b : Rulebook) :
    load fs paths = .error e ↔
      (b.reload fs paths).summary.loaded .sensitive = false ∧ e = .read paths.sensitive ∨
        (b.reload fs paths).summary.loaded .sensitive = true ∧
          (b.reload fs paths).summary.loaded .insensitive = false ∧
            e = .read paths.insensitive := by
  rw [loaded_reload, loaded_reload]
  exact load_eq_error_iff

theorem load_fails_iff_reload (b : Rulebook) :
    (∃ e, load fs paths = .error e) ↔
      ∃ mode, (b.reload fs paths).summary.loaded mode = false := by
  constructor
  · rintro ⟨e, he⟩
    obtain ⟨hsensitive, -⟩ | ⟨-, hinsensitive, -⟩ := (load_eq_error_iff_reload b).1 he
    · exact ⟨.sensitive, hsensitive⟩
    · exact ⟨.insensitive, hinsensitive⟩
  · rintro ⟨mode, hmode⟩
    -- The file whose rules respect case is read first, so its failure comes first.
    cases hsensitive : (b.reload fs paths).summary.loaded .sensitive with
    | false => exact ⟨_, (load_eq_error_iff_reload b).2 (.inl ⟨hsensitive, rfl⟩)⟩
    | true =>
        cases mode with
        | sensitive => simp [hmode] at hsensitive
        | insensitive => exact ⟨_, (load_eq_error_iff_reload b).2 (.inr ⟨hsensitive, hmode, rfl⟩)⟩

/-- **To load and to reload agree.** A rulebook is loaded exactly if a reload reads both files and puts
that rulebook in force, whatever was in force before. To load fails exactly if a reload cannot read one
of the files, with an error that names the one whose rules respect case if that cannot be read, and the
other one otherwise; the reload puts in force the rules of each file that can be read, and keeps those
that were in force for each that cannot. To reload the same files once more changes nothing and comes to
the same. -/
theorem load_agrees_with_reload (b : Rulebook) (fs : FileSystem) (paths : RulePaths) :
    let r := b.reload fs paths
    (∀ next, load fs paths = .ok next ↔ (∀ mode, r.summary.loaded mode = true) ∧ r.book = next) ∧
      ((∃ e, load fs paths = .error e) ↔ ∃ mode, r.summary.loaded mode = false) ∧
      (∀ e, load fs paths = .error e ↔
        r.summary.loaded .sensitive = false ∧ e = .read paths.sensitive ∨
          r.summary.loaded .sensitive = true ∧ r.summary.loaded .insensitive = false ∧
            e = .read paths.insensitive) ∧
      (∀ mode, r.book.rules mode = match fs.readText? (paths.file mode) with
        | some content => rulesOfText mode content
        | none => b.rules mode) ∧
      b.afterAll [.reload fs paths] = r.book ∧ r.book.reload fs paths = r := by
  intro r
  refine ⟨fun next => load_eq_ok_iff_reload b, load_fails_iff_reload b,
    fun e => load_eq_error_iff_reload b, b.rules_reload fs paths, ?_, b.reload_reload fs paths⟩
  rfl

end Rulebook

end Phrasebook
