import Mathlib.Data.List.Nodup
import Phrasebook.Proofs.Settings.Loading
import Phrasebook.Proofs.Toml.Written

/-!
# Settings as they are written

A settings file assigns to its keys in any order. `Allowed` says which assignments it may hold, and
`AssignedBy` which settings come of them: those that are assigned, and the default ones where a key
is absent. Every written document is read in this way, and in the same way whatever the order of its
lines (`written_settings_read_in_any_order`).
-/

set_option autoImplicit false

namespace Phrasebook.Settings

variable {s s' : Settings} {entry : Text × Toml.Value} {document : Toml.Document} {p : Path}

/-! ## One assignment -/

/-- An assignment that a settings file may hold. -/
inductive Allowed : Text × Toml.Value → Prop where
  /-- The name of the rule file whose rules respect case. -/
  | sensitiveFile (name : Path) : Allowed (sensitiveKey, .text name)
  /-- The name of the rule file whose rules fold case. -/
  | insensitiveFile (name : Path) : Allowed (insensitiveKey, .text name)
  /-- Whether missing rule files are made. -/
  | createDefaults (b : Bool) : Allowed (createDefaultsKey, .flag b)

theorem allowed_of_assign? (h : assign? s entry = some s') : Allowed entry := by
  obtain ⟨key, value⟩ := entry
  by_cases hsensitive : key = sensitiveKey
  · subst hsensitive
    cases value with
    | text name => exact .sensitiveFile name
    | flag b => cases h
  by_cases hinsensitive : key = insensitiveKey
  · subst hinsensitive
    cases value with
    | text name => exact .insensitiveFile name
    | flag b => cases h
  by_cases hswitch : key = createDefaultsKey
  · subst hswitch
    cases value with
    | text t => cases h
    | flag b => exact .createDefaults b
  · simp [assign?, hsensitive, hinsensitive, hswitch] at h

/-- An assignment is refused by some settings, and then by all, exactly if it is not allowed. -/
theorem refused_iff_not_allowed : Refused entry ↔ ¬ Allowed entry := by
  have hnone : assign? {} entry = none ↔ Refused entry := assign?_eq_none_iff
  constructor
  · intro hrefused hallowed
    rw [← hnone] at hrefused
    cases hallowed with
    | sensitiveFile name => cases hrefused
    | insensitiveFile name => cases hrefused
    | createDefaults b => cases hrefused
  · intro hnot
    rw [← hnone, Option.eq_none_iff_forall_ne_some]
    exact fun next hnext => hnot (allowed_of_assign? hnext)

/-- The value that settings give to a key. -/
def value? (s : Settings) (key : Text) : Option Toml.Value :=
  if key = sensitiveKey then some (.text s.sensitiveFile)
  else if key = insensitiveKey then some (.text s.insensitiveFile)
  else if key = createDefaultsKey then some (.flag s.createDefaults)
  else none

/-- **One assignment** changes the value of its key and of no other. -/
theorem value?_of_assign? (h : assign? s entry = some s') (key : Text) :
    s'.value? key = if key = entry.1 then some entry.2 else s.value? key := by
  have hdistinct : knownKeys.Nodup := by decide
  simp only [knownKeys, List.nodup_cons, List.mem_cons, List.not_mem_nil, or_false, not_or] at hdistinct
  cases allowed_of_assign? h with
  | sensitiveFile name =>
      cases h
      simp only [value?]
      split <;> rfl
  | insensitiveFile name =>
      cases h
      simp only [value?]
      grind
  | createDefaults b =>
      cases h
      simp only [value?]
      grind

/-! ## All assignments -/

/-- The documents that hold settings: no key is assigned twice, and nothing is assigned that may not
be. -/
structure Acceptable (document : Toml.Document) : Prop where
  /-- The keys are all different. -/
  once : (document.map Prod.fst).Nodup
  /-- Every assignment is allowed. -/
  allowed : ∀ entry ∈ document, Allowed entry

/-- A key has this value in a document: it is assigned there, or it is absent and this is the value
that it has otherwise. -/
def Sets (document : Toml.Document) (key : Text) (value otherwise : Toml.Value) : Prop :=
  (key, value) ∈ document ∨ key ∉ document.map Prod.fst ∧ value = otherwise

/-- Every setting is the one that the document assigns, or the default one. -/
structure AssignedBy (document : Toml.Document) (s : Settings) : Prop where
  /-- The rule file whose rules respect case. -/
  sensitiveFile : Sets document sensitiveKey (.text s.sensitiveFile) (.text "rules.txt".toList)
  /-- The rule file whose rules fold case. -/
  insensitiveFile : Sets document insensitiveKey (.text s.insensitiveFile)
    (.text "rules-case-insensitive.txt".toList)
  /-- Whether missing rule files are made. -/
  createDefaults : Sets document createDefaultsKey (.flag s.createDefaults) (.flag true)

/-- **A run of assignments** leaves a key with a value that was assigned to it, or with the one that
it had before if there was none. -/
theorem sets_of_foldlM (h : document.foldlM assign? s = some s') {key : Text}
    {value otherwise : Toml.Value} (hvalue : s'.value? key = some value)
    (hotherwise : s.value? key = some otherwise) : Sets document key value otherwise := by
  induction document generalizing s otherwise with
  | nil =>
      cases h
      rw [hvalue] at hotherwise
      exact .inr ⟨List.not_mem_nil, Option.some.inj hotherwise⟩
  | cons entry later ih =>
      rw [List.foldlM_cons] at h
      obtain ⟨next, hnext, hlater⟩ := Option.bind_eq_some_iff.1 h
      have hstep := value?_of_assign? hnext key
      by_cases hkey : key = entry.1
      · -- What this assignment sets is kept, unless a later one sets it again.
        rw [if_pos hkey] at hstep
        obtain hmem | ⟨-, rfl⟩ := ih hlater hstep
        · exact .inl (List.mem_cons_of_mem entry hmem)
        · exact .inl (hkey ▸ List.mem_cons_self)
      · rw [if_neg hkey, hotherwise] at hstep
        obtain hmem | ⟨habsent, hsame⟩ := ih hlater hstep
        · exact .inl (List.mem_cons_of_mem entry hmem)
        · exact .inr ⟨by simpa [hkey] using habsent, hsame⟩

theorem assignedBy_of_ofDocument? (h : ofDocument? document = some s) : AssignedBy document s where
  sensitiveFile := sets_of_foldlM h rfl rfl
  insensitiveFile := sets_of_foldlM h rfl rfl
  createDefaults := sets_of_foldlM h rfl rfl

/-- A key that is assigned once has one value. -/
theorem Sets.unique {key : Text} {value value' otherwise : Toml.Value}
    (hkeys : (document.map Prod.fst).Nodup) (h : Sets document key value otherwise)
    (h' : Sets document key value' otherwise) : value = value' := by
  obtain hmem | ⟨habsent, rfl⟩ := h
  · obtain hmem' | ⟨habsent', rfl⟩ := h'
    · have hpair := List.inj_on_of_nodup_map hkeys hmem hmem' rfl
      exact congrArg Prod.snd hpair
    · exact absurd (List.mem_map_of_mem hmem) habsent'
  · obtain hmem' | ⟨habsent', rfl⟩ := h'
    · exact absurd (List.mem_map_of_mem hmem') habsent
    · rfl

theorem AssignedBy.unique (hkeys : (document.map Prod.fst).Nodup) (h : AssignedBy document s)
    (h' : AssignedBy document s') : s = s' := by
  have hsensitive := h.sensitiveFile.unique hkeys h'.sensitiveFile
  have hinsensitive := h.insensitiveFile.unique hkeys h'.insensitiveFile
  have hswitch := h.createDefaults.unique hkeys h'.createDefaults
  cases s
  cases s'
  simp_all

theorem ofDocument?_eq_some_iff (hkeys : (document.map Prod.fst).Nodup) :
    ofDocument? document = some s ↔
      (∀ entry ∈ document, Allowed entry) ∧ AssignedBy document s := by
  have hrefused : ofDocument? document = none ↔ ∃ entry ∈ document, ¬ Allowed entry := by
    simp only [ofDocument?_eq_none_iff, refused_iff_not_allowed]
  constructor
  · intro h
    refine ⟨fun entry hmem => ?_, assignedBy_of_ofDocument? h⟩
    by_contra hnot
    rw [hrefused.2 ⟨entry, hmem, hnot⟩] at h
    cases h
  · rintro ⟨hallowed, hassigned⟩
    cases hfound : ofDocument? document with
    | none =>
        obtain ⟨entry, hmem, hnot⟩ := hrefused.1 hfound
        exact absurd (hallowed entry hmem) hnot
    | some found => rw [(assignedBy_of_ofDocument? hfound).unique hkeys hassigned]

/-! ## Written documents -/

variable {content : Text}

theorem ofText_eq_ok_iff (h : Toml.Writes document content) :
    ofText p content = .ok s ↔ Acceptable document ∧ AssignedBy document s := by
  have hparse : ofText p content = .ok s ↔ parse? content = some s := by
    unfold ofText
    cases parse? content with
    | none => simp
    | some found => simp
  rw [hparse, parse?_eq_some_iff, Toml.parse?_of_writes h]
  by_cases honce : (document.map Prod.fst).Nodup
  · simp only [if_pos honce, Option.some.injEq, exists_eq_left', ofDocument?_eq_some_iff honce]
    exact ⟨fun ⟨hallowed, hassigned⟩ => ⟨⟨honce, hallowed⟩, hassigned⟩,
      fun ⟨haccept, hassigned⟩ => ⟨haccept.allowed, hassigned⟩⟩
  · simp only [if_neg honce, reduceCtorEq, false_and, exists_false, false_iff, not_and]
    exact fun haccept => absurd haccept.once honce

theorem exists_ofText_eq_ok (h : Toml.Writes document content) (haccept : Acceptable document) :
    ∃ s, ofText p content = .ok s := by
  cases hfound : ofDocument? document with
  | none =>
      obtain ⟨entry, hmem, hrefused⟩ := ofDocument?_eq_none_iff.1 hfound
      exact absurd (haccept.allowed entry hmem) (refused_iff_not_allowed.1 hrefused)
  | some s => exact ⟨s, (ofText_eq_ok_iff h).2 ⟨haccept, assignedBy_of_ofDocument? hfound⟩⟩

theorem ofText_eq_error (h : Toml.Writes document content) (hnot : ¬ Acceptable document) :
    ofText p content = .error (.settings p) := by
  cases hparse : parse? content with
  | none => rw [ofText, hparse]
  | some s =>
      have hok : ofText p content = .ok s := by rw [ofText, hparse]
      exact absurd ((ofText_eq_ok_iff h).1 hok).1 hnot

theorem Sets.perm {key : Text} {value otherwise : Toml.Value} {document' : Toml.Document}
    (hperm : document.Perm document') (h : Sets document key value otherwise) :
    Sets document' key value otherwise := by
  obtain hmem | ⟨habsent, hsame⟩ := h
  · exact .inl (hperm.mem_iff.1 hmem)
  · exact .inr ⟨fun hmem => habsent ((hperm.map Prod.fst).mem_iff.2 hmem), hsame⟩

theorem AssignedBy.perm {document' : Toml.Document} (hperm : document.Perm document')
    (h : AssignedBy document s) : AssignedBy document' s :=
  ⟨h.sensitiveFile.perm hperm, h.insensitiveFile.perm hperm, h.createDefaults.perm hperm⟩

theorem Acceptable.perm {document' : Toml.Document} (hperm : document.Perm document')
    (h : Acceptable document) : Acceptable document' :=
  ⟨(hperm.map Prod.fst).nodup_iff.1 h.once,
    fun entry hmem => h.allowed entry (hperm.mem_iff.2 hmem)⟩

/-- The order of the lines plays no part. -/
theorem ofText_perm {document' : Toml.Document} {content' : Text} (hperm : document.Perm document')
    (h : Toml.Writes document content) (h' : Toml.Writes document' content') :
    ofText p content = ofText p content' := by
  by_cases haccept : Acceptable document
  · obtain ⟨s, hs⟩ := exists_ofText_eq_ok (p := p) h haccept
    have hassigned := ((ofText_eq_ok_iff h).1 hs).2
    rw [hs, (ofText_eq_ok_iff h').2 ⟨haccept.perm hperm, hassigned.perm hperm⟩]
  · have hnot : ¬ Acceptable document' := fun h => haccept (h.perm hperm.symm)
    rw [ofText_eq_error h haccept, ofText_eq_error h' hnot]

/-- **Settings are read exactly as they are written, in any order.** Every list of assignments to keys
that need no quotes can be written, one to a line. However it is written, it is read as settings
exactly if no key is assigned twice and every assignment is allowed; the settings are then those that
are assigned, and the default ones for the keys that are absent. Otherwise the error names the
settings file. The same assignments in another order are read alike. -/
theorem written_settings_read_in_any_order (p : Path) {document : Toml.Document}
    (hkeys : ∀ entry ∈ document, Toml.IsBareKey entry.1) :
    Toml.Writes document (Toml.spell document) ∧
      ∀ content, Toml.Writes document content →
        ((∃ s, ofText p content = .ok s) ↔ Acceptable document) ∧
        (∀ s, ofText p content = .ok s ↔ Acceptable document ∧ AssignedBy document s) ∧
        (¬ Acceptable document → ofText p content = .error (.settings p)) ∧
        ∀ document' content', document.Perm document' → Toml.Writes document' content' →
          ofText p content = ofText p content' := by
  refine ⟨Toml.writes_spell hkeys, fun content h => ⟨⟨?_, exists_ofText_eq_ok h⟩, ?_, ?_, ?_⟩⟩
  · rintro ⟨s, hs⟩
    exact ((ofText_eq_ok_iff h).1 hs).1
  · exact fun s => ofText_eq_ok_iff h
  · exact ofText_eq_error h
  · exact fun document' content' hperm h' => ofText_perm hperm h h'

/-- Two assignments, the second of which needs every kind of escape. -/
def escapedName : Toml.Document :=
  [(createDefaultsKey, .flag false), (sensitiveKey, .text ['é', '"', '\\', '\x1f'])]

/-- The name of the other file is the default one, in either order of the lines; the same lines twice
are no settings. -/
theorem written_settings_read_with_escapes :
    (∀ entry ∈ escapedName, Toml.IsBareKey entry.1) ∧ escapedName.Perm escapedName.reverse ∧
      Toml.spell escapedName.reverse
        = "sensitive-file = \"é\\\"\\\\\\u001f\"\ncreate-defaults = false\n".toList ∧
      ofText "settings".toList (Toml.spell escapedName.reverse)
        = .ok ⟨['é', '"', '\\', '\x1f'], "rules-case-insensitive.txt".toList, false⟩ ∧
      ¬ Acceptable (escapedName ++ escapedName) ∧
      ofText "settings".toList (Toml.spell (escapedName ++ escapedName))
        = .error (.settings "settings".toList) := by
  have hkeys : ∀ entry ∈ escapedName, Toml.IsBareKey entry.1 := by decide
  have hkeys' : ∀ entry ∈ escapedName.reverse, Toml.IsBareKey entry.1 :=
    fun entry hentry => hkeys entry (List.mem_reverse.1 hentry)
  have hperm : escapedName.Perm escapedName.reverse := (List.reverse_perm escapedName).symm
  obtain ⟨hwrites, hread⟩ := written_settings_read_in_any_order "settings".toList hkeys
  obtain ⟨hwrites', -⟩ := written_settings_read_in_any_order "settings".toList hkeys'
  obtain ⟨-, hok, -, hsame⟩ := hread _ hwrites
  have haccept : Acceptable escapedName :=
    ⟨by decide, List.forall_mem_cons.2 ⟨.createDefaults false,
      List.forall_mem_singleton.2 (.sensitiveFile _)⟩⟩
  have hkeys₂ : ∀ entry ∈ escapedName ++ escapedName, Toml.IsBareKey entry.1 :=
    fun entry hentry => hkeys entry (or_self_iff.1 (List.mem_append.1 hentry))
  have hnot : ¬ Acceptable (escapedName ++ escapedName) := fun h => absurd h.once (by decide)
  obtain ⟨hwrites₂, hread₂⟩ := written_settings_read_in_any_order "settings".toList hkeys₂
  refine ⟨hkeys, hperm, by decide, ?_, hnot, (hread₂ _ hwrites₂).2.2.1 hnot⟩
  rw [← hsame _ _ hperm hwrites', hok]
  exact ⟨haccept, .inl (by decide), .inr ⟨by decide, rfl⟩, .inl (by decide)⟩

end Phrasebook.Settings
