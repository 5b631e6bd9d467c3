import Phrasebook.Proofs.Files.Reading
import Phrasebook.Proofs.Text.Lines
import Phrasebook.Proofs.Text.Offset

/-!
# Entries of a directory, by path

A name that is joined to a path is one more step (`steps_join`). So the path of a directory, joined
with the name of an entry, leads to that entry, unless it is too long to be looked up
(`nodeAt?_join`). How long a path is depends on how it is written: dot components at the end of it
lead nowhere else (`locate?_dotted`), and a directory may be within reach under a path under which
no entry of it is.
-/

set_option autoImplicit false

namespace Phrasebook

namespace Path

variable {d p name : Path}

/-! ## The steps of a joined path -/

/-- What stands for an entry of a directory as the last component of a path. -/
structure IsName (name : Text) : Prop where
  /-- There is no empty component. -/
  nonempty : name ≠ []
  /-- A separator would make more than one component. -/
  whole : separator ∉ name
  /-- No path that holds a null character can be looked up. -/
  clean : '\x00' ∉ name

/-- The steps that the components of a path stand for, apart from a separator at its end. -/
def components (p : Path) : List Step :=
  ((Text.pieces separator p).filter fun c => !c.isEmpty).map Step.ofComponent

theorem steps_eq (p : Path) :
    steps p = components p ++ (if p.getLast? = some separator then [.stay] else []) := rfl

theorem components_append_cons (a b : Path) :
    components (a ++ separator :: b) = components a ++ components b := by
  simp only [components, Text.pieces_append_separator, List.filter_append, List.map_append]

theorem components_name (h : IsName name) : components name = [Step.ofComponent name] := by
  simp [components, Text.pieces_of_not_mem h.whole, h.nonempty]

theorem not_isAbsolute (h : IsName name) : isAbsolute name = false := by
  obtain ⟨c, rest, rfl⟩ := List.exists_cons_of_ne_nil h.nonempty
  have hc : c ≠ separator := fun hc => h.whole (by simp [hc])
  simpa [isAbsolute] using hc

/-- However the path of the directory ends, one separator stands before the name. -/
theorem exists_join_eq (hd : d ≠ []) (hname : IsName name) :
    ∃ a, join d name = a ++ separator :: name ∧ (d = a ∨ d = a ++ [separator]) := by
  rw [join, not_isAbsolute hname, if_neg Bool.false_ne_true]
  by_cases hlast : d.getLast? = some separator
  · obtain ⟨a, rfl⟩ := List.getLast?_eq_some_iff.1 hlast
    exact ⟨a, by simp, .inr rfl⟩
  · exact ⟨d, by simp [hd, hlast], .inl rfl⟩

theorem steps_join (hd : d ≠ []) (hname : IsName name) :
    steps (join d name) = components d ++ [Step.ofComponent name] := by
  obtain ⟨a, hjoin, hcases⟩ := exists_join_eq hd hname
  -- The joined path ends as the name does, so its last step is the one that the name stands for.
  have hlast : (a ++ separator :: name).getLast? ≠ some separator := by
    obtain ⟨c, hc⟩ := Option.isSome_iff_exists.1 (List.getLast?_isSome.2 hname.nonempty)
    rw [List.getLast?_append, List.getLast?_cons_of_ne_nil hname.nonempty, hc]
    rintro ⟨⟩
    exact hname.whole (List.mem_of_getLast? hc)
  have hsteps : steps (join d name) = components a ++ [Step.ofComponent name] := by
    rw [hjoin, steps_eq, if_neg hlast, List.append_nil, components_append_cons,
      components_name hname]
  rw [hsteps]
  obtain rfl | rfl := hcases
  · rfl
  · rw [components_append_cons]
    simp [components, Text.pieces]

theorem isAbsolute_join (hd : d ≠ []) (hname : IsName name) :
    isAbsolute (join d name) = isAbsolute d := by
  obtain ⟨a, hjoin, hcases⟩ := exists_join_eq hd hname
  rw [hjoin]
  obtain rfl | rfl := hcases
  · obtain ⟨c, rest, rfl⟩ := List.exists_cons_of_ne_nil hd
    rfl
  · simp [isAbsolute, List.head?_append]

/-- The name and the path are both part of the joined path. -/
theorem le_byteLength_join (hd : d ≠ []) (hname : IsName name) :
    Text.byteLength d + Text.byteLength name ≤ Text.byteLength (join d name) := by
  obtain ⟨a, hjoin, hcases⟩ := exists_join_eq hd hname
  have hone : Text.byteLength [separator] = 1 := by decide
  have hlength : Text.byteLength (join d name) = Text.byteLength a + 1 + Text.byteLength name := by
    rw [hjoin, List.append_cons, Text.byteLength_append, Text.byteLength_append, hone]
  obtain rfl | rfl := hcases
  · omega
  · rw [Text.byteLength_append, hone]
    exact Nat.le_of_eq hlength.symm

/-! ## Looking a joined path up -/

theorem isUsable_iff :
    isUsable p = true ↔ p ≠ [] ∧ '\x00' ∉ p ∧ Text.byteLength p ≤ maxLength := by
  simp [isUsable, and_assoc]

theorem isUsable_join (hd : isUsable d = true) (hname : IsName name) :
    isUsable (join d name) = true ↔ Text.byteLength (join d name) ≤ maxLength := by
  rw [isUsable_iff] at hd ⊢
  obtain ⟨a, hjoin, hcases⟩ := exists_join_eq hd.1 hname
  have ha : '\x00' ∉ a := by
    obtain rfl | rfl := hcases
    · exact hd.2.1
    · exact fun h => hd.2.1 (List.mem_append_left _ h)
  have hclean : '\x00' ∉ join d name := by
    rw [hjoin]
    simp [ha, hname.clean, separator]
  have hne : join d name ≠ [] := by simp [hjoin]
  exact ⟨fun h => h.2.2, fun h => ⟨hne, hclean, h⟩⟩

/-! ## Dot components -/

/-- A path with this number of dot components put at its end. -/
def dotted (p : Path) : Nat → Path
  | 0 => p
  | n + 1 => join (dotted p n) ['.']

theorem isName_dot : IsName ['.'] := ⟨by decide, by decide, by decide⟩

theorem dotted_succ (hp : p ≠ []) (hlast : p.getLast? ≠ some separator) (n : Nat) :
    dotted p (n + 1) = dotted p n ++ [separator, '.'] := by
  -- With this, joining puts in a separator every time.
  have hends : dotted p n ≠ [] ∧ (dotted p n).getLast? ≠ some separator := by
    induction n with
    | zero => exact ⟨hp, hlast⟩
    | succ n ih =>
        obtain ⟨a, hjoin, -⟩ := exists_join_eq ih.1 isName_dot
        rw [dotted, hjoin]
        exact ⟨by simp, by simp [separator]⟩
  rw [dotted, join, if_neg (by decide), if_neg (by simpa using hends)]

theorem prefix_dotted (hp : p ≠ []) (hlast : p.getLast? ≠ some separator) (n : Nat) :
    p <+: dotted p n := by
  induction n with
  | zero => exact List.prefix_rfl
  | succ n ih =>
      rw [dotted_succ hp hlast]
      exact ih.trans (List.prefix_append _ _)

theorem byteLength_dotted (hp : p ≠ []) (hlast : p.getLast? ≠ some separator) (n : Nat) :
    Text.byteLength (dotted p n) = Text.byteLength p + 2 * n := by
  have htwo : Text.byteLength [separator, '.'] = 2 := by decide
  induction n with
  | zero => rfl
  | succ n ih =>
      rw [dotted_succ hp hlast, Text.byteLength_append, ih, htwo]
      omega

end Path

namespace FileSystem

variable {fs : FileSystem} {l : Location} {d p : Path} {name : Text}

theorem isUsable_of_locate? (h : fs.locate? p = some l) : Path.isUsable p = true := by
  rw [locate?, Option.ite_none_right_eq_some] at h
  exact h.1

theorem walk?_concat_of_walk? {m : Location} {before : List Path.Step}
    (h : fs.walk? l before = some m) (s : Path.Step) :
    fs.walk? l (before ++ [s]) = fs.follow? m s := by
  ext k
  rw [walk?_concat, h]
  simp

/-- A separator at the end of a path leads nowhere else. -/
theorem walk?_components (h : fs.locate? p = some l) :
    fs.walk? (fs.origin p) (Path.components p) = some l := by
  rw [locate?, Option.ite_none_right_eq_some, Path.steps_eq] at h
  obtain ⟨-, hwalk⟩ := h
  split at hwalk
  · obtain ⟨k, hk, hstay⟩ := walk?_concat.1 hwalk
    rw [hk, (follow?_stay.1 hstay).2]
  · simpa using hwalk

theorem locate?_join (hd : fs.locate? d = some l) (hname : Path.IsName name) :
    fs.locate? (Path.join d name) =
      if Text.byteLength (Path.join d name) ≤ Path.maxLength
      then fs.follow? l (Path.Step.ofComponent name) else none := by
  have husable := isUsable_of_locate? hd
  have hne : d ≠ [] := (Path.isUsable_iff.1 husable).1
  have horigin : fs.origin (Path.join d name) = fs.origin d := by
    rw [origin, origin, Path.isAbsolute_join hne hname]
  rw [locate?, horigin, Path.steps_join hne hname, walk?_concat_of_walk? (walk?_components hd)]
  simp only [Path.isUsable_join husable hname]

/-- **An entry by path.** The path of a directory joined with a name names the entry of that name,
unless it is too long: then it names nothing, even if the entry is there. -/
theorem nodeAt?_join (hd : fs.locate? d = some l) (hdirectory : fs.node? l = some .directory)
    (hname : Path.IsName name) (hdown : Path.Step.ofComponent name = .down name) :
    fs.nodeAt? (Path.join d name) =
      if Text.byteLength (Path.join d name) ≤ Path.maxLength then fs.node? (l ++ [name])
      else none := by
  rw [nodeAt?, locate?_join hd hname, hdown]
  by_cases hlength : Text.byteLength (Path.join d name) ≤ Path.maxLength
  · rw [if_pos hlength, if_pos hlength]
    cases hnode : fs.node? (l ++ [name]) with
    | none => simp [follow?, hdirectory, hnode]
    | some n => simp [follow?, hdirectory, hnode]
  · rw [if_neg hlength, if_neg hlength]

/-- Dot components at the end of the path of a directory lead nowhere else. -/
theorem locate?_dotted (hd : fs.locate? d = some l) (hdirectory : fs.node? l = some .directory)
    (hlast : d.getLast? ≠ some Path.separator) {n : Nat}
    (hn : Text.byteLength d + 2 * n ≤ Path.maxLength) : fs.locate? (Path.dotted d n) = some l := by
  have hne : d ≠ [] := (Path.isUsable_iff.1 (isUsable_of_locate? hd)).1
  induction n with
  | zero => exact hd
  | succ n ih =>
      have hbefore : fs.locate? (Path.dotted d n) = some l := ih (by omega)
      have hlength : Text.byteLength (Path.dotted d (n + 1)) ≤ Path.maxLength := by
        rw [Path.byteLength_dotted hne hlast]
        exact hn
      rw [Path.dotted] at hlength ⊢
      rw [locate?_join hbefore Path.isName_dot, if_pos hlength]
      exact follow?_stay.2 ⟨hdirectory, rfl⟩

/-- No text can be read under a path that cannot be looked up. -/
theorem readText?_of_too_long (h : Path.maxLength < Text.byteLength p) : fs.readText? p = none := by
  have husable : ¬ Path.isUsable p = true := by
    rw [Path.isUsable_iff]
    omega
  refine readText?_eq_none_iff.2 (.missing ?_)
  rw [nodeAt?, locate?, if_neg husable]

end FileSystem

end Phrasebook
