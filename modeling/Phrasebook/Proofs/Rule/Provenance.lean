import Phrasebook.Proofs.Text.Cutting
import Phrasebook.Rule.Basic

/-!
# Where characters come from

Every character of a rewritten text was in the text before, or stands in the replacement of the rule
(`Rule.mem_of_mem_apply`). A template copies what it does not read as a reference, and a reference
gives the matched text or nothing.
-/

set_option autoImplicit false

namespace Phrasebook

open Wildcard

/-! ## Templates -/

namespace Template

/-- What a dollar sign leaves is the end of what follows it. -/
theorem afterDollar_suffix (t : Text) : (afterDollar t).2 <:+ t := by
  unfold afterDollar
  split
  · exact List.suffix_cons _ _
  · next rest =>
      split
      · next name later hsplit =>
          have hwhole := (Text.splitFirst?_eq_some_iff.1 hsplit).whole
          exact ⟨'\x7b' :: (name ++ ['\x7d']), by rw [hwhole]; rfl⟩
      · exact List.suffix_rfl
  · dsimp only
    split
    · exact List.suffix_rfl
    · exact List.dropWhile_suffix _

theorem reference_eq (name : Text) : reference name = .hole ∨ reference name = .literal [] := by
  rw [reference]
  split
  · exact .inl rfl
  · exact .inr rfl

/-- A dollar sign stands for itself, for the whole match, or for nothing. -/
theorem afterDollar_part (t : Text) :
    (afterDollar t).1 = .literal ['$'] ∨ (afterDollar t).1 = .hole ∨
      (afterDollar t).1 = .literal [] := by
  unfold afterDollar
  split
  · exact .inl rfl
  · split
    · exact .inr (reference_eq _)
    · exact .inl rfl
  · dsimp only
    split
    · exact .inl rfl
    · exact .inr (reference_eq _)

theorem mem_of_mem_fill {template matched : Text} {c : Char} (h : c ∈ fill template matched) :
    c ∈ template ∨ c ∈ matched := by
  induction template using parts.induct with
  | case1 =>
      rw [fill_nil] at h
      cases h
  | case2 rest _ ih =>
      -- A dollar sign, after which the parts go on in what it leaves.
      rw [fill_dollar] at h
      rcases List.mem_append.1 h with h | h
      · obtain hpart | hpart | hpart := afterDollar_part rest
        · rw [hpart] at h
          exact .inl (List.mem_singleton.1 h ▸ List.mem_cons_self)
        · rw [hpart] at h
          exact .inr h
        · rw [hpart] at h
          cases h
      · exact (ih h).imp_left fun hc =>
          List.mem_cons_of_mem _ ((afterDollar_suffix rest).subset hc)
  | case3 d rest hd ih =>
      rw [fill_cons hd] at h
      rcases List.mem_cons.1 h with rfl | h
      · exact .inl List.mem_cons_self
      · exact (ih h).imp_left (List.mem_cons_of_mem d)

end Template

/-! ## Rules -/

/-- What is not copied comes from an edited piece of the text. -/
theorem mem_of_mem_splice {edit : Text → Text} {position : Nat} {t : Text} {spans : List Span}
    {c : Char} (h : c ∈ splice edit position t spans) :
    c ∈ t ∨ ∃ matched, matched ⊆ t ∧ c ∈ edit matched := by
  induction spans generalizing position t with
  | nil => exact .inl h
  | cons s later ih =>
      have hdrop : t.drop (s.start - position) ⊆ t := List.drop_subset _ _
      simp only [splice, List.append_assoc, List.mem_append] at h
      rcases h with h | h | h
      · exact .inl (List.take_subset _ _ h)
      · exact .inr ⟨_, List.Subset.trans (List.take_subset _ _) hdrop, h⟩
      · rcases ih h with hc | ⟨matched, hmatched, hc⟩
        · exact .inl (hdrop (List.drop_subset _ _ hc))
        · have hlater : matched ⊆ t.drop (s.start - position) :=
            List.Subset.trans hmatched (List.drop_subset _ _)
          exact .inr ⟨matched, List.Subset.trans hlater hdrop, hc⟩

theorem Rule.mem_of_mem_apply {r : Rule} {t : Text} {c : Char} (h : c ∈ r.apply t) :
    c ∈ t ∨ c ∈ r.replacement := by
  rcases mem_of_mem_splice h with hc | ⟨matched, hmatched, hc⟩
  · exact .inl hc
  · rcases Template.mem_of_mem_fill hc with hc | hc
    · exact .inr hc
    · exact .inl (hmatched hc)

end Phrasebook
