import Phrasebook.Proofs.CommandLine.Stream
import Phrasebook.Proofs.Rulebook.LineFeeds

/-!
# The number of lines put out

Messages are lines, and the rules of rule files stay on the line. So a stream puts out one line for
each message that is not the token, and a message on the command line comes out as one line, whatever
the rules are (`rules_put_in_no_line_feed`).
-/

set_option autoImplicit false

namespace Phrasebook.CommandLine

open Text (lineFeed)

/-! ## Counting lines -/

/-- The text is made of `n` lines, each of them ended. -/
def HasLines (n : Nat) (t : Text) : Prop :=
  ∃ ls : List Text, t = unlines ls ∧ ls.length = n ∧ ∀ l ∈ ls, lineFeed ∉ l

theorem HasLines.count_lineFeed {n : Nat} {t : Text} (h : HasLines n t) : t.count lineFeed = n := by
  obtain ⟨ls, rfl, rfl, hls⟩ := h
  induction ls with
  | nil => rfl
  | cons l later ih =>
      have hone : (l ++ [lineFeed]).count lineFeed = 1 := by
        rw [List.count_append, List.count_eq_zero.2 (hls l List.mem_cons_self)]
        rfl
      show (l ++ [lineFeed] ++ unlines later).count lineFeed = _
      rw [List.count_append, hone, ih fun m hm => hls m (List.mem_cons_of_mem l hm),
        List.length_cons, Nat.add_comm]

/-! ## Messages -/

theorem lineFeed_not_mem_of_mem_messagesIn {t message : Text} (h : message ∈ messagesIn t) :
    lineFeed ∉ message := by
  obtain ⟨piece, hpiece, rfl⟩ := List.mem_map.1 h
  have hmem : piece ∈ Text.pieces lineFeed t := by
    split at hpiece
    · exact (List.dropLast_sublist _).subset hpiece
    · exact hpiece
  have hsub : Text.dropTrailing Text.carriageReturn piece ⊆ piece := by
    intro c hc
    rw [Text.dropTrailing, List.mem_reverse] at hc
    exact List.mem_reverse.1 ((List.dropWhile_sublist _).subset hc)
  exact fun hc => Text.not_mem_of_mem_pieces hmem (hsub hc)

theorem lineFeed_not_mem_joinWith {words : List Text} (h : ∀ w ∈ words, lineFeed ∉ w) :
    lineFeed ∉ Text.joinWith [' '] words := by
  induction words using Text.joinWith.induct with
  | case1 => exact List.not_mem_nil
  | case2 w => exact h w List.mem_cons_self
  | case3 w later hlater ih =>
      rw [Text.joinWith]
      · simp only [List.mem_append, not_or]
        exact ⟨⟨h w List.mem_cons_self, by decide⟩, ih fun v hv => h v (List.mem_cons_of_mem w hv)⟩
      · exact hlater

/-! ## Commands -/

section

variable (fs : FileSystem) (loaded : LoadedSettings)

theorem hasLines_stream (token : Text) (input : Bytes) :
    HasLines (((inputLines input).map messageOf).countP (· ≠ token))
      (streamOutput fs loaded token input) := by
  rw [streamOutput_eq, map_messageOf_inputLines]
  refine ⟨_, rfl, by rw [List.length_map, List.countP_eq_length_filter], ?_⟩
  intro l hl
  obtain ⟨message, hmessage, rfl⟩ := List.mem_map.1 hl
  apply (Rulebook.staysOnLine_ofFiles (bootstrap fs loaded).1 loaded.rulePaths).apply
  exact lineFeed_not_mem_of_mem_messagesIn (List.mem_filter.1 hmessage).1

theorem hasLines_apply {words : List Text} (hwords : ∀ w ∈ words, lineFeed ∉ w) (input : Bytes) :
    HasLines 1 (runLoaded fs loaded input (.apply words)).output := by
  rw [output_apply]
  refine ⟨_, rfl, rfl, ?_⟩
  intro l hl
  rw [List.mem_singleton.1 hl]
  apply (Rulebook.staysOnLine_ofFiles (bootstrap fs loaded).1 loaded.rulePaths).apply
  exact lineFeed_not_mem_joinWith hwords

end

/-- **Rules put in no line feed.** The rules that are loaded from rule files, whatever these hold,
stay on the line; so do the rules in force after a reload, and after any history of operations, if
those before it and those that are published do. A message of one line that goes through such rules
comes out as one line. So a stream puts out exactly one line feed for each message that is not the
token, and a message of words without line feeds is put out as exactly one line. -/
theorem rules_put_in_no_line_feed :
    (∀ fs paths b, Rulebook.load fs paths = .ok b → b.StaysOnLine) ∧
    (∀ b : Rulebook, b.StaysOnLine → ∀ fs paths, (b.reload fs paths).book.StaysOnLine) ∧
    (∀ (b : Rulebook) history, b.StaysOnLine →
      (∀ next, .publish next ∈ history → next.StaysOnLine) → (b.afterAll history).StaysOnLine) ∧
    (∀ b : Rulebook, b.StaysOnLine → ∀ message, lineFeed ∉ message → lineFeed ∉ b.apply message) ∧
    (∀ fs loaded token input,
      HasLines (((inputLines input).map messageOf).countP (· ≠ token))
        (streamOutput fs loaded token input) ∧
      (streamOutput fs loaded token input).count lineFeed
        = ((inputLines input).map messageOf).countP (· ≠ token)) ∧
    (∀ fs loaded input words, (∀ w ∈ words, lineFeed ∉ w) →
      HasLines 1 (runLoaded fs loaded input (.apply words)).output) := by
  refine ⟨?_, ?_, ?_, ?_, ?_, ?_⟩
  · intro fs paths b h
    exact Rulebook.satisfies_load staysOnLine_rulesOfText h
  · intro b h fs paths
    exact h.reload staysOnLine_rulesOfText fs paths
  · intro b history h hhistory
    exact h.afterAll staysOnLine_rulesOfText hhistory
  · intro b h message hmessage
    exact h.apply hmessage
  · intro fs loaded token input
    have hlines := hasLines_stream fs loaded token input
    exact ⟨hlines, hlines.count_lineFeed⟩
  · intro fs loaded input words hwords
    exact hasLines_apply fs loaded hwords input

/-- Rule files that put what was matched back into the text, the first with line ends of two
characters. -/
def referring : FileSystem :=
  ⟨[(["a".toList], .file (Text.encode "\"?x\"===\"$0$$0\"\r\n\"no rule\"\r\n".toList)),
    (["b".toList], .file (Text.encode "\"*\"===\"<$0>\"".toList))], []⟩

/-- A star takes all of the line, also a carriage return, and its match is put in twice. -/
theorem rules_put_in_no_line_feed_by_references :
    ∃ b, Rulebook.load referring bareSettings.rulePaths = .ok b ∧ b.StaysOnLine ∧
      (b.reload Rulebook.halfReadable bareSettings.rulePaths).book.StaysOnLine ∧
      (∀ next, Operation.publish next ∈
          [.publish b, .reload Rulebook.halfReadable bareSettings.rulePaths] → next = b) ∧
      (b.afterAll [.publish b,
        .reload Rulebook.halfReadable bareSettings.rulePaths]).StaysOnLine ∧
      lineFeed ∉ "ax\ry".toList ∧ lineFeed ∉ b.apply "ax\ry".toList ∧
      (∀ w ∈ ["ax".toList, "\r".toList], lineFeed ∉ w) ∧
      HasLines 1
        (runLoaded referring bareSettings [] (.apply ["ax".toList, "\r".toList])).output := by
  obtain ⟨hload, hreload, hhistory, hmessage, -, hwords⟩ := rules_put_in_no_line_feed
  have hok : (Rulebook.load referring bareSettings.rulePaths).isOk = true := by decide +kernel
  obtain ⟨b, hb⟩ : ∃ b, Rulebook.load referring bareSettings.rulePaths = .ok b := by
    cases h : Rulebook.load referring bareSettings.rulePaths with
    | error e =>
        rw [h] at hok
        cases hok
    | ok b => exact ⟨b, rfl⟩
  have hstays := hload _ _ _ hb
  have hpublished : ∀ next, Operation.publish next ∈
      [.publish b, .reload Rulebook.halfReadable bareSettings.rulePaths] → next = b := by
    intro next hnext
    simpa using hnext
  have hline : lineFeed ∉ "ax\ry".toList := by decide
  have hplain : ∀ w ∈ ["ax".toList, "\r".toList], lineFeed ∉ w := by decide
  exact ⟨b, hb, hstays, hreload b hstays _ _, hpublished,
    hhistory b _ hstays fun next hnext => hpublished next hnext ▸ hstays, hline,
    hmessage b hstays _ hline, hplain, hwords _ _ _ _ hplain⟩

end Phrasebook.CommandLine
