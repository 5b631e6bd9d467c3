import Phrasebook.CommandLine.Run
import Phrasebook.Proofs.Rulebook.Reloading
import Phrasebook.Proofs.Text.Lines
import Phrasebook.Proofs.Text.Utf8

/-!
# Streams, line by line

A stream takes its lines off the bytes and then reads each of them by itself. It could as well read
all bytes first and cut the text (`map_messageOf_inputLines`), since reading goes on afresh after
each line feed. While the files stay as they are, a reload changes nothing, so that every message
goes through the same rulebook (`streamAll_output`). So what a stream puts out is a function of each
line by itself (`stream_rewrites_each_line`).
-/

set_option autoImplicit false

namespace Phrasebook.CommandLine

open Text (lineFeed lineFeedByte carriageReturn pieces dropTrailing decodeLossy)

/-! ## Messages -/

/-- The messages in a text: what stands between line feeds, and after the last one if that is not
empty, without the carriage returns at the end. -/
def messagesIn (t : Text) : List Text :=
  let ps := pieces lineFeed t
  (if ps.getLast? = some [] then ps.dropLast else ps).map (dropTrailing carriageReturn)

theorem messagesIn_of_not_mem {t : Text} (h : lineFeed ∉ t) :
    messagesIn t = if t = [] then [] else [dropTrailing carriageReturn t] := by
  rw [messagesIn, Text.pieces_of_not_mem h]
  by_cases ht : t = []
  · simp [ht]
  · simp [ht]

theorem messagesIn_append_lineFeed {a : Text} (ha : lineFeed ∉ a) (b : Text) :
    messagesIn (a ++ lineFeed :: b) = dropTrailing carriageReturn a :: messagesIn b := by
  obtain ⟨piece, more, hb, -⟩ := Text.pieces_cons lineFeed lineFeed b
  rw [messagesIn, messagesIn, Text.pieces_append_cons ha, hb, List.getLast?_cons_cons,
    List.dropLast_cons_cons]
  split
  · rfl
  · rfl

/-- After a line feed the messages are those of what comes after it. -/
theorem messagesIn_append (a b : Text) :
    messagesIn (a ++ lineFeed :: b) = messagesIn (a ++ [lineFeed]) ++ messagesIn b := by
  induction a using Text.separator_induction lineFeed with
  | last a ha =>
      rw [messagesIn_append_lineFeed ha, messagesIn_append_lineFeed ha]
      rfl
  | next a rest ha ih =>
      rw [List.append_assoc, List.append_assoc, List.cons_append, List.cons_append,
        messagesIn_append_lineFeed ha, messagesIn_append_lineFeed ha, ih]
      rfl

/-- **Lines of bytes are lines of text.** -/
theorem map_messageOf_inputLines (input : Bytes) :
    (inputLines input).map messageOf = messagesIn (decodeLossy input) := by
  have hmessage : ∀ a : Bytes, lineFeedByte ∉ a →
      dropTrailing lineFeed (decodeLossy a) = decodeLossy a :=
    fun a ha => Text.dropTrailing_of_not_mem (Text.lineFeed_not_mem_decodeLossy ha)
  induction input using Text.separator_induction lineFeedByte with
  | last a ha =>
      rw [messagesIn_of_not_mem (Text.lineFeed_not_mem_decodeLossy ha)]
      by_cases hnil : a = []
      · subst hnil
        rfl
      · rw [if_neg (fun h => hnil (Text.decodeLossy_eq_nil_iff.1 h)), inputLines,
          Text.endedPieces_of_not_mem ha hnil, List.map_singleton, messageOf, hmessage a ha]
  | next a rest ha ih =>
      -- The line feed is read after the line and dropped again.
      have hline : messageOf (a ++ [lineFeedByte]) = dropTrailing carriageReturn (decodeLossy a) := by
        rw [messageOf, Text.decodeLossy_append_lineFeed]
        show dropTrailing carriageReturn (dropTrailing lineFeed (decodeLossy a ++ [lineFeed])) = _
        rw [Text.dropTrailing_concat, hmessage a ha]
      rw [inputLines, Text.endedPieces_append_cons ha, List.map_cons, hline,
        Text.decodeLossy_append_lineFeed,
        messagesIn_append_lineFeed (Text.lineFeed_not_mem_decodeLossy ha), ← ih]
      rfl

/-! ## The rulebook in force -/

/-- **One message.** If a reload changes nothing, then the rulebook stays in force, and what a
message puts out is nothing or the message as the rules leave it. -/
theorem streamStep_output {fs : FileSystem} {paths : RulePaths} {b : Rulebook}
    (hb : (b.reload fs paths).book = b) (token message : Text) :
    (streamStep fs paths token b message).1 = b ∧
      (streamStep fs paths token b message).2.1
        = if message = token then [] else unlines [b.apply message] := by
  rw [streamStep]
  split
  · exact ⟨hb, rfl⟩
  · exact ⟨rfl, rfl⟩

theorem unlines_append (ls ms : List Text) : unlines (ls ++ ms) = unlines ls ++ unlines ms :=
  List.flatMap_append

/-- **All messages.** -/
theorem streamAll_output {fs : FileSystem} {paths : RulePaths} {b : Rulebook}
    (hb : (b.reload fs paths).book = b) (token : Text) (messages : List Text) :
    (streamAll fs paths token b messages).1
      = unlines ((messages.filter (· ≠ token)).map b.apply) := by
  induction messages with
  | nil => rfl
  | cons message later ih =>
      obtain ⟨hnext, hshown⟩ := streamStep_output hb token message
      show (streamStep fs paths token b message).2.1 ++
        (streamAll fs paths token (streamStep fs paths token b message).1 later).1 = _
      rw [hnext, hshown, ih]
      by_cases htoken : message = token
      · rw [if_pos htoken, List.filter_cons_of_neg (by simpa using htoken)]
        rfl
      · rw [if_neg htoken, List.filter_cons_of_pos (by simpa using htoken), List.map_cons,
          ← unlines_append]
        rfl

/-! ## The command -/

/-- What a stream puts on standard output. -/
def streamOutput (fs : FileSystem) (loaded : LoadedSettings) (token : Text) (input : Bytes) : Text :=
  (runLoaded fs loaded input (.stream token)).output

/-- Every line is ended by a line feed. -/
def EndsLine (input : Bytes) : Prop := input = [] ∨ ∃ front, input = front ++ [lineFeedByte]

section

variable (fs : FileSystem) (loaded : LoadedSettings) (token : Text)

theorem book_firstLoad : (firstLoad fs loaded).book = Rulebook.ofFiles fs loaded.rulePaths :=
  Rulebook.reload_nothing fs loaded.rulePaths

/-- What `apply` puts on standard output. -/
theorem output_apply (words : List Text) (input : Bytes) :
    (runLoaded fs loaded input (.apply words)).output =
      unlines [(Rulebook.ofFiles (bootstrap fs loaded).1 loaded.rulePaths).apply
        (Text.joinWith [' '] words)] := by
  show unlines [(firstLoad (bootstrap fs loaded).1 loaded).book.apply _] = _
  rw [book_firstLoad]

theorem streamOutput_eq (input : Bytes) :
    streamOutput fs loaded token input =
      unlines (((messagesIn (decodeLossy input)).filter (· ≠ token)).map
        (Rulebook.ofFiles (bootstrap fs loaded).1 loaded.rulePaths).apply) := by
  show (streamAll (bootstrap fs loaded).1 loaded.rulePaths token
    (firstLoad (bootstrap fs loaded).1 loaded).book ((inputLines input).map messageOf)).1 = _
  rw [book_firstLoad, streamAll_output (Rulebook.reload_ofFiles _ _), map_messageOf_inputLines]

/-- What comes after the end of a line is put out as if it stood alone. -/
theorem streamOutput_append {before : Bytes} (hbefore : EndsLine before) (after : Bytes) :
    streamOutput fs loaded token (before ++ after)
      = streamOutput fs loaded token before ++ streamOutput fs loaded token after := by
  obtain rfl | ⟨front, rfl⟩ := hbefore
  · rfl
  · have hmessages : messagesIn (decodeLossy (front ++ [lineFeedByte] ++ after))
        = messagesIn (decodeLossy (front ++ [lineFeedByte])) ++ messagesIn (decodeLossy after) := by
      rw [List.append_assoc, List.singleton_append, Text.decodeLossy_append_lineFeed,
        Text.decodeLossy_append_lineFeed, messagesIn_append]
      rfl
    rw [streamOutput_eq, streamOutput_eq, streamOutput_eq, hmessages, List.filter_append,
      List.map_append, unlines_append]

/-- A line that is the token puts out nothing. -/
theorem streamOutput_token {line : Bytes} (hline : lineFeedByte ∉ line)
    (htoken : dropTrailing carriageReturn (decodeLossy line) = token) :
    streamOutput fs loaded token (line ++ [lineFeedByte]) = [] := by
  rw [streamOutput_eq, Text.decodeLossy_append_lineFeed,
    messagesIn_append_lineFeed (Text.lineFeed_not_mem_decodeLossy hline), htoken,
    List.filter_cons_of_neg (by simp)]
  rfl

/-- The last line need not be ended. -/
theorem streamOutput_concat {input : Bytes} (hinput : ¬ EndsLine input) :
    streamOutput fs loaded token (input ++ [lineFeedByte]) = streamOutput fs loaded token input := by
  have hmessages : messagesIn (decodeLossy (input ++ [lineFeedByte]))
      = messagesIn (decodeLossy input) := by
    induction input using Text.separator_induction lineFeedByte with
    | last a ha =>
        have hne : decodeLossy a ≠ [] := fun h =>
          hinput (.inl (Text.decodeLossy_eq_nil_iff.1 h))
        have hfree := Text.lineFeed_not_mem_decodeLossy ha
        rw [Text.decodeLossy_append_lineFeed, messagesIn_append_lineFeed hfree,
          messagesIn_of_not_mem hfree, if_neg hne]
        rfl
    | next a rest ha ih =>
        have hrest : ¬ EndsLine rest := by
          rintro (rfl | ⟨front, rfl⟩)
          · exact hinput (.inr ⟨a, rfl⟩)
          · exact hinput (.inr ⟨a ++ lineFeedByte :: front, by simp⟩)
        have hfree := Text.lineFeed_not_mem_decodeLossy ha
        rw [List.append_assoc, List.cons_append,
          Text.decodeLossy_append_lineFeed a (rest ++ [lineFeedByte]),
          Text.decodeLossy_append_lineFeed a rest, messagesIn_append_lineFeed hfree,
          messagesIn_append_lineFeed hfree, ih hrest]
  rw [streamOutput_eq, streamOutput_eq, hmessages]

/-- **A stream rewrites each line by itself.** It ends well and leaves the files as they were made at
the start. Its output is that of the messages in the whole input, read as one text, without those
that are the token: each one rewritten by the rules at the start, and ended by a line feed. So a line
that is ended has no influence on what comes after it, whatever its bytes are; a line that is the
token can be put in and taken out anywhere; and the last line need not be ended. -/
theorem stream_rewrites_each_line :
    (∀ input, (runLoaded fs loaded input (.stream token)).code = 0 ∧
      (runLoaded fs loaded input (.stream token)).files = (bootstrap fs loaded).1 ∧
      streamOutput fs loaded token input =
        unlines (((messagesIn (decodeLossy input)).filter (· ≠ token)).map
          (Rulebook.ofFiles (bootstrap fs loaded).1 loaded.rulePaths).apply)) ∧
    (∀ before after, EndsLine before →
      streamOutput fs loaded token (before ++ after)
        = streamOutput fs loaded token before ++ streamOutput fs loaded token after) ∧
    (∀ before line after, EndsLine before → lineFeedByte ∉ line →
      dropTrailing carriageReturn (decodeLossy line) = token →
      streamOutput fs loaded token (before ++ (line ++ [lineFeedByte]) ++ after)
        = streamOutput fs loaded token (before ++ after)) ∧
    (∀ input, ¬ EndsLine input →
      streamOutput fs loaded token (input ++ [lineFeedByte]) = streamOutput fs loaded token input) := by
  refine ⟨fun input => ⟨rfl, rfl, streamOutput_eq fs loaded token input⟩,
    fun before after hbefore => streamOutput_append fs loaded token hbefore after, ?_,
    fun input hinput => streamOutput_concat fs loaded token hinput⟩
  intro before line after hbefore hline htoken
  have hended : EndsLine (line ++ [lineFeedByte]) := .inr ⟨line, rfl⟩
  calc streamOutput fs loaded token (before ++ (line ++ [lineFeedByte]) ++ after)
      = streamOutput fs loaded token before ++
          (streamOutput fs loaded token (line ++ [lineFeedByte]) ++
            streamOutput fs loaded token after) := by
        rw [List.append_assoc, streamOutput_append fs loaded token hbefore,
          streamOutput_append fs loaded token hended]
    _ = streamOutput fs loaded token before ++ streamOutput fs loaded token after := by
        rw [streamOutput_token fs loaded token hline htoken, List.nil_append]
    _ = streamOutput fs loaded token (before ++ after) :=
        (streamOutput_append fs loaded token hbefore after).symm

end

/-- Settings by which the rules are in the files `a` and `b` of the root, and none are made. -/
def bareSettings : LoadedSettings := ⟨⟨"a".toList, "b".toList, false⟩, "/".toList, none⟩

/-- A character that is cut off at the end of its line, a token with a carriage return of its own
after it, and a last line that is not ended and begins with such a character. Only one of the rule
files can be read. -/
theorem stream_rewrites_around_token :
    EndsLine [0x78, 0xE2, 0x82, lineFeedByte] ∧
      lineFeedByte ∉ Text.encode "/reload\r".toList ∧
      dropTrailing carriageReturn (decodeLossy (Text.encode "/reload\r".toList))
        = "/reload".toList ∧
      ¬ EndsLine [0xE2, 0x78] ∧
      streamOutput Rulebook.halfReadable bareSettings "/reload".toList
          ([0x78, 0xE2, 0x82, lineFeedByte] ++ (Text.encode "/reload\r".toList ++ [lineFeedByte]) ++
            [0xE2, 0x78])
        = "y\ufffd\n\ufffdy\n".toList ∧
      streamOutput Rulebook.halfReadable bareSettings "/reload".toList ([0xE2, 0x78] ++ [lineFeedByte])
        = "\ufffdy\n".toList := by
  obtain ⟨heach, happend, htoken, hlast⟩ :=
    stream_rewrites_each_line Rulebook.halfReadable bareSettings "/reload".toList
  have hended : EndsLine [0x78, 0xE2, 0x82, lineFeedByte] := .inr ⟨[0x78, 0xE2, 0x82], rfl⟩
  have hopen : ¬ EndsLine [0xE2, 0x78] := by
    rintro (h | ⟨front, h⟩)
    · cases h
    · have hend := congrArg List.getLast? h
      rw [List.getLast?_concat] at hend
      exact absurd hend (by decide)
  have hline : lineFeedByte ∉ Text.encode "/reload\r".toList := by decide
  have hmessage : dropTrailing carriageReturn (decodeLossy (Text.encode "/reload\r".toList))
      = "/reload".toList := by decide
  refine ⟨hended, hline, hmessage, hopen, ?_, ?_⟩
  · rw [htoken _ _ _ hended hline hmessage, happend _ _ hended, (heach _).2.2, (heach _).2.2]
    decide +kernel
  · rw [hlast _ hopen, (heach _).2.2]
    decide +kernel

end Phrasebook.CommandLine
