import StackTape.Exchange.LineSource

namespace StackTape

/-!
# Readings

All that can be seen of a source is what it gives, one reading after the other.  The
bytes of a text give the same readings as its lines do: the line feed is a single byte
that occurs in the encoding of no other character, so cutting the bytes at it cuts the
text, and each piece decodes.
-/

namespace Text

/-- The bytes of the text in UTF-8. -/
def encode (text : Text) : List UInt8 :=
  text.flatMap String.utf8EncodeChar

@[simp] theorem encode_append
    (first second : Text) :
    encode (first ++ second) = encode first ++ encode second := by
  simp [encode]

/-- A line feed is one byte. -/
theorem encode_feed_cons
    (rest : Text) :
    encode ('\n' :: rest) = LineSource.feed :: encode rest := by
  simp [encode, String.utf8EncodeChar, LineSource.feed]

/-- No other character has that byte in it. -/
theorem feed_not_mem_utf8EncodeChar
    {c : Char}
    (other : c ≠ '\n') :
    LineSource.feed ∉ String.utf8EncodeChar c := by
  have unlike : c.val.toNat ≠ 10 :=
    fun same => other (Char.toNat_inj.1 same)
  have byte
      {value : Nat}
      (small : value < 256)
      (different : value ≠ 10) :
      LineSource.feed ≠ UInt8.ofNat value := by
    intro same
    have values := congrArg UInt8.toNat same
    rw [UInt8.toNat_ofNat_of_lt' small] at values
    exact different values.symm
  -- every byte of a longer encoding is at least 128
  simp only [String.utf8EncodeChar]
  split
  · simp only [List.mem_singleton]
    exact byte (by omega) unlike
  · split
    · simp only [List.mem_cons, List.not_mem_nil, or_false, not_or]
      exact ⟨byte (by omega) (by omega), byte (by omega) (by omega)⟩
    · split
      · simp only [List.mem_cons, List.not_mem_nil, or_false, not_or]
        exact ⟨byte (by omega) (by omega), byte (by omega) (by omega),
          byte (by omega) (by omega)⟩
      · simp only [List.mem_cons, List.not_mem_nil, or_false, not_or]
        exact ⟨byte (by omega) (by omega), byte (by omega) (by omega),
          byte (by omega) (by omega), byte (by omega) (by omega)⟩

theorem feed_not_mem_encode
    {text : Text}
    (noFeed : '\n' ∉ text) :
    LineSource.feed ∉ encode text := by
  simp only [encode, List.mem_flatMap, not_exists, not_and]
  intro c member
  exact feed_not_mem_utf8EncodeChar fun same => noFeed (same ▸ member)

end Text

namespace LineSource

@[simp] theorem decode?_encode
    (text : Text) :
    decode? text.encode = some text := by
  have decoded :
      text.encode.toByteArray.utf8Decode? = some (List.toArray text) :=
    List.utf8Decode?_utf8Encode
  rw [decode?, decoded]
  rfl

/-- The first line of bytes that hold a line feed. -/
theorem splitFeed_append_feed
    {line : List UInt8}
    (noFeed : feed ∉ line)
    (rest : List UInt8) :
    splitFeed (line ++ feed :: rest) = (line ++ [feed], rest) := by
  induction line with
  | nil =>
      simp [splitFeed]
  | cons byte others inductionHypothesis =>
      simp only [List.mem_cons, not_or] at noFeed
      simp [splitFeed, Ne.symm noFeed.1, inductionHypothesis noFeed.2]

/-- Bytes without a line feed are one line. -/
theorem splitFeed_of_not_mem
    {bytes : List UInt8}
    (noFeed : feed ∉ bytes) :
    splitFeed bytes = (bytes, []) := by
  induction bytes with
  | nil =>
      rfl
  | cons byte others inductionHypothesis =>
      simp only [List.mem_cons, not_or] at noFeed
      simp [splitFeed, Ne.symm noFeed.1, inductionHypothesis noFeed.2]

@[simp] theorem content_append_feed
    (line : Text) :
    content (line ++ ['\n']) = Text.dropCarriageReturn line := by
  simp [content]

theorem content_of_not_mem
    {line : Text}
    (noFeed : '\n' ∉ line) :
    content line = line := by
  have ends : line.getLast? ≠ some '\n' :=
    fun last => noFeed (List.mem_of_getLast? last)
  simp [content, ends]

/-- Reading a line of bytes that decodes. -/
theorem read_bytes
    {bytes line rest : List UInt8}
    {text : Text}
    (nonempty : bytes ≠ [])
    (split : splitFeed bytes = (line, rest))
    (decoded : decode? line = some text) :
    (LineSource.bytes bytes).read = (.line (content text), .bytes rest) := by
  cases bytes with
  | nil =>
      exact absurd rfl nonempty
  | cons first others =>
      simp [read, split, decoded]

/-- The bytes of a text give its first line and leave the bytes of the text behind it. -/
theorem read_encode_append_feed
    {line : Text}
    (noFeed : '\n' ∉ line)
    (rest : Text) :
    (LineSource.bytes (line ++ '\n' :: rest).encode).read =
      (.line (Text.dropCarriageReturn line), .bytes rest.encode) := by
  have shape :
      (line ++ '\n' :: rest).encode = line.encode ++ feed :: rest.encode := by
    rw [Text.encode_append, Text.encode_feed_cons]
  have decoded : decode? (line.encode ++ [feed]) = some (line ++ ['\n']) := by
    have whole := decode?_encode (line ++ ['\n'])
    rwa [Text.encode_append, Text.encode_feed_cons] at whole
  rw [read_bytes (by simp [shape])
    (shape ▸ splitFeed_append_feed (Text.feed_not_mem_encode noFeed) rest.encode)
    decoded, content_append_feed]

/-- The bytes of a line that no line feed ends give it whole. -/
theorem read_encode_of_not_mem
    {line : Text}
    (noFeed : '\n' ∉ line)
    (nonempty : line ≠ []) :
    (LineSource.bytes line.encode).read = (.line line, .bytes []) := by
  have some : line.encode ≠ [] := by
    intro none
    have decoded := decode?_encode line
    rw [none] at decoded
    exact nonempty (Option.some.inj (decoded.symm.trans (decode?_encode [])))
  rw [read_bytes some (splitFeed_of_not_mem (Text.feed_not_mem_encode noFeed))
    (decode?_encode line), content_of_not_mem noFeed]

/-! ## Sources that read alike -/

/-- The reading that the source gives after a number of others. -/
def reading : Nat → LineSource → Reading
  | 0, source =>
      source.read.1
  | count + 1, source =>
      reading count source.read.2

/-- The sources give the same readings for ever. -/
def ReadsAlike (first second : LineSource) : Prop :=
  ∀ count, first.reading count = second.reading count

/-- A source that reads alike gives the same now, and reads alike afterwards. -/
theorem ReadsAlike.read
    {first second : LineSource}
    (alike : ReadsAlike first second) :
    first.read.1 = second.read.1 ∧ ReadsAlike first.read.2 second.read.2 :=
  ⟨alike 0, fun count => alike (count + 1)⟩

/--
The bytes of a text and its lines give the same now, and leave the bytes and the lines of
one text.
-/
theorem read_encode_and_lines
    (text : Text) :
    ∃ rest : Text,
      (LineSource.bytes text.encode).read.1 = (ofText text).read.1 ∧
        (LineSource.bytes text.encode).read.2 = .bytes rest.encode ∧
        (ofText text).read.2 = ofText rest := by
  by_cases holdsFeed : '\n' ∈ text
  · obtain ⟨line, rest, rfl, noFeed⟩ := List.eq_append_cons_of_mem holdsFeed
    refine ⟨rest, ?_⟩
    rw [read_encode_append_feed noFeed, ofText, Text.lines_append_feed noFeed]
    exact ⟨rfl, rfl, rfl⟩
  · refine ⟨[], ?_⟩
    by_cases nonempty : text = []
    · subst nonempty
      exact ⟨rfl, rfl, rfl⟩
    · rw [read_encode_of_not_mem holdsFeed nonempty, ofText,
        Text.lines_of_not_mem holdsFeed nonempty]
      exact ⟨rfl, rfl, rfl⟩

/-- The bytes of a text read like its lines. -/
theorem readsAlike_encode
    (text : Text) :
    ReadsAlike (.bytes text.encode) (ofText text) := by
  intro count
  induction count generalizing text with
  | zero =>
      obtain ⟨rest, now, -, -⟩ := read_encode_and_lines text
      exact now
  | succ count inductionHypothesis =>
      obtain ⟨rest, -, bytes, lines⟩ := read_encode_and_lines text
      rw [reading, reading, bytes, lines]
      exact inductionHypothesis rest

end LineSource

end StackTape
