import DistributedLighting.SerialStream

namespace DistributedLighting

/-!
# Command lines and messages over TCP

Client and server send a text as its bytes and a NUL, and read with
`async_read_some` into a fixed buffer, from which they take the C string that it
begins with.  TCP keeps the bytes but not the texts: what a read delivers may be
a part of a text, or several.
-/

/-- The size of `recevied`. -/
def bufferSize : Nat := 1024

/-- One completion of `async_read_some`. -/
structure Completion where
  err : Bool
  data : List Byte
  fits : data.length ≤ bufferSize

/-- The buffer `recevied`, which keeps what earlier reads have left. -/
structure TcpReader where
  recevied : List Byte
  sized : recevied.length = bufferSize

/-- `std::string(const char*)`: the bytes up to the first NUL, if there is one. -/
def cString (memory : List Byte) : Option (List Byte) :=
  if 0 ∈ memory then
    some (memory.takeWhile fun byte => byte ≠ 0)
  else
    none

/-- What `async_write` sends of a text: `c_str()` with `size() + 1` bytes. -/
def transmitted (text : List Byte) : List Byte :=
  text ++ [0]

/-- The bytes of several texts on the connection. -/
def stream (texts : List (List Byte)) : List Byte :=
  texts.flatMap transmitted

namespace TcpReader

/-- A read overwrites the beginning of the buffer. -/
def fill
    (reader : TcpReader)
    (completion : Completion) : TcpReader where
  recevied :=
    completion.data ++ reader.recevied.drop completion.data.length
  sized := by
    rw [List.length_append, List.length_drop, reader.sized]
    exact Nat.add_sub_of_le completion.fits

/--
The strings that a read handler takes from the buffer, with what lies behind the
buffer in memory, as long as it goes on reading.
-/
def strings
    (goesOn : Completion → Bool)
    (behind : List Byte) :
    TcpReader → List Completion → List (Option (List Byte))
  | _, [] => []
  | reader, completion :: rest =>
      if goesOn completion then
        cString ((reader.fill completion).recevied ++ behind) ::
          strings goesOn behind (reader.fill completion) rest
      else
        []

end TcpReader

namespace ServerConnection

/-- The handler of the server looks at the length only. -/
def goesOn (completion : Completion) : Bool :=
  0 < completion.data.length

/-- The lines that `start_receive_read` passes to `Commands::interpretCommand`. -/
def interpreted
    (behind : List Byte)
    (reader : TcpReader)
    (completions : List Completion) : List (Option (List Byte)) :=
  reader.strings goesOn behind completions

end ServerConnection

namespace Client

/-- The handler of the client stops at an error. -/
def goesOn (completion : Completion) : Bool :=
  !completion.err && decide (0 < completion.data.length)

/-- The texts that `start_read_socket` prints. -/
def printed
    (behind : List Byte)
    (reader : TcpReader)
    (completions : List Completion) : List (Option (List Byte)) :=
  reader.strings goesOn behind completions

end Client

/-- The completions deliver these bytes, some at a time. -/
structure Delivers
    (completions : List Completion)
    (bytes : List Byte) : Prop where
  whole : (completions.map Completion.data).flatten = bytes
  successful : ∀ completion ∈ completions, completion.err = false
  some : ∀ completion ∈ completions, completion.data ≠ []

/-- The lengths of texts, none empty or too long, and of the reads that deliver them. -/
structure Segmentation (lengths reads : List Nat) : Prop where
  texts : ∀ length ∈ lengths, 0 < length ∧ length < bufferSize
  segments : ∀ read ∈ reads, 0 < read ∧ read ≤ bufferSize
  total : reads.sum = (lengths.map fun length => length + 1).sum

/-- Whatever texts have these lengths, reads of these lengths give exactly them, in order. -/
def Frames
    (handler : List Completion → List (Option (List Byte)))
    (lengths reads : List Nat) : Prop :=
  ∀ texts completions,
    texts.map List.length = lengths →
      (∀ text ∈ texts, 0 ∉ text) →
        Delivers completions (stream texts) →
          (completions.map fun completion => completion.data.length) =
              reads →
            handler completions = texts.map some

/-- Every read delivers one text with its NUL. -/
def WholeTexts (lengths reads : List Nat) : Prop :=
  reads = lengths.map fun length => length + 1

section Strings

variable {bytes rest : List Byte}

/-- A string ends at the first NUL. -/
theorem cString_append (noNul : 0 ∉ bytes) :
    cString (bytes ++ 0 :: rest) = some bytes := by
  have present : (0 : Byte) ∈ bytes ++ 0 :: rest := by simp
  have nonzero : ∀ byte ∈ bytes, decide (byte ≠ 0) = true := by
    intro byte member
    exact decide_eq_true fun zero => noNul (zero ▸ member)
  rw [cString, if_pos present, List.takeWhile_append_of_pos nonzero,
    List.takeWhile_cons_of_neg (by simp), List.append_nil]

/-- A string is what stands before a NUL. -/
theorem append_of_cString
    {text : List Byte}
    (isText : cString bytes = some text) :
    ∃ rest, bytes = text ++ 0 :: rest := by
  by_cases present : (0 : Byte) ∈ bytes
  · obtain ⟨before, rest, isBytes, noNul⟩ :=
      List.eq_append_cons_of_mem present
    rw [isBytes, cString_append noNul] at isText
    obtain ⟨⟩ := isText
    exact ⟨rest, isBytes⟩
  · rw [cString, if_neg present] at isText
    cases isText

end Strings

section Reads

variable
  {goesOn : Completion → Bool} {behind : List Byte} {reader : TcpReader}
  {completion : Completion} {completions : List Completion}
  {bytes : List Byte}

namespace Delivers

/-- The first read delivers the first bytes. -/
theorem first
    (delivers : Delivers (completion :: completions) bytes) :
    completion.data = bytes.take completion.data.length := by
  rw [← delivers.whole, List.map_cons, List.flatten_cons, List.take_left]

/-- The other reads deliver the rest. -/
theorem rest
    (delivers : Delivers (completion :: completions) bytes) :
    Delivers completions (bytes.drop completion.data.length) where
  whole := by
    rw [← delivers.whole, List.map_cons, List.flatten_cons, List.drop_left]
  successful := fun later member =>
    delivers.successful later (List.mem_cons_of_mem _ member)
  some := fun later member =>
    delivers.some later (List.mem_cons_of_mem _ member)

/-- One more read in front delivers its bytes as well. -/
theorem cons
    (delivers : Delivers completions bytes)
    (successful : completion.err = false)
    (some : completion.data ≠ []) :
    Delivers (completion :: completions) (completion.data ++ bytes) where
  whole := by rw [List.map_cons, List.flatten_cons, delivers.whole]
  successful := by
    intro any member
    rcases List.mem_cons.mp member with isFirst | later
    · rw [isFirst]
      exact successful
    · exact delivers.successful any later
  some := by
    intro any member
    rcases List.mem_cons.mp member with isFirst | later
    · rw [isFirst]
      exact some
    · exact delivers.some any later

end Delivers

/-- Bytes can be delivered in reads of any lengths. -/
theorem exists_delivers
    {reads : List Nat}
    (segments : ∀ read ∈ reads, 0 < read ∧ read ≤ bufferSize)
    (total : reads.sum = bytes.length) :
    ∃ completions,
      Delivers completions bytes ∧
        (completions.map fun completion => completion.data.length) =
          reads := by
  induction reads generalizing bytes with
  | nil =>
      have none : bytes = [] := List.length_eq_zero_iff.mp total.symm
      refine ⟨[], ⟨none.symm, ?_, ?_⟩, rfl⟩
      · intro completion member
        cases member
      · intro completion member
        cases member
  | cons read reads inductionHypothesis =>
      rw [List.sum_cons] at total
      obtain ⟨positive, fits⟩ := segments read List.mem_cons_self
      have size : (bytes.take read).length = read := by
        rw [List.length_take]
        omega
      have others : reads.sum = (bytes.drop read).length := by
        rw [List.length_drop]
        omega
      obtain ⟨later, delivers, lengths⟩ :=
        inductionHypothesis
          (fun other member => segments other (List.mem_cons_of_mem _ member))
          others
      let first : Completion :=
        { err := false
          data := bytes.take read
          fits := size.symm ▸ fits }
      have nonempty : first.data ≠ [] := by
        intro empty
        have none : (bytes.take read).length = 0 := by
          rw [show bytes.take read = [] from empty]
          rfl
        omega
      refine ⟨first :: later, ?_, ?_⟩
      · have all := delivers.cons (show first.err = false from rfl) nonempty
        rwa [List.take_append_drop] at all
      · rw [List.map_cons, lengths]
        exact congrArg (· :: reads) size

/-- A handler goes on after every read that delivers something. -/
def Persists (goesOn : Completion → Bool) : Prop :=
  ∀ completion : Completion,
    completion.err = false → completion.data ≠ [] → goesOn completion = true

theorem ServerConnection.persists : Persists ServerConnection.goesOn := by
  intro completion _ some
  exact decide_eq_true (List.length_pos_iff.mpr some)

theorem Client.persists : Persists Client.goesOn := by
  intro completion successful some
  rw [Client.goesOn, successful]
  exact decide_eq_true (List.length_pos_iff.mpr some)

/-- A read that delivers something gives the string at the beginning of the buffer. -/
theorem TcpReader.strings_cons
    (persists : Persists goesOn)
    (delivers : Delivers (completion :: completions) bytes) :
    reader.strings goesOn behind (completion :: completions) =
      cString ((reader.fill completion).recevied ++ behind) ::
        (reader.fill completion).strings goesOn behind completions := by
  rw [TcpReader.strings, if_pos]
  exact
    persists completion
      (delivers.successful completion List.mem_cons_self)
      (delivers.some completion List.mem_cons_self)

end Reads

section Framing

variable
  {goesOn : Completion → Bool} {behind : List Byte} {reader : TcpReader}
  {lengths reads : List Nat} {length read : Nat}

theorem stream_cons
    (text : List Byte)
    (texts : List (List Byte)) :
    stream (text :: texts) = text ++ 0 :: stream texts := by
  rw [stream, List.flatMap_cons, transmitted, List.append_assoc]
  rfl

theorem length_stream (texts : List (List Byte)) :
    (stream texts).length =
      ((texts.map List.length).map fun length => length + 1).sum := by
  induction texts with
  | nil => rfl
  | cons text texts inductionHypothesis =>
      rw [stream_cons, List.length_append, List.length_cons,
        inductionHypothesis, List.map_cons, List.map_cons, List.sum_cons]
      omega

namespace Segmentation

/-- The texts behind the first, when it was read as a whole. -/
theorem tail
    (segmentation :
      Segmentation (length :: lengths) ((length + 1) :: reads)) :
    Segmentation lengths reads where
  texts := fun other member =>
    segmentation.texts other (List.mem_cons_of_mem _ member)
  segments := fun other member =>
    segmentation.segments other (List.mem_cons_of_mem _ member)
  total := by
    have total := segmentation.total
    rw [List.sum_cons, List.map_cons, List.sum_cons] at total
    exact Nat.add_left_cancel total

/-- Texts of these lengths can be delivered in reads of these lengths. -/
theorem exists_delivers
    (segmentation : Segmentation lengths reads)
    {texts : List (List Byte)}
    (sizes : texts.map List.length = lengths) :
    ∃ completions,
      Delivers completions (stream texts) ∧
        (completions.map fun completion => completion.data.length) =
          reads := by
  apply DistributedLighting.exists_delivers segmentation.segments
  rw [length_stream, sizes, segmentation.total]

end Segmentation

/-- Reads of whole texts give the texts, whatever the buffer held. -/
theorem frames_wholeTexts
    (persists : Persists goesOn)
    (behind : List Byte)
    (reader : TcpReader)
    (lengths : List Nat) :
    Frames (reader.strings goesOn behind) lengths
      (lengths.map fun length => length + 1) := by
  intro texts completions sizes noNul delivers isWhole
  subst sizes
  induction texts generalizing reader completions with
  | nil =>
      have none : completions = [] := List.map_eq_nil_iff.mp isWhole
      rw [none]
      rfl
  | cons text texts inductionHypothesis =>
      cases completions with
      | nil => cases isWhole
      | cons completion completions =>
          rw [List.map_cons, List.map_cons, List.map_cons] at isWhole
          obtain ⟨size, others⟩ := List.cons.inj isWhole
          have isStream :
              stream (text :: texts) = (text ++ [0]) ++ stream texts := by
            rw [stream_cons, List.append_cons]
          have end_ : (text ++ [0]).length = text.length + 1 := by
            rw [List.length_append, List.length_singleton]
          have data : completion.data = text ++ [0] := by
            rw [delivers.first, size, isStream, ← end_, List.take_left]
          have later := delivers.rest
          rw [size, isStream, ← end_, List.drop_left] at later
          have here :
              cString ((reader.fill completion).recevied ++ behind) =
                some text := by
            rw [TcpReader.fill]
            dsimp only
            rw [data, List.append_assoc, List.append_assoc]
            exact cString_append (noNul text List.mem_cons_self)
          rw [TcpReader.strings_cons persists delivers, here,
            inductionHypothesis (reader.fill completion) completions
              (fun other member =>
                noNul other (List.mem_cons_of_mem _ member))
              later others]
          rfl

/-- Texts of these lengths without a special byte. -/
def filler (lengths : List Nat) : List (List Byte) :=
  lengths.map fun length => List.replicate length 2

theorem map_length_filler (lengths : List Nat) :
    (filler lengths).map List.length = lengths := by
  simp [filler, Function.comp_def]

theorem mem_filler
    {text : List Byte}
    {byte : Byte}
    (isText : text ∈ filler lengths)
    (member : byte ∈ text) :
    byte = 2 := by
  obtain ⟨length, -, rfl⟩ := List.mem_map.mp isText
  exact List.eq_of_mem_replicate member

theorem notMem_stream_filler : (1 : Byte) ∉ stream (filler lengths) := by
  intro member
  obtain ⟨text, isText, inText⟩ := List.mem_flatMap.mp member
  rw [transmitted, List.mem_append, List.mem_singleton] at inText
  rcases inText with content | nul
  · exact absurd (mem_filler isText content) (by decide)
  · exact absurd nul (by decide)

/-- What the first read of such texts delivers, and what the handler makes of it. -/
theorem Frames.first_read
    (persists : Persists goesOn)
    (segmentation : Segmentation lengths (read :: reads))
    (frames :
      Frames (reader.strings goesOn behind) lengths (read :: reads))
    {text : List Byte}
    {others : List (List Byte)}
    (sizes : (text :: others).map List.length = lengths)
    (noNul : ∀ any ∈ text :: others, 0 ∉ any) :
    ∃ completion completions,
      completion.data = (stream (text :: others)).take read ∧
        completion.data.length = read ∧
        Delivers completions ((stream (text :: others)).drop read) ∧
        cString ((reader.fill completion).recevied ++ behind) = some text ∧
        (reader.fill completion).strings goesOn behind completions =
          others.map some := by
  obtain ⟨completions, delivers, isReads⟩ :=
    segmentation.exists_delivers sizes
  have strings := frames _ completions sizes noNul delivers isReads
  cases completions with
  | nil => cases isReads
  | cons completion completions =>
      have size : completion.data.length = read := (List.cons.inj isReads).1
      have first := delivers.first
      have later := delivers.rest
      rw [size] at first later
      rw [TcpReader.strings_cons persists delivers, List.map_cons] at strings
      obtain ⟨here, behindIt⟩ := List.cons.inj strings
      exact
        ⟨completion, completions, first, size, later, here, behindIt⟩

/-- The next text begins with the next byte that is delivered. -/
theorem exists_text_of_delivers
    (persists : Persists goesOn)
    {completions : List Completion}
    {byte : Byte}
    {bytes : List Byte}
    (delivers : Delivers completions (byte :: bytes))
    {texts : List (List Byte)}
    (isStrings :
      reader.strings goesOn behind completions = texts.map some) :
    ∃ text later rest,
      texts = text :: later ∧ cString (byte :: rest) = some text := by
  cases completions with
  | nil => cases delivers.whole
  | cons completion completions =>
      obtain ⟨first, data, isData⟩ :=
        List.exists_cons_of_ne_nil
          (delivers.some completion List.mem_cons_self)
      have isFirst : first = byte := by
        have whole := delivers.whole
        rw [List.map_cons, List.flatten_cons, isData,
          List.cons_append] at whole
        exact (List.cons.inj whole).1
      rw [TcpReader.strings_cons persists delivers] at isStrings
      cases texts with
      | nil => cases isStrings
      | cons text later =>
          obtain ⟨here, -⟩ := List.cons.inj isStrings
          rw [TcpReader.fill] at here
          dsimp only at here
          rw [isData, isFirst, List.cons_append, List.cons_append] at here
          exact ⟨text, later, _, rfl, here⟩

theorem notMem_replicate
    {byte other : Byte}
    (different : byte ≠ other)
    (count : Nat) :
    byte ∉ List.replicate count other :=
  fun member => different (List.eq_of_mem_replicate member)

/-- The first read does not end inside the first text. -/
theorem not_inside
    (persists : Persists goesOn)
    (segmentation : Segmentation (length :: lengths) (read :: reads))
    (frames :
      Frames (reader.strings goesOn behind) (length :: lengths)
        (read :: reads)) :
    ¬ read < length := by
  intro inside
  -- The byte that is missing differs from the one that an earlier read has left.
  let leftover := reader.recevied.drop read ++ behind
  let missing : Byte := if leftover.head? = some 1 then 2 else 1
  have nonzero : (0 : Byte) ≠ missing := by
    show 0 ≠ if leftover.head? = some 1 then (2 : Byte) else 1
    split <;> decide
  let end_ := missing :: List.replicate (length - read - 1) 1
  have sizes :
      ((List.replicate read 1 ++ end_) :: filler lengths).map List.length =
        length :: lengths := by
    rw [List.map_cons, map_length_filler, List.length_append,
      List.length_replicate, List.length_cons, List.length_replicate]
    congr 1
    omega
  have noNul :
      ∀ text ∈ (List.replicate read 1 ++ end_) :: filler lengths,
        (0 : Byte) ∉ text := by
    intro text member
    rcases List.mem_cons.mp member with isFirst | later
    · rw [isFirst, List.mem_append, List.mem_cons, not_or, not_or]
      exact
        ⟨notMem_replicate (by decide) read, nonzero,
          notMem_replicate (by decide) _⟩
    · exact fun nul => absurd (mem_filler later nul) (by decide)
  obtain ⟨completion, -, data, size, -, here, -⟩ :=
    frames.first_read persists segmentation sizes noNul
  obtain ⟨rest, memory⟩ := append_of_cString here
  have part : completion.data = List.replicate read 1 := by
    rw [data, stream_cons, List.append_assoc]
    exact List.take_left' List.length_replicate
  rw [TcpReader.fill] at memory
  dsimp only at memory
  rw [size, part, List.append_assoc, List.append_assoc,
    List.append_cancel_left_eq] at memory
  have left : leftover.head? = some missing := by
    show (reader.recevied.drop read ++ behind).head? = _
    rw [memory]
    rfl
  by_cases one : leftover.head? = some 1
  · have isTwo : missing = 2 := if_pos one
    rw [one, isTwo] at left
    exact absurd (Option.some.inj left) (by decide)
  · have isOne : missing = 1 := if_neg one
    rw [isOne] at left
    exact one left

/-- The first read does not end right before the NUL of the first text. -/
theorem not_beforeNul
    (persists : Persists goesOn)
    (segmentation : Segmentation (length :: lengths) (length :: reads)) :
    ¬ Frames (reader.strings goesOn behind) (length :: lengths)
        (length :: reads) := by
  intro frames
  have sizes :
      (List.replicate length 1 :: filler lengths).map List.length =
        length :: lengths := by
    rw [List.map_cons, map_length_filler, List.length_replicate]
  have noNul :
      ∀ text ∈ List.replicate length 1 :: filler lengths,
        (0 : Byte) ∉ text := by
    intro text member
    rcases List.mem_cons.mp member with isFirst | later
    · rw [isFirst]
      exact notMem_replicate (by decide) length
    · exact fun nul => absurd (mem_filler later nul) (by decide)
  obtain ⟨completion, completions, -, -, delivers, -, strings⟩ :=
    frames.first_read persists segmentation sizes noNul
  rw [stream_cons, List.drop_left' List.length_replicate] at delivers
  obtain ⟨text, later, rest, isTexts, here⟩ :=
    exists_text_of_delivers persists delivers strings
  have empty : cString (0 :: rest) = some [] :=
    cString_append List.not_mem_nil
  rw [empty] at here
  obtain ⟨⟩ := here
  have isLengths := map_length_filler lengths
  rw [isTexts, List.map_cons] at isLengths
  have positive :=
    (segmentation.texts 0 (by
      rw [← isLengths]
      exact List.mem_cons_of_mem _ List.mem_cons_self)).1
  exact Nat.lt_irrefl 0 positive

/-- The first read takes nothing of the second text. -/
theorem not_long
    (persists : Persists goesOn)
    (segmentation : Segmentation (length :: lengths) (read :: reads))
    (frames :
      Frames (reader.strings goesOn behind) (length :: lengths)
        (read :: reads)) :
    ¬ length + 1 < read := by
  intro long
  cases lengths with
  | nil =>
      have total := segmentation.total
      rw [List.map_cons, List.sum_cons, List.sum_cons, List.map_nil,
        List.sum_nil] at total
      omega
  | cons second lengths =>
      obtain ⟨positive, -⟩ :=
        segmentation.texts second (List.mem_cons_of_mem _ List.mem_cons_self)
      -- The second text begins with a byte that occurs nowhere else.
      let other : List Byte := 1 :: List.replicate (second - 1) 2
      have sizes :
          (List.replicate length 2 :: other :: filler lengths).map
              List.length =
            length :: second :: lengths := by
        rw [List.map_cons, List.map_cons, map_length_filler,
          List.length_replicate, List.length_cons, List.length_replicate,
          Nat.sub_add_cancel positive]
      have noNul :
          ∀ text ∈ List.replicate length 2 :: other :: filler lengths,
            (0 : Byte) ∉ text := by
        intro text member
        rcases List.mem_cons.mp member with isFirst | later
        · rw [isFirst]
          exact notMem_replicate (by decide) length
        · rcases List.mem_cons.mp later with isSecond | filled
          · rw [isSecond, List.mem_cons, not_or]
            exact ⟨by decide, notMem_replicate (by decide) _⟩
          · exact fun nul => absurd (mem_filler filled nul) (by decide)
      obtain ⟨completion, completions, -, -, delivers, -, strings⟩ :=
        frames.first_read persists segmentation sizes noNul
      have noneLeft :
          (1 : Byte) ∉
            (stream (List.replicate length 2 :: other :: filler lengths)).drop
              read := by
        obtain ⟨more, isRead⟩ := Nat.exists_eq_add_of_lt long
        have isStream :
            stream (List.replicate length 2 :: other :: filler lengths) =
              (List.replicate length 2 ++ [0, 1]) ++
                (List.replicate (second - 1) 2 ++
                  0 :: stream (filler lengths)) := by
          rw [stream_cons, stream_cons]
          simp [other]
        have size :
            (List.replicate length (2 : Byte) ++ [0, 1]).length =
              length + 2 := by
          rw [List.length_append, List.length_replicate]
          rfl
        have isSum : read = (length + 2) + more := by omega
        rw [isStream, isSum, ← size, List.drop_length_add_append]
        intro member
        have inRest := List.mem_of_mem_drop member
        rw [List.mem_append, List.mem_cons] at inRest
        rcases inRest with content | nul | further
        · exact notMem_replicate (by decide) _ content
        · exact absurd nul (by decide)
        · exact notMem_stream_filler further
      generalize
        (stream (List.replicate length 2 :: other :: filler lengths)).drop
          read = left
        at delivers noneLeft
      cases left with
      | nil =>
          cases completions with
          | nil => cases strings
          | cons completion completions =>
              have whole := delivers.whole
              rw [List.map_cons, List.flatten_cons,
                List.append_eq_nil_iff] at whole
              exact delivers.some completion List.mem_cons_self whole.1
      | cons byte bytes =>
          obtain ⟨text, later, rest, isTexts, here⟩ :=
            exists_text_of_delivers persists delivers strings
          obtain ⟨isText, -⟩ := List.cons.inj isTexts
          obtain ⟨behindText, memory⟩ := append_of_cString here
          rw [← isText, List.cons_append] at memory
          have isOne : byte = 1 := (List.cons.inj memory).1
          rw [isOne] at noneLeft
          exact noneLeft List.mem_cons_self

/-- The handler goes on with the other texts, with some buffer. -/
theorem exists_frames_tail
    (persists : Persists goesOn)
    (segmentation :
      Segmentation (length :: lengths) ((length + 1) :: reads))
    (frames :
      Frames (reader.strings goesOn behind) (length :: lengths)
        ((length + 1) :: reads)) :
    ∃ filled : TcpReader,
      Frames (filled.strings goesOn behind) lengths reads := by
  obtain ⟨-, small⟩ := segmentation.texts length List.mem_cons_self
  let first : Completion :=
    { err := false
      data := List.replicate length 1 ++ [0]
      fits := by
        rw [List.length_append, List.length_replicate]
        exact small }
  refine ⟨reader.fill first, ?_⟩
  intro texts completions sizes noNul delivers isWhole
  have delivered :
      Delivers (first :: completions)
        (stream (List.replicate length 1 :: texts)) := by
    have all := delivers.cons (show first.err = false from rfl) (by simp [first])
    rwa [List.append_assoc, List.singleton_append, ← stream_cons] at all
  have strings :=
    frames (List.replicate length 1 :: texts) (first :: completions)
      (by rw [List.map_cons, List.length_replicate, sizes])
      (by
        intro text member
        rcases List.mem_cons.mp member with isFirst | later
        · rw [isFirst]
          intro nul
          exact absurd (List.eq_of_mem_replicate nul) (by decide)
        · exact noNul text later)
      delivered
      (by
        rw [List.map_cons, isWhole, List.length_append,
          List.length_replicate]
        rfl)
  rw [TcpReader.strings_cons persists delivered, List.map_cons] at strings
  exact (List.cons.inj strings).2

/-- Only reads of whole texts give all texts of these lengths. -/
theorem wholeTexts_of_frames
    (persists : Persists goesOn)
    (segmentation : Segmentation lengths reads)
    (frames : Frames (reader.strings goesOn behind) lengths reads) :
    WholeTexts lengths reads := by
  induction lengths generalizing reader reads with
  | nil =>
      cases reads with
      | nil => rfl
      | cons read reads =>
          have positive :=
            (segmentation.segments read List.mem_cons_self).1
          have total := segmentation.total
          rw [List.sum_cons, List.map_nil, List.sum_nil] at total
          omega
  | cons length lengths inductionHypothesis =>
      cases reads with
      | nil =>
          have total := segmentation.total
          rw [List.map_cons, List.sum_cons, List.sum_nil] at total
          omega
      | cons read reads =>
          have notInside := not_inside persists segmentation frames
          have notLong := not_long persists segmentation frames
          have notBefore : read ≠ length := by
            intro same
            subst same
            exact not_beforeNul persists segmentation frames
          have isWhole : read = length + 1 := by omega
          subst isWhole
          obtain ⟨filled, others⟩ :=
            exists_frames_tail persists segmentation frames
          exact
            congrArg ((length + 1) :: ·)
              (inductionHypothesis segmentation.tail others)

/-- A handler gives all texts of these lengths exactly when it reads them one by one. -/
theorem frames_iff
    (persists : Persists goesOn)
    (segmentation : Segmentation lengths reads) :
    Frames (reader.strings goesOn behind) lengths reads ↔
      WholeTexts lengths reads := by
  constructor
  · intro frames
    exact wholeTexts_of_frames persists segmentation frames
  · intro isWhole
    rw [show reads = _ from isWhole]
    exact frames_wholeTexts persists behind reader lengths

/--
The server interprets, and the client prints, exactly the texts sent, whatever they
are, if and only if every read delivers one text with its NUL.
-/
theorem framed_iff
    (segmentation : Segmentation lengths reads)
    (behind : List Byte)
    (reader : TcpReader) :
    (Frames (ServerConnection.interpreted behind reader) lengths reads ↔
        WholeTexts lengths reads) ∧
      (Frames (Client.printed behind reader) lengths reads ↔
        WholeTexts lengths reads) :=
  ⟨frames_iff ServerConnection.persists segmentation,
    frames_iff Client.persists segmentation⟩

end Framing

section Examples

/-- A buffer of zeros. -/
def zeroed : TcpReader where
  recevied := List.replicate bufferSize 0
  sized := List.length_replicate

/-- Two lines of two bytes in two reads. -/
theorem framed_oneByOne :
    Frames (ServerConnection.interpreted [] zeroed) [2, 2] [3, 3] ∧
      Frames (Client.printed [] zeroed) [2, 2] [3, 3] := by
  have segmentation : Segmentation [2, 2] [3, 3] :=
    { texts := by decide
      segments := by decide
      total := rfl }
  obtain ⟨server, client⟩ := framed_iff segmentation [] zeroed
  exact ⟨server.mpr rfl, client.mpr rfl⟩

/-- Two lines, `g` and `r`. -/
def twoLines : List (List Byte) :=
  [[byteOf 'g', 10], [byteOf 'r', 10]]

/-- Both lines in one read. -/
def together : Completion where
  err := false
  data := stream twoLines
  fits := by decide

/-- Of two texts in one read, the second is neither interpreted nor printed. -/
theorem not_framed_together :
    ¬ ∀ texts completions,
        (∀ text ∈ texts, 0 ∉ text ∧ text.length < bufferSize) →
          Delivers completions (stream texts) →
            ServerConnection.interpreted [] zeroed completions =
                texts.map some ∧
              Client.printed [] zeroed completions = texts.map some := by
  intro framed
  have delivers : Delivers [together] (stream twoLines) :=
    { whole := List.append_nil _
      successful := by
        intro completion member
        rw [List.mem_singleton.mp member]
        rfl
      some := by
        intro completion member
        rw [List.mem_singleton.mp member]
        exact List.cons_ne_nil _ _ }
  obtain ⟨server, -⟩ := framed twoLines [together] (by decide) delivers
  rw [ServerConnection.interpreted,
    TcpReader.strings_cons ServerConnection.persists delivers] at server
  cases (List.cons.inj server).2

end Examples

end DistributedLighting
