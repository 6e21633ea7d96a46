import TwoWay.Format.Http
import TwoWay.Proofs.RoundTrip.Form

/-!
# Requests and their normal form

A request is written with one space before each value and with line feeds, and is read from texts
with more blanks and with either line end. Whatever bytes are read as a request, its parts hold only
the bytes they may hold, so it is written again, as a text that is no longer and that is read as the
same request.

Where one value ends and the next header begins is found by reading alone: a line that starts with a
blank goes on with the header before it, and neither a name nor its colon is blank. A value cannot
start with a blank either, because the blanks before it are read first.

* `RequestLine.IsValid`, `Header.IsValid`: parts that hold only the bytes they may hold.
* `RequestLine.form`, `Header.form`: how they are written.
* `hasForm_request`: valid requests are written in this form and read back from it.
* `normalizes_request`: whatever is read is a valid request, with a form that is no longer.
* `request_reads_normalized`: so reading, writing and reading again gives the same request.
-/

namespace TwoWay.Format

/-! ## Valid requests and their texts -/

/-- A value stays in its line and does not start with a blank. -/
def IsValue (value : List UInt8) : Prop :=
  (∀ b ∈ value, isValueByte b = true) ∧ ∀ b ∈ value.head?, View.bytes.isInlineSpace b = false

def valueText (value : List UInt8) : List UInt8 := [0x20] ++ value ++ [0x0A]

namespace RequestLine

def IsValid (line : RequestLine) : Prop :=
  ((∀ b ∈ line.method, isNameByte b = true) ∧ ∀ b ∈ line.uri, isUriByte b = true) ∧
    ∀ b ∈ line.version, isVersionByte b = true

/-- Method, URI and version, with ` HTTP/` before the version. -/
def form (line : RequestLine) : List UInt8 :=
  line.method ++ [0x20] ++ line.uri ++ [0x20, 0x48, 0x54, 0x54, 0x50, 0x2F] ++ line.version ++
    [0x0A]

end RequestLine

namespace Header

def IsValid (header : Header) : Prop :=
  (∀ b ∈ header.name, isNameByte b = true) ∧ ∀ value ∈ header.values, IsValue value

/-- The name, a colon, and each value on a line of its own. -/
def form (header : Header) : List UInt8 := header.name ++ [0x3A] ++ header.values.flatMap valueText

end Header

/-! ## Bytes of a kind -/

section Bytes

variable {accepts : UInt8 → Bool}

theorem stopsAt_byte {b : UInt8} (hb : accepts b = false) (bytes : List UInt8) :
    (Test.ofPred (v := .bytes) accepts).StopsAt (b :: bytes) :=
  Test.stopsAt_of_next? (v := .bytes) rfl (congrArg Except.ok hb)

theorem hasForm_bytesOf (accepts : UInt8 → Bool) :
    (bytesOf accepts).HasForm (fun bytes => ∀ b ∈ bytes, accepts b = true) id
      (Test.ofPred (v := .bytes) accepts).StopsAt := by
  refine (Grammar.hasForm_run (v := .bytes) rfl _ rfl).imp ?_ fun _ _ => rfl
  intro bytes hBytes
  exact ⟨bytes, (textOf_bytes bytes).symm, Nat.zero_le _,
    fun b hb => congrArg Except.ok (hBytes b hb)⟩

theorem normalizes_bytesOf (accepts : UInt8 → Bool) :
    (bytesOf accepts).Normalizes (fun bytes => ∀ b ∈ bytes, accepts b = true) id := by
  intro text bytes rest h
  obtain ⟨⟨tokens, hTokens, hAccepts⟩, hLength⟩ := Grammar.normalizes_run _ _ text bytes rest h
  rw [textOf_bytes] at hTokens
  subst hTokens
  exact ⟨fun b hb => Except.ok.inj (hAccepts b hb), hLength⟩

theorem hasText_ascii {text : String} {bytes : List UInt8} (h : Utf8.encode text.toList = bytes) :
    (ascii text).HasText bytes fun _ => True :=
  h ▸ Grammar.hasText_literal rfl _

theorem normalizes_ascii {text : String} {bytes : List UInt8}
    (h : Utf8.encode text.toList = bytes) :
    (ascii text).Normalizes (fun _ => True) fun _ => bytes :=
  h ▸ Grammar.normalizes_literal _

end Bytes

theorem encode_space : Utf8.encode " ".toList = [0x20] := by decide +kernel

theorem encode_colon : Utf8.encode ":".toList = [0x3A] := by decide +kernel

theorem encode_http : Utf8.encode " HTTP/".toList = [0x20, 0x48, 0x54, 0x54, 0x50, 0x2F] := by
  decide +kernel

/-! ## The request line -/

theorem hasForm_requestLine :
    requestLine.HasForm RequestLine.IsValid RequestLine.form fun _ => True := by
  have hMethod := (hasForm_bytesOf isNameByte).thenSkip (hasText_ascii encode_space)
    fun rest _ => stopsAt_byte rfl rest
  have hUri := (hMethod.pair (hasForm_bytesOf isUriByte) fun _ _ _ _ => trivial).thenSkip
    (hasText_ascii encode_http) fun rest _ => stopsAt_byte rfl _
  have hVersion := (hUri.pair (hasForm_bytesOf isVersionByte) fun _ _ _ _ => trivial).thenSkip
    (Grammar.hasText_lineEnd rfl) fun rest _ => stopsAt_byte rfl rest
  exact hVersion.convert fun _ => rfl

theorem normalizes_requestLine : requestLine.Normalizes RequestLine.IsValid RequestLine.form := by
  have hMethod := (normalizes_bytesOf isNameByte).thenSkip (normalizes_ascii encode_space)
  have hUri := (hMethod.pair (normalizes_bytesOf isUriByte)).thenSkip (normalizes_ascii encode_http)
  have hVersion := (hUri.pair (normalizes_bytesOf isVersionByte)).thenSkip
    (Grammar.normalizes_lineEnd rfl)
  exact hVersion.convert fun _ => rfl

/-! ## Values -/

/-- The test that the blanks before a value pass. -/
def blank : Test .bytes := Test.ofPred View.bytes.isInlineSpace

theorem hasText_indentation : indentation.HasText [0x20] blank.StopsAt := by
  have hBlanks : (Grammar.run blank (.orMore 1)).HasForm _ id blank.StopsAt :=
    Grammar.hasForm_run rfl blank rfl
  have hSpace := (hasText_ascii encode_space).written () trivial
  refine hBlanks.writtenBy (a := [0x20]) ⟨[0x20], rfl, Nat.le_refl 1, fun b hb => ?_⟩ hSpace
  rw [List.mem_singleton.1 hb]
  rfl

/-- Blanks are read as far as they go. -/
theorem of_indentation {text rest : List UInt8} (h : indentation.parse text = .done () rest) :
    blank.StopsAt rest ∧ rest.length < text.length := by
  obtain ⟨blanks, hRun, -⟩ := Outcome.map_eq_done_iff.1 h
  obtain ⟨tokens, hTake, -, -⟩ := readRun_eq_done_iff.1 hRun
  exact ⟨takeRun_stopsAt hTake rfl, indentation.consumes_parse rfl text () rest h⟩

/-- A line that does not start with a blank holds no further value. -/
theorem headerValue_fails {text : List UInt8} (h : blank.StopsAt text) :
    ∃ failure left, headerValue.parse text = .failed failure left := by
  have hBlanks : indentation.parse text = .failed .parse text := by
    have hRun : takeRun blank none text = .done [] text := takeRun_of_stop h
    change (readRun blank (.orMore 1) text).map _ = _
    rw [readRun, show (Bounds.orMore 1).most = none from rfl, hRun]
    rfl
  have hValue : (Grammar.skipThen indentation (bytesOf isValueByte)).parse text =
      .failed .parse text :=
    Outcome.map_eq_failed_iff.2 (Step.andThen_eq_failed_iff.2 (Or.inl hBlanks))
  exact ⟨.parse, text,
    Outcome.map_eq_failed_iff.2 (Step.andThen_eq_failed_iff.2 (Or.inl hValue))⟩

/-- What ends a value is a line end, and that is no blank. -/
theorem not_blank_of_not_isValueByte {b : UInt8} (h : isValueByte b = false) :
    View.bytes.isInlineSpace b = false := by
  have hLineEnd : b = 0x0D ∨ b = 0x0A := by
    simpa [isValueByte, ← Decidable.or_iff_not_imp_left] using h
  rcases hLineEnd with rfl | rfl <;> rfl

theorem hasForm_headerValue : headerValue.HasForm IsValue valueText fun _ => True := by
  have hValue : (bytesOf isValueByte).HasForm IsValue id
      (Test.ofPred (v := .bytes) isValueByte).StopsAt :=
    (hasForm_bytesOf isValueByte).imp (fun _ h => h.1) fun _ _ => rfl
  -- an empty value leaves the line end next, which is no blank either
  have hNext : ∀ value rest, IsValue value → (Test.ofPred (v := .bytes) isValueByte).StopsAt rest →
      blank.StopsAt (value ++ rest) := by
    rintro (_ | ⟨b, value⟩) rest ⟨-, hHead⟩ hRest
    · intro token after hNext
      have hEnds : isValueByte token = false := Except.ok.inj (hRest token after hNext)
      exact congrArg Except.ok (not_blank_of_not_isValueByte hEnds)
    · exact stopsAt_byte (hHead b rfl) _
  exact (hasText_indentation.skipThen hValue hNext).thenSkip (Grammar.hasText_lineEnd rfl)
    fun rest _ => stopsAt_byte rfl rest

/-- A value does not start with a blank, because the blanks before it were read. -/
theorem normalizes_indented :
    (Grammar.skipThen indentation (bytesOf isValueByte)).Normalizes IsValue ([0x20] ++ ·) := by
  intro text value rest h
  obtain ⟨⟨_, value⟩, hBoth, rfl⟩ := Outcome.map_eq_done_iff.1 h
  obtain ⟨start, hBlanks, hValue⟩ := Step.andThen_eq_done_iff.1 hBoth
  obtain ⟨hStop, hLess⟩ := of_indentation hBlanks
  obtain ⟨hBytes, hLength⟩ := normalizes_bytesOf isValueByte start value rest hValue
  refine ⟨⟨hBytes, fun b hb => ?_⟩, ?_⟩
  · obtain ⟨tokens, hTake, -, hTokens⟩ := readRun_eq_done_iff.1 hValue
    have hStart : start = value ++ rest := hTokens ▸ takeRun_eq_done hTake
    obtain ⟨more, rfl⟩ : ∃ more, value = b :: more := List.head?_eq_some_iff.1 hb
    exact Except.ok.inj (hStop b (more ++ rest) (hStart ▸ rfl))
  · change ([0x20] ++ value).length + rest.length ≤ text.length
    rw [List.length_append, List.length_singleton]
    rw [id] at hLength
    omega

theorem normalizes_headerValue : headerValue.Normalizes IsValue valueText :=
  normalizes_indented.thenSkip (Grammar.normalizes_lineEnd rfl)

/-! ## Headers -/

theorem hasForm_header : header.HasForm Header.IsValid Header.form blank.StopsAt := by
  have hName := (hasForm_bytesOf isNameByte).thenSkip (hasText_ascii encode_colon)
    fun rest _ => stopsAt_byte rfl rest
  have hValues : (Repetition.ofElement headerValue).grammar.HasForm
      (fun values => ∀ value ∈ values, IsValue value) (fun values => values.flatMap valueText)
      blank.StopsAt :=
    hasForm_headerValue.ofElement rfl (fun _ _ _ => trivial)
      fun _ hRest => ⟨trivial, headerValue_fails hRest⟩
  exact (hName.pair hValues fun _ _ _ _ => trivial).convert fun _ => rfl

theorem normalizes_header : header.Normalizes Header.IsValid Header.form := by
  have hName := (normalizes_bytesOf isNameByte).thenSkip (normalizes_ascii encode_colon)
  exact (hName.pair normalizes_headerValue.ofElement).convert fun _ => rfl

theorem not_blank_of_isNameByte {b : UInt8} (h : isNameByte b = true) :
    View.bytes.isInlineSpace b = false := by
  refine Bool.eq_false_iff.2 fun hBlank => ?_
  have hCases : b = 0x20 ∨ b = 0x09 := by
    simpa [View.isInlineSpace, Text.isAsciiInlineSpace] using hBlank
  rcases hCases with rfl | rfl
  · exact absurd h (by decide +kernel)
  · exact absurd h (by decide +kernel)

/-- Neither a name nor a colon starts with a blank. -/
theorem stopsAt_header {header : Header} (h : header.IsValid) (rest : List UInt8) :
    blank.StopsAt (header.form ++ rest) := by
  obtain ⟨name, values⟩ := header
  cases name with
  | nil => exact stopsAt_byte rfl _
  | cons b name =>
    exact stopsAt_byte (not_blank_of_isNameByte (h.1 b List.mem_cons_self)) _

/-! ## Requests -/

def IsRequest (value : RequestLine × List Header) : Prop :=
  value.1.IsValid ∧ ∀ header ∈ value.2, header.IsValid

/-- The request line and the headers after it. -/
def requestText (value : RequestLine × List Header) : List UInt8 :=
  value.1.form ++ value.2.flatMap Header.form

theorem hasForm_request : request.HasForm IsRequest requestText (· = []) := by
  have hEnds : ∀ rest : List UInt8, rest = [] →
      blank.StopsAt rest ∧ ∃ failure left, header.parse rest = .failed failure left := by
    rintro _ rfl
    exact ⟨blank.stopsAt_nil, .parse, [], by decide +kernel⟩
  have hHeaders := hasForm_header.ofElement rfl (fun _ rest h => stopsAt_header h rest) hEnds
  exact hasForm_requestLine.pair hHeaders fun _ _ _ _ => trivial

theorem normalizes_request : request.Normalizes IsRequest requestText :=
  normalizes_requestLine.pair normalizes_header.ofElement

theorem not_raises_request (fault : Fault) : ¬ request.Raises fault := by
  simp [request, requestLine, header, headerValue, indentation, bytesOf, ascii,
    Repetition.grammar, Repetition.ofElement, Grammar.Raises, Test.ofPred]

/-- **Requests are read back, and whatever is read is normalized.**  A valid request can be written,
and the text is read as the same request. All bytes that are read as a request give a valid one,
which is written as bytes that are no longer and are read as the same request. No bytes are read
with a fault. -/
theorem request_reads_normalized :
    (∀ value, IsRequest value → ∃ bytes, request.printToBuffer value = .done () bytes ∧
      request.parseAll bytes = .done value []) ∧
    (∀ bytes value rest, request.parseAll bytes = .done value rest → IsRequest value ∧
      ∃ bytes', request.printToBuffer value = .done () bytes' ∧
        request.parseAll bytes' = .done value [] ∧ bytes'.length ≤ bytes.length) ∧
    ∀ bytes fault, request.parseAll bytes ≠ .aborted fault := by
  refine ⟨fun value hValue => ?_, fun bytes value rest h => ?_,
    Grammar.parseAll_ne_aborted rfl not_raises_request⟩
  · exact ⟨requestText value, hasForm_request.written value hValue,
      hasForm_request.parseAll rfl hValue⟩
  · obtain ⟨hValue, hLength⟩ := normalizes_request bytes value rest (Grammar.parse_of_parseAll h)
    exact ⟨hValue, requestText value, hasForm_request.written value hValue,
      hasForm_request.parseAll rfl hValue, Nat.le_of_add_right_le hLength⟩

/-- A header with an empty name and no value, and one whose second value is on a continuation line,
with blanks and line ends of both kinds. -/
theorem request_reads_normalized_folded :
    let bytes := Utf8.encode "GET /a HTTP/1.1\r\n:X: \tone\r\n\ttwo\n".toList
    let value : RequestLine × List Header :=
      (⟨Utf8.encode "GET".toList, Utf8.encode "/a".toList, Utf8.encode "1.1".toList⟩,
        [⟨[], []⟩, ⟨[0x58], [Utf8.encode "one".toList, Utf8.encode "two".toList]⟩])
    request.parseAll bytes = .done value [] ∧ IsRequest value ∧
      ∃ bytes', request.printToBuffer value = .done () bytes' ∧
        request.parseAll bytes' = .done value [] ∧ bytes'.length ≤ bytes.length := by
  intro bytes value
  have hRead : request.parseAll bytes = .done value [] := by decide +kernel
  exact ⟨hRead, request_reads_normalized.2.1 bytes value [] hRead⟩

end TwoWay.Format
