import MeterNode.Http.Reading
import MeterNode.Proofs.Text.Cutting
import MeterNode.Proofs.Text.Encoding

/-!
# The grammar of a status line

Which replies have a status is stated without the reader.  The first line of a reply ends at the
first line end (`FirstLine`).  If it is text and its first word names the version, its second word
is the code (`CodeWord`).  The reader finds this line and this word and no others (`firstLine_iff`,
`codeWord_iff`).

A code word takes three bytes, so it is a numeral of three digits, or a plus and a numeral of two:
unsigned numbers are read with a plus in front (`natural?_three_bytes`).  `statusCode_iff` says
which replies have which status, and `plus_for_a_digit` shows one that has no three digits.
-/

namespace MeterNode.Http

open MeterNode.Text

variable {reply line : Bytes} {code : List Char} {c : Nat}

/-! ## The first line -/

/-- `line` is what stands before the first line end of the reply, or all of it if there is none. -/
def FirstLine (reply line : Bytes) : Prop :=
  ¬ [13, 10] <:+: line ∧ (reply = line ∨ line ++ [13, 10] <+: reply)

theorem statusLine_cons {b : UInt8} : statusLine (b :: reply) =
    if [13, 10] <+: b :: reply then [] else b :: statusLine reply := by
  simp only [statusLine, indexOf, List.isPrefixOf_iff_prefix]
  split
  next => rfl
  next =>
    cases indexOf [13, 10] reply with
    | none => simp
    | some _ => rfl

theorem FirstLine.begins (h : FirstLine reply line) : line <+: reply := by
  obtain ⟨-, rfl | h⟩ := h
  · exact List.prefix_rfl
  · exact (List.prefix_append line [13, 10]).trans h

/-- A line end does not begin inside a line that has none. -/
theorem eq_nil_of_lineEnd_begins (hnone : ¬ [13, 10] <:+: line)
    (h : [13, 10] <+: line ++ [13, 10]) : line = [] := by
  match line with
  | [] => rfl
  | [b] => simp at h
  | b :: c :: line =>
    have hbegins : [13, 10] <+: b :: c :: line := by simpa using h
    exact absurd hbegins.isInfix hnone

/-- The reader finds the first line. -/
theorem firstLine_iff : FirstLine reply line ↔ statusLine reply = line := by
  induction reply generalizing line with
  | nil =>
    have hnil : statusLine [] = [] := rfl
    rw [hnil]
    constructor
    · intro h
      exact (List.prefix_nil.1 h.begins).symm
    · rintro rfl
      exact ⟨by simp, .inl rfl⟩
  | cons b reply ih =>
    rw [statusLine_cons]
    split
    next hend =>
      constructor
      · rintro ⟨hnone, rfl | hline⟩
        · exact absurd hend.isInfix hnone
        · have hlength : [13, 10].length ≤ (line ++ [13, 10]).length := by simp
          exact (eq_nil_of_lineEnd_begins hnone
            (List.prefix_of_prefix_length_le hend hline hlength)).symm
      · rintro rfl
        exact ⟨by simp, .inr hend⟩
    next hend =>
      constructor
      · rintro ⟨hnone, rfl | hline⟩
        · have hrest : FirstLine reply reply :=
            ⟨fun h => hnone (h.trans (List.suffix_cons b reply).isInfix), .inl rfl⟩
          rw [ih.1 hrest]
        · cases line with
          | nil => exact absurd hline hend
          | cons x line =>
            rw [List.cons_append, List.cons_prefix_cons] at hline
            obtain ⟨rfl, hline⟩ := hline
            have hrest : FirstLine reply line :=
              ⟨fun h => hnone (h.trans (List.suffix_cons x line).isInfix), .inr hline⟩
            rw [ih.1 hrest]
      · rintro rfl
        have hrest : FirstLine reply (statusLine reply) := ih.2 rfl
        have hbegins := hrest.begins
        obtain ⟨hnone, hline⟩ := hrest
        constructor
        · intro h
          rcases List.infix_cons_iff.1 h with hfront | hinfix
          · exact hend (hfront.trans (List.cons_prefix_cons.2 ⟨rfl, hbegins⟩))
          · exact hnone hinfix
        · exact hline.imp (congrArg (b :: ·)) fun h => List.cons_prefix_cons.2 ⟨rfl, h⟩

/-! ## The status -/

/-- The first line of the reply is text, its first word names the version, and its second word is
`code`. -/
def CodeWord (reply : Bytes) (code : List Char) : Prop :=
  ∃ s version mid rest, FirstLine reply (bytesOf s) ∧ FirstWord s.toList version mid ∧
    "HTTP/1.".toList <+: version ∧ FirstWord mid code rest

theorem codeWord_iff : CodeWord reply code ↔ ∃ s version more,
    text? (statusLine reply) = some s ∧ isVersion version = true ∧
      words s.toList = version :: code :: more := by
  have hname : "HTTP/1.".toList = ['H', 'T', 'T', 'P', '/', '1', '.'] := by decide
  simp only [CodeWord, firstLine_iff, isVersion, List.isPrefixOf_iff_prefix, text?_eq_some_iff,
    words_eq_cons_iff, hname]
  constructor
  · rintro ⟨s, version, mid, rest, hline, hversion, hname, hcode⟩
    exact ⟨s, version, words rest, hline.symm, hname, mid, hversion, rest, hcode, rfl⟩
  · rintro ⟨s, version, _, hline, hname, mid, hversion, rest, hcode, -⟩
    exact ⟨s, version, mid, rest, hline.symm, hversion, hname, hcode⟩

/-- The numerals that take three bytes, with or without a plus in front. -/
theorem natural?_three_bytes : (String.ofList code).utf8ByteSize = 3 ∧
    natural? 65535 code = some c ↔
      code.length = 3 ∧ Numeral code c ∨ ∃ ds, code = '+' :: ds ∧ ds.length = 2 ∧ Numeral ds c := by
  have hplus (ds : List Char) : (String.ofList ('+' :: ds)).utf8ByteSize =
      1 + (String.ofList ds).utf8ByteSize := by
    rw [String.ofList_cons, String.utf8ByteSize_append]
    rfl
  have hlimit {ds : List Char} (h : Numeral ds c) (hlength : ds.length ≤ 3) : c ≤ 65535 := by
    have hlt := ofDigitChars_lt h.digits
    rw [h.value] at hlt
    have hpow : 10 ^ ds.length ≤ 10 ^ 3 := Nat.pow_le_pow_right (by decide) hlength
    omega
  rw [natural?_eq_some_iff]
  constructor
  · rintro ⟨hsize, -, h | ⟨ds, rfl, h⟩⟩
    · rw [utf8ByteSize_of_isDigit h.digits] at hsize
      exact .inl ⟨hsize, h⟩
    · rw [hplus, utf8ByteSize_of_isDigit h.digits] at hsize
      exact .inr ⟨ds, rfl, by omega, h⟩
  · rintro (⟨hlength, h⟩ | ⟨ds, rfl, hlength, h⟩)
    · exact ⟨(utf8ByteSize_of_isDigit h.digits).trans hlength, hlimit h hlength.le, .inl h⟩
    · refine ⟨?_, hlimit h (by omega), .inr ⟨ds, rfl, h⟩⟩
      rw [hplus, utf8ByteSize_of_isDigit h.digits, hlength]

theorem statusCode_eq_some_iff : statusCode reply = some c ↔ ∃ code, CodeWord reply code ∧
    (String.ofList code).utf8ByteSize = 3 ∧ natural? 65535 code = some c := by
  simp only [statusCode, Option.bind_eq_some_iff, codeWord_iff]
  constructor
  · rintro ⟨s, hs, h⟩
    unfold statusOfLine at h
    split at h
    next version code more hwords =>
      split at h
      next hform => exact ⟨code, ⟨s, version, more, hs, hform.1, hwords⟩, hform.2, h⟩
      next => cases h
    next => cases h
  · rintro ⟨code, ⟨s, version, more, hs, hversion, hwords⟩, hsize, h⟩
    refine ⟨s, hs, ?_⟩
    simp only [statusOfLine, hwords]
    rw [if_pos ⟨hversion, hsize⟩, h]

/-- A reply has the status `c` exactly if its code word is a numeral of three digits with the value
`c`, or a plus with such a numeral of two digits behind it. -/
theorem statusCode_iff : statusCode reply = some c ↔ ∃ code, CodeWord reply code ∧
    (code.length = 3 ∧ Numeral code c ∨ ∃ ds, code = '+' :: ds ∧ ds.length = 2 ∧ Numeral ds c) := by
  rw [statusCode_eq_some_iff]
  exact exists_congr fun code => and_congr_right fun _ => natural?_three_bytes

/-- A plus is read where the grammar has a digit. -/
theorem plus_for_a_digit :
    let reply := bytesOf "HTTP/1.1 +20 OK\r\n\r\n"
    statusCode reply = some 20 ∧
      ¬ ∃ code, CodeWord reply code ∧ code.length = 3 ∧ Numeral code 20 := by
  intro reply
  have hline : statusLine reply = bytesOf "HTTP/1.1 +20 OK" := by decide
  have hwords : words "HTTP/1.1 +20 OK".toList =
      ["HTTP/1.1".toList, ['+', '2', '0'], ['O', 'K']] := by decide
  have hplus : CodeWord reply ['+', '2', '0'] :=
    codeWord_iff.2 ⟨_, _, _, hline ▸ text?_bytesOf, by decide, hwords⟩
  have hnumeral : Numeral ['2', '0'] 20 := digits?_eq_some_iff.1 (by decide)
  refine ⟨statusCode_eq_some_iff.2 ⟨_, hplus, natural?_three_bytes.2
    (.inr ⟨['2', '0'], rfl, rfl, hnumeral⟩)⟩, ?_⟩
  rintro ⟨code, hcode, -, h⟩
  obtain ⟨s, version, more, hs, -, hcode⟩ := codeWord_iff.1 hcode
  rw [hline, text?_bytesOf] at hs
  cases hs
  rw [hwords] at hcode
  cases hcode
  exact absurd (h.digits '+' List.mem_cons_self) (by decide)

end MeterNode.Http
