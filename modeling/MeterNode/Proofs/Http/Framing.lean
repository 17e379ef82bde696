import Mathlib.Data.String.Basic
import MeterNode.Http.Message
import MeterNode.Http.Reading
import MeterNode.Proofs.Text.Cutting
import MeterNode.Proofs.Text.Encoding

/-!
# Messages are read as they are written

A written message is a block of lines, a blank line and a body (`message`; `response_eq`,
`post_eq`).  None of the lines is empty or has a line end in it (`IsLine`), so the first blank line
is the one in front of the body (`headerEnd_message`), and the block falls into its lines again
(`lines_block`).

The last line states the length of the body.  It is the only one that does, if no header is
registered under that name (`contentLength_block`).  A body that looks like headers makes no
difference, since lengths are looked for in the block only (`responseBody_message`).
-/

namespace MeterNode.Http

open MeterNode.Text

variable {b : UInt8} {run pre rest first body : Bytes}

/-! ## The first blank line -/

theorem indexOf_cons_of_ne {c : UInt8} (h : c ≠ b) :
    indexOf (b :: run) (c :: rest) = (indexOf (b :: run) rest).map (· + 1) := by
  simp [indexOf, Ne.symm h]

/-- A run does not begin before its first byte occurs. -/
theorem indexOf_append (h : b ∉ pre) :
    indexOf (b :: run) (pre ++ rest) = (indexOf (b :: run) rest).map (· + pre.length) := by
  induction pre with
  | nil => simp
  | cons c pre ih =>
    obtain ⟨hc, hpre⟩ := List.ne_and_not_mem_of_not_mem_cons h
    rw [List.cons_append, indexOf_cons_of_ne (Ne.symm hc), ih hpre, Option.map_map]
    rfl

theorem indexOf_append_self (hrun : run ≠ []) : indexOf run (run ++ rest) = some 0 := by
  obtain ⟨c, run, rfl⟩ := List.exists_cons_of_ne_nil hrun
  have hpre : (c :: run).isPrefixOf (c :: (run ++ rest)) = true := by simp
  rw [List.cons_append, indexOf, if_pos hpre]

/-- Behind lines that are not empty the headers end at the first blank line, whatever follows. -/
theorem headerEnd_joined {ls : List Bytes} (hfirst : 13 ∉ first) (hls : ∀ l ∈ ls, l ≠ [] ∧ 13 ∉ l) :
    headerEnd (first ++ ls.flatMap ([13, 10] ++ ·) ++ [13, 10, 13, 10] ++ body) =
      some (first ++ ls.flatMap ([13, 10] ++ ·)).length := by
  unfold headerEnd
  induction ls generalizing first with
  | nil =>
    rw [List.flatMap_nil, List.append_nil, List.append_assoc, indexOf_append hfirst,
      indexOf_append_self (by simp)]
    simp
  | cons l ls ih =>
    obtain ⟨⟨hne, hl⟩, hrest⟩ := List.forall_mem_cons.1 hls
    -- the line feed is taken for the beginning of the next line
    have hnext : (13 : UInt8) ∉ 10 :: l := by simp [hl]
    have hend := ih hnext hrest
    obtain ⟨c, l, rfl⟩ := List.exists_cons_of_ne_nil hne
    have hc : (13 : UInt8) ≠ c := (List.ne_and_not_mem_of_not_mem_cons hl).1
    simp only [List.flatMap_cons, List.append_assoc, List.cons_append, List.nil_append] at hend ⊢
    rw [indexOf_append hfirst, indexOf, if_neg (by simp [hc]), hend]
    simp
    omega

/-! ## The stated length -/

section Length

variable {line value name : List Char} {ls more : List (List Char)} {known : Option Nat} {n : Nat}

/-- The header line has this name, in any case of letters. -/
def IsNamed (name : String) (line : List Char) : Prop :=
  ∃ before after, line = before ++ ':' :: after ∧ ':' ∉ before ∧
    sameIgnoringCase before name.toList

theorem isNamed_iff {name : String} : IsNamed name line ↔
    (cutOnce [':'] line).any fun cut => sameIgnoringCase cut.1 name.toList := by
  rw [Option.any_eq_true]
  constructor
  · rintro ⟨before, after, rfl, hbefore, hsame⟩
    exact ⟨(before, after), cutOnce_eq_some_iff.2 ⟨rfl, hbefore⟩, hsame⟩
  · rintro ⟨⟨before, after⟩, hcut, hsame⟩
    obtain ⟨rfl, hbefore⟩ := cutOnce_eq_some_iff.1 hcut
    exact ⟨before, after, rfl, hbefore, hsame⟩

instance {name : String} : Decidable (IsNamed name line) := decidable_of_iff _ isNamed_iff.symm

theorem lengthField_eq_none (h : ¬ IsNamed "content-length" line) : lengthField line = none := by
  simp only [lengthField]
  split
  next before after hcut =>
    refine if_neg fun hsame => h (isNamed_iff.2 ?_)
    rw [hcut]
    exact hsame
  next => rfl

theorem lengthField_eq_some (hname : ':' ∉ name)
    (hsame : sameIgnoringCase name "content-length".toList) :
    lengthField (name ++ ':' :: value) = some value := by
  simp only [lengthField, cutOnce_eq_some_iff.2 ⟨rfl, hname⟩]
  exact if_pos hsame

/-- A line with another name states no length. -/
theorem not_isNamed_of_name (hname : ':' ∉ name)
    (hother : sameIgnoringCase name "content-length".toList = false) :
    ¬ IsNamed "content-length" (name ++ ':' :: value) := by
  rw [isNamed_iff, cutOnce_eq_some_iff.2 ⟨rfl, hname⟩, Option.any_some, hother]
  exact Bool.false_ne_true

/-- Lines that state no length are passed over. -/
theorem lengthOf_append (h : ∀ l ∈ ls, ¬ IsNamed "content-length" l) :
    lengthOf known (ls ++ more) = lengthOf known more := by
  induction ls with
  | nil => rfl
  | cons l ls ih =>
    obtain ⟨hl, hls⟩ := List.forall_mem_cons.1 h
    rw [List.cons_append, lengthOf, lengthField_eq_none hl]
    exact ih hls

/-- The line that states a length. -/
def lengthLine (n : Nat) : String := "Content-Length: " ++ toString n

theorem lengthOf_lengthLine : lengthOf none [(lengthLine n).toList] =
    if n ≤ lengthMax then .ok (some n) else .error .invalid := by
  have hline : (lengthLine n).toList =
      "Content-Length".toList ++ ':' :: ' ' :: (toString n).toList := String.toList_append
  have hfield : lengthField (lengthLine n).toList = some (' ' :: (toString n).toList) := by
    rw [hline]
    exact lengthField_eq_some (by decide) (by decide)
  have htrim : trim (' ' :: (toString n).toList) = (toString n).toList :=
    trim_cons_of_notBlank (by decide) fun x hx => isBlank_of_isDigit (isDigit_of_mem_toString hx)
  simp only [lengthOf, hfield, htrim, natural?_toString]
  by_cases hn : n ≤ lengthMax
  · simp [hn]
  · simp [hn]

end Length

/-! ## Blocks of lines -/

section Block

variable {s t line : String} {ls : List String} {body : String} {n : Nat}

/-- A text without line ends. -/
def OneLine (s : String) : Prop := '\r' ∉ s.toList ∧ '\n' ∉ s.toList

instance : Decidable (OneLine s) := inferInstanceAs (Decidable (_ ∧ _))

theorem OneLine.append (hs : OneLine s) (ht : OneLine t) : OneLine (s ++ t) := by
  simp only [OneLine, String.toList_append, List.mem_append, not_or]
  exact ⟨⟨hs.1, ht.1⟩, hs.2, ht.2⟩

/-- A line that is not empty. -/
def IsLine (s : String) : Prop := s ≠ "" ∧ OneLine s

instance : Decidable (IsLine s) := inferInstanceAs (Decidable (_ ∧ _))

theorem IsLine.append (hs : IsLine s) (ht : OneLine t) : IsLine (s ++ t) := by
  refine ⟨?_, hs.2.append ht⟩
  rw [← String.toList_inj.ne, String.toList_append]
  exact List.append_ne_nil_of_left_ne_nil (by simpa using hs.1) _

theorem isLine_lengthLine : IsLine (lengthLine n) := by
  refine IsLine.append (by decide) ⟨fun h => ?_, fun h => ?_⟩
  all_goals exact absurd (isDigit_of_mem_toString h) (by decide)

/-- Some lines with line ends between them. -/
def block (line : String) (ls : List String) : String := line ++ String.join (ls.map (crlf ++ ·))

theorem block_eq : block line ls = "\r\n".intercalate (line :: ls) := by
  rw [block]
  induction ls generalizing line with
  | nil => simp
  | cons l ls ih =>
    rw [String.intercalate_cons_cons, ← ih, List.map_cons, String.join_cons]
    simp only [crlf, String.append_assoc]

/-- A block, a blank line and a body. -/
def message (line : String) (ls : List String) (body : String) : String :=
  block line ls ++ crlf ++ crlf ++ body

theorem bytesOf_block :
    bytesOf (block line ls) = bytesOf line ++ (ls.map bytesOf).flatMap ([13, 10] ++ ·) := by
  rw [block, bytesOf_append]
  congr 1
  induction ls with
  | nil => rfl
  | cons l ls ih =>
    rw [List.map_cons, String.join_cons, bytesOf_append, bytesOf_append, ih]
    rfl

theorem bytesOf_message : bytesOf (message line ls body) =
    bytesOf (block line ls) ++ [13, 10, 13, 10] ++ bytesOf body := by
  simp only [message, bytesOf_append, List.append_assoc]
  rfl

theorem toList_block : (block line ls).toList =
    line.toList ++ (ls.map String.toList).flatMap (['\r', '\n'] ++ ·) := by
  rw [block, String.toList_append, String.toList_join]
  congr 1
  induction ls with
  | nil => rfl
  | cons l ls ih =>
    rw [List.map_cons, List.flatMap_cons, ih, String.toList_append]
    rfl

theorem OneLine.notMem_bytes (h : OneLine s) : (13 : UInt8) ∉ bytesOf s := fun hmem =>
  h.1 ((mem_bytesOf_iff (by decide) (by decide)).1 hmem)

/-- The headers of a message end behind its block. -/
theorem headerEnd_message (hline : IsLine line) (hls : ∀ l ∈ ls, IsLine l) :
    headerEnd (bytesOf (message line ls body)) = some (bytesOf (block line ls)).length := by
  rw [bytesOf_message, bytesOf_block]
  refine headerEnd_joined hline.2.notMem_bytes fun l hl => ?_
  obtain ⟨s, hs, rfl⟩ := List.mem_map.1 hl
  exact ⟨bytesOf_ne_nil (hls s hs).1, (hls s hs).2.notMem_bytes⟩

/-- The first line of a message ends before the first line end. -/
theorem statusLine_message (hline : OneLine line) :
    statusLine (bytesOf (message line ls body)) = bytesOf line := by
  have hnext : ∃ rest, bytesOf (message line ls body) = bytesOf line ++ ([13, 10] ++ rest) := by
    rw [bytesOf_message, bytesOf_block]
    cases ls with
    | nil => exact ⟨[13, 10] ++ bytesOf body, by simp⟩
    | cons l ls =>
      exact ⟨bytesOf l ++ (ls.map bytesOf).flatMap ([13, 10] ++ ·) ++ [13, 10, 13, 10] ++
        bytesOf body, by simp⟩
  obtain ⟨rest, hrest⟩ := hnext
  rw [statusLine, hrest, indexOf_append hline.notMem_bytes, indexOf_append_self (by simp)]
  simp

theorem lines_block (hline : IsLine line) (hls : ∀ l ∈ ls, IsLine l) :
    lines (block line ls).toList = line.toList :: ls.map String.toList := by
  rw [toList_block]
  refine lines_joined hline.2.2 (fun l hl => ?_) (by simpa using hline.1)
  obtain ⟨s, hs, rfl⟩ := List.mem_map.1 hl
  exact ⟨by simpa using (hls s hs).1, (hls s hs).2.2⟩

theorem isLine_of_mem_concat (hls : ∀ l ∈ ls, IsLine l) : ∀ l ∈ ls ++ [lengthLine n], IsLine l :=
  List.forall_mem_append.2 ⟨hls, by simpa using isLine_lengthLine⟩

/-- The last line states the length, and no other but the first may. -/
theorem contentLength_block (hline : IsLine line) (hls : ∀ l ∈ ls, IsLine l)
    (hnamed : ∀ l ∈ ls, ¬ IsNamed "content-length" l.toList) :
    contentLength (block line (ls ++ [lengthLine n])) =
      if n ≤ lengthMax then .ok (some n) else .error .invalid := by
  have hnamed' : ∀ l ∈ ls.map String.toList, ¬ IsNamed "content-length" l := by
    intro _ hl
    obtain ⟨s, hs, rfl⟩ := List.mem_map.1 hl
    exact hnamed s hs
  rw [contentLength, lines_block hline (isLine_of_mem_concat hls), List.drop_one, List.tail_cons,
    List.map_append, lengthOf_append hnamed', List.map_singleton, lengthOf_lengthLine]

/-- The body is what follows the blank line, whether its length can be stated or not. -/
theorem responseBody_message (hline : IsLine line) (hls : ∀ l ∈ ls, IsLine l)
    (hnamed : ∀ l ∈ ls, ¬ IsNamed "content-length" l.toList) :
    responseBody (bytesOf (message line (ls ++ [lengthLine body.utf8ByteSize]) body)) =
      bytesOf body := by
  have hend : headerEnd (bytesOf (message line (ls ++ [lengthLine body.utf8ByteSize]) body)) =
      some _ := headerEnd_message hline (isLine_of_mem_concat hls)
  simp only [responseBody, hend]
  rw [bytesOf_message, List.append_assoc, List.take_left, ← List.append_assoc,
    List.drop_left' (by simp), declaredLength, text?_bytesOf, Option.bind_some,
    contentLength_block hline hls hnamed]
  split
  next n hn =>
    split at hn
    next =>
      cases hn
      rw [← length_bytesOf, List.take_length]
    next => cases hn
  next => rfl

end Block

/-! ## The set of headers -/

section Headers

variable {h : String} {hs : Headers}

theorem Headers.mem_insert {x : String} : x ∈ Headers.insert h hs ↔ x = h ∨ x ∈ hs := by
  induction hs with
  | nil => simp [insert]
  | cons y rest ih =>
    simp only [insert]
    split
    next => exact List.mem_cons
    next =>
      split
      next heq =>
        subst heq
        simp
      next =>
        rw [List.mem_cons, ih, List.mem_cons]
        exact or_left_comm

theorem Headers.insert_sorted (hsorted : hs.Pairwise (· < ·)) :
    (Headers.insert h hs).Pairwise (· < ·) := by
  induction hs with
  | nil => exact List.pairwise_singleton _ _
  | cons y rest ih =>
    obtain ⟨hy, hrest⟩ := List.pairwise_cons.1 hsorted
    simp only [insert]
    split
    next hlt =>
      refine List.pairwise_cons.2 ⟨fun x hx => ?_, hsorted⟩
      rcases List.mem_cons.1 hx with rfl | hx
      · exact hlt
      · exact hlt.trans (hy x hx)
    next hge =>
      split
      next => exact hsorted
      next hne =>
        refine List.pairwise_cons.2 ⟨fun x hx => ?_, ih hrest⟩
        rcases Headers.mem_insert.1 hx with rfl | hx
        · exact lt_of_le_of_ne (not_lt.1 hge) (Ne.symm hne)
        · exact hy x hx

theorem Headers.ofList_sorted (headers : List String) :
    (Headers.ofList headers).Pairwise (· < ·) := by
  have hfold (set : Headers) (hset : set.Pairwise (· < ·)) :
      (headers.foldl (fun set h => Headers.insert h set) set).Pairwise (· < ·) := by
    induction headers generalizing set with
    | nil => exact hset
    | cons h rest ih => exact ih _ (Headers.insert_sorted hset)
  exact hfold [] List.Pairwise.nil

theorem Headers.mem_ofList {headers : List String} {x : String} :
    x ∈ Headers.ofList headers ↔ x ∈ headers := by
  have hfold (set : Headers) :
      x ∈ headers.foldl (fun set h => Headers.insert h set) set ↔ x ∈ set ∨ x ∈ headers := by
    induction headers generalizing set with
    | nil => simp
    | cons h rest ih =>
      rw [List.foldl_cons, ih, Headers.mem_insert, List.mem_cons, or_assoc, or_left_comm]
  rw [Headers.ofList, hfold]
  simp

end Headers

/-! ## Written messages -/

section Written

variable {status contentType body resource host : String} {headers : Headers}
  {code reason : List Char}

theorem response_eq : response status contentType body =
    message ("HTTP/1.1 " ++ status)
      (["Content-type: " ++ contentType] ++ [lengthLine body.utf8ByteSize]) body := by
  unfold response message block lengthLine
  simp only [List.cons_append, List.nil_append, List.map_cons, List.map_nil, String.join_cons,
    String.join_nil, String.append_assoc, String.append_empty]

theorem join_ended {rest : String} : crlf ++ (String.join (headers.map (· ++ crlf)) ++ rest) =
    String.join (headers.map (crlf ++ ·)) ++ (crlf ++ rest) := by
  induction headers with
  | nil => simp
  | cons h headers ih =>
    simp only [List.map_cons, String.join_cons, String.append_assoc]
    rw [ih]

theorem post_eq : post resource host headers body =
    message ("POST " ++ resource ++ " HTTP/1.1")
      (("Host: " ++ host) :: headers ++ [lengthLine body.utf8ByteSize]) body := by
  unfold post message block lengthLine
  simp only [List.cons_append, List.map_cons, List.map_append, List.map_nil, String.join_cons,
    String.join_append, String.join_nil, String.append_assoc, String.append_empty]
  rw [join_ended]

/-- A posted message is written as its lines, an empty line and its body. -/
theorem post_eq_lines : post resource host headers body =
    "\r\n".intercalate (("POST " ++ resource ++ " HTTP/1.1") :: ("Host: " ++ host) ::
      (headers ++ ["Content-Length: " ++ toString body.utf8ByteSize])) ++ "\r\n\r\n" ++ body := by
  have hblank (s : String) : s ++ crlf ++ crlf = s ++ "\r\n\r\n" := String.append_assoc
  rw [post_eq, message, block_eq, hblank]
  rfl

/-- A status is the second word of its line. -/
theorem statusOfLine_eq (hcode : code.length = 3) (hdigits : ∀ c ∈ code, c.isDigit = true)
    (hstatus : status.toList = code ++ ' ' :: reason) :
    statusOfLine ("HTTP/1.1 " ++ status) = some (Nat.ofDigitChars 10 code 0) := by
  have hline : ("HTTP/1.1 " ++ status).toList =
      "HTTP/1.1".toList ++ ' ' :: (code ++ ' ' :: reason) := by
    rw [String.toList_append, hstatus]
    rfl
  have hne : code ≠ [] := List.ne_nil_of_length_eq_add_one hcode
  have hblank : ∀ c ∈ code, isAsciiBlank c = false := fun c hc =>
    isAsciiBlank_of_isDigit (hdigits c hc)
  have hversion : ∀ c ∈ "HTTP/1.1".toList, isAsciiBlank c = false := by simp [isAsciiBlank]
  have hwords : words ("HTTP/1.1 " ++ status).toList =
      "HTTP/1.1".toList :: code :: words reason := by
    rw [hline, words_cons hversion (by decide) (by decide), words_cons hblank hne (by decide)]
  have hsize : (String.ofList code).utf8ByteSize = 3 := by
    rw [utf8ByteSize_of_isDigit hdigits, hcode]
  have hbound : Nat.ofDigitChars 10 code 0 ≤ 65535 := by
    have hlt := ofDigitChars_lt hdigits
    rw [hcode] at hlt
    omega
  simp only [statusOfLine, hwords]
  rw [if_pos ⟨by decide, hsize⟩, natural?_of_isDigit hdigits hne, if_pos hbound]

theorem not_isNamed_contentType :
    ¬ IsNamed "content-length" ("Content-type: " ++ contentType).toList := by
  have hline : ("Content-type: " ++ contentType).toList =
      "Content-type".toList ++ ':' :: ' ' :: contentType.toList := String.toList_append
  rw [hline]
  exact not_isNamed_of_name (by decide) (by decide)

theorem not_isNamed_host : ¬ IsNamed "content-length" ("Host: " ++ host).toList := by
  have hline : ("Host: " ++ host).toList = "Host".toList ++ ':' :: ' ' :: host.toList :=
    String.toList_append
  rw [hline]
  exact not_isNamed_of_name (by decide) (by decide)

/-- The parts of a response. -/
theorem response_parts (hstatus : OneLine status) (htype : OneLine contentType) :
    IsLine ("HTTP/1.1 " ++ status) ∧ (∀ l ∈ ["Content-type: " ++ contentType], IsLine l) ∧
      ∀ l ∈ ["Content-type: " ++ contentType], ¬ IsNamed "content-length" l.toList := by
  refine ⟨IsLine.append (by decide) hstatus, ?_, ?_⟩
  · simpa using IsLine.append (by decide) htype
  · simpa using not_isNamed_contentType

/-- The whole body of a response is read. -/
theorem responseBody_response (hstatus : OneLine status) (htype : OneLine contentType) :
    responseBody (bytesOf (response status contentType body)) = bytesOf body := by
  obtain ⟨hline, hls, hnamed⟩ := response_parts hstatus htype
  rw [response_eq]
  exact responseBody_message hline hls hnamed

/-- The status of a response is read. -/
theorem statusCode_response (hcode : code.length = 3) (hdigits : ∀ c ∈ code, c.isDigit = true)
    (hreason : status.toList = code ++ ' ' :: reason) (hstatus : OneLine status) :
    statusCode (bytesOf (response status contentType body)) =
      some (Nat.ofDigitChars 10 code 0) := by
  have hline : OneLine ("HTTP/1.1 " ++ status) := OneLine.append (by decide) hstatus
  rw [statusCode, response_eq, statusLine_message hline, text?_bytesOf]
  exact statusOfLine_eq hcode hdigits hreason

/-- A response is read as one with this status and this body, and states the length of the body. -/
structure Carries (response : String) (status : Nat) (body : String) : Prop where
  status_read : statusCode (bytesOf response) = some status
  body_read : responseBody (bytesOf response) = bytesOf body
  length_stated : ∃ header, bytesOf response = bytesOf header ++ [13, 10, 13, 10] ++ bytesOf body ∧
    headerEnd (bytesOf response) = some (bytesOf header).length ∧
    (body.utf8ByteSize ≤ lengthMax → contentLength header = .ok (some body.utf8ByteSize))

theorem response_carries (hcode : code.length = 3) (hdigits : ∀ c ∈ code, c.isDigit = true)
    (hreason : status.toList = code ++ ' ' :: reason) (hstatus : OneLine status)
    (htype : OneLine contentType) :
    Carries (response status contentType body) (Nat.ofDigitChars 10 code 0) body where
  status_read := statusCode_response hcode hdigits hreason hstatus
  body_read := responseBody_response hstatus htype
  length_stated := by
    obtain ⟨hline, hls, hnamed⟩ := response_parts hstatus htype
    rw [response_eq]
    refine ⟨_, bytesOf_message, headerEnd_message hline (isLine_of_mem_concat hls), fun hsize => ?_⟩
    rw [contentLength_block hline hls hnamed, if_pos hsize]

/-- Messages are read as they were written.  Of a response the whole body comes back, and the code
of its status.  Of a posted message the headers end before the blank line in front of the body, the
lines between the first two and the last are the headers that were registered, and the last states
the length of the body. -/
theorem framing_round_trip (hcode : code.length = 3) (hdigits : ∀ c ∈ code, c.isDigit = true)
    (hreason : status.toList = code ++ ' ' :: reason) (hstatus : OneLine status)
    (htype : OneLine contentType) (hresource : OneLine resource) (hhost : OneLine host)
    {registered : List String} (hregistered : ∀ h ∈ registered, IsLine h) :
    responseBody (bytesOf (response status contentType body)) = bytesOf body ∧
    statusCode (bytesOf (response status contentType body)) =
      some (Nat.ofDigitChars 10 code 0) ∧
    ∃ (header : String) (headers : List String),
      bytesOf (post resource host (Headers.ofList registered) body) =
        bytesOf header ++ [13, 10, 13, 10] ++ bytesOf body ∧
      headerEnd (bytesOf (post resource host (Headers.ofList registered) body)) =
        some (bytesOf header).length ∧
      lines header.toList =
        ("POST " ++ resource ++ " HTTP/1.1").toList :: ("Host: " ++ host).toList ::
          (headers.map String.toList ++
            [("Content-Length: " ++ toString body.utf8ByteSize).toList]) ∧
      headers.Pairwise (· < ·) ∧ (∀ h, h ∈ headers ↔ h ∈ registered) ∧
      ((∀ h ∈ registered, ¬ IsNamed "content-length" h.toList) → body.utf8ByteSize ≤ lengthMax →
        contentLength header = .ok (some body.utf8ByteSize)) := by
  refine ⟨responseBody_response hstatus htype,
    statusCode_response hcode hdigits hreason hstatus, ?_⟩
  have hmem (h : String) : h ∈ Headers.ofList registered ↔ h ∈ registered := Headers.mem_ofList
  have hline : IsLine ("POST " ++ resource ++ " HTTP/1.1") :=
    (IsLine.append (by decide) hresource).append (by decide)
  have hls : ∀ l ∈ ("Host: " ++ host) :: Headers.ofList registered, IsLine l :=
    List.forall_mem_cons.2 ⟨IsLine.append (by decide) hhost, fun h hh =>
      hregistered h ((hmem h).1 hh)⟩
  rw [post_eq]
  refine ⟨_, Headers.ofList registered, bytesOf_message,
    headerEnd_message hline (isLine_of_mem_concat hls), ?_, Headers.ofList_sorted registered, hmem,
    fun hnamed hsize => ?_⟩
  · rw [lines_block hline (isLine_of_mem_concat hls), List.map_append]
    rfl
  · have hnamed' : ∀ l ∈ ("Host: " ++ host) :: Headers.ofList registered,
        ¬ IsNamed "content-length" l.toList :=
      List.forall_mem_cons.2 ⟨not_isNamed_host, fun h hh => hnamed h ((hmem h).1 hh)⟩
    rw [contentLength_block hline hls hnamed', if_pos hsize]

/-- A body that looks like headers and a body. -/
def nestedBody : String := "\r\nContent-Length: 1\r\n\r\n€"

theorem framing_round_trip_of_nested :
    responseBody (bytesOf (response "404 Not Found" "text/plain" nestedBody)) =
      bytesOf nestedBody ∧
    statusCode (bytesOf (response "404 Not Found" "text/plain" nestedBody)) = some 404 ∧
    ∃ header, headerEnd (bytesOf (post "/x" "h:80" (Headers.ofList ["b: 2", "a: 1", "b: 2"])
        nestedBody)) = some (bytesOf header).length ∧ contentLength header = .ok (some 26) := by
  have hcode : ∀ c ∈ ['4', '0', '4'], c.isDigit = true := List.all_eq_true.1 rfl
  have hregistered : ∀ h ∈ ["b: 2", "a: 1", "b: 2"], IsLine h := by decide
  have hnamed : ∀ h ∈ ["b: 2", "a: 1", "b: 2"], ¬ IsNamed "content-length" h.toList := by decide
  obtain ⟨hbody, hstatus, header, -, -, hend, -, -, -, hlength⟩ :=
    @framing_round_trip "404 Not Found" "text/plain" nestedBody "/x" "h:80" ['4', '0', '4']
      "Not Found".toList rfl hcode rfl (by decide) (by decide) (by decide) (by decide) _ hregistered
  exact ⟨hbody, hstatus, header, hend, hlength hnamed (by decide)⟩

end Written

end MeterNode.Http
