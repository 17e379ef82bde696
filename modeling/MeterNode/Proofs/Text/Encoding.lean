import Mathlib.Algebra.Group.Nat.Defs
import MeterNode.Text.CodeRanges
import MeterNode.Text.Numeral

/-!
# How texts and numbers are written

A text is written as the bytes of its characters, one after the other (`bytesOf_eq`), and is read
back from them and from nothing else (`text?_eq_some_iff`).  Bytes below 128 stand for themselves
and occur in no other character (`mem_bytesOf_iff`), so a search for such bytes is a search for
characters.

A number is written in decimal digits, and `natural?` reads them back (`natural?_toString`).  It
reads any numeral, also one with zeros or one plus in front (`natural?_eq_some_iff`).
-/

namespace MeterNode.Text

variable {s t : String} {bytes : Bytes} {cs ds : List Char} {limit n : Nat}

/-! ## Bytes -/

/-- The bytes of a text are those of its characters. -/
theorem bytesOf_eq : bytesOf s = s.toList.flatMap String.utf8EncodeChar := by
  have h : s.toByteArray = (s.toList.flatMap String.utf8EncodeChar).toByteArray :=
    String.utf8Encode_toList.symm
  rw [bytesOf, String.toUTF8_eq_toByteArray, h, List.data_toByteArray]

@[simp] theorem bytesOf_append : bytesOf (s ++ t) = bytesOf s ++ bytesOf t := by
  simp only [bytesOf_eq, String.toList_append, List.flatMap_append]

theorem length_bytesOf : (bytesOf s).length = s.utf8ByteSize := by
  rw [← String.size_toByteArray]
  rfl

theorem bytesOf_ne_nil (h : s ≠ "") : bytesOf s ≠ [] := by
  intro hnil
  have hlength := congrArg List.length hnil
  rw [length_bytesOf, List.length_nil, String.utf8ByteSize_eq_zero_iff] at hlength
  exact h hlength

/-- A text is read back from its bytes. -/
theorem text?_bytesOf : text? (bytesOf s) = some s := by
  have hbytes : (⟨(bytesOf s).toArray⟩ : ByteArray) = s.toByteArray := rfl
  rw [text?, hbytes, String.fromUTF8?, dif_pos s.isValidUTF8]
  rfl

/-- Bytes are read as the one text that is written with them. -/
theorem text?_eq_some_iff : text? bytes = some s ↔ bytesOf s = bytes := by
  constructor
  · intro h
    rw [text?, String.fromUTF8?] at h
    split at h
    next hvalid =>
      cases h
      rfl
    next => cases h
  · rintro rfl
    exact text?_bytesOf

/-- A byte below 128 occurs in one character only. -/
theorem mem_utf8EncodeChar_iff {b : UInt8} {c : Char} (hb : b.toNat < 128) :
    b ∈ String.utf8EncodeChar c ↔ c.toNat = b.toNat := by
  have hval : c.val.toNat = c.toNat := rfl
  have hone (n : Nat) : b = UInt8.ofNat n ↔ b.toNat = n % 2 ^ 8 := by
    rw [← UInt8.toNat_inj, UInt8.toNat_ofNat']
  simp only [String.utf8EncodeChar, hval]
  -- all bytes of a longer character are at least 128
  split
  next =>
    rw [List.mem_singleton, hone]
    omega
  next =>
    split
    next =>
      simp only [List.mem_cons, List.not_mem_nil, or_false, hone]
      omega
    next =>
      split
      all_goals
        simp only [List.mem_cons, List.not_mem_nil, or_false, hone]
        omega

/-- A byte below 128 occurs where its character does. -/
theorem mem_bytesOf_iff {b : UInt8} {c : Char} (hb : b.toNat < 128) (hc : c.toNat = b.toNat) :
    b ∈ bytesOf s ↔ c ∈ s.toList := by
  rw [bytesOf_eq, List.mem_flatMap]
  constructor
  · rintro ⟨d, hd, hmem⟩
    have hdc : d = c := Char.toNat_inj.1 (((mem_utf8EncodeChar_iff hb).1 hmem).trans hc.symm)
    rwa [← hdc]
  · intro hmem
    exact ⟨c, hmem, (mem_utf8EncodeChar_iff hb).2 hc⟩

/-! ## Numerals -/

theorem digit?_of_isDigit {c : Char} (h : c.isDigit = true) :
    digit? c = some (c.toNat - '0'.toNat) := if_pos (Char.isDigit_iff_toNat.1 h)

theorem isBlank_of_isDigit {c : Char} (h : c.isDigit = true) : isBlank c = false := by
  obtain ⟨hlow, hhigh⟩ := Char.isDigit_iff_toNat.1 h
  have hzero : '0'.toNat = 48 := rfl
  have hnine : '9'.toNat = 57 := rfl
  simp [isBlank, CodeRanges.covers, blankRanges]
  omega

theorem isAsciiBlank_of_isDigit {c : Char} (h : c.isDigit = true) : isAsciiBlank c = false := by
  rw [← Bool.not_eq_true]
  intro hblank
  have hnot := isBlank_of_isDigit h
  rw [isBlank_of_isAsciiBlank hblank] at hnot
  cases hnot

/-- A run of digits is a number in base ten. -/
theorem digits?_eq (h : ∀ c ∈ cs, c.isDigit = true) (hne : cs ≠ []) :
    digits? cs = some (Nat.ofDigitChars 10 cs 0) := by
  have hfold (init : Nat) : cs.foldl (fun value c => do return 10 * (← value) + (← digit? c))
      (some init) = some (Nat.ofDigitChars 10 cs init) := by
    clear hne
    induction cs generalizing init with
    | nil => rfl
    | cons c rest ih =>
      obtain ⟨hc, hrest⟩ := List.forall_mem_cons.1 h
      rw [List.foldl_cons, digit?_of_isDigit hc, Nat.ofDigitChars_cons]
      exact ih hrest _
  obtain ⟨c, rest, rfl⟩ := List.exists_cons_of_ne_nil hne
  exact hfold 0

theorem utf8ByteSize_of_isDigit (h : ∀ c ∈ cs, c.isDigit = true) :
    (String.ofList cs).utf8ByteSize = cs.length := by
  induction cs with
  | nil => rfl
  | cons c rest ih =>
    obtain ⟨hc, hrest⟩ := List.forall_mem_cons.1 h
    have hsize : c.utf8Size = 1 := by
      have hle := (Char.isDigit_iff_toNat.1 hc).2
      have hnine : '9'.toNat = 57 := rfl
      rw [Char.utf8Size_eq_one_iff, UInt32.le_iff_toNat_le]
      exact Nat.le_trans hle (by decide)
    rw [String.ofList_cons, String.utf8ByteSize_append, ih hrest]
    simp [hsize, Nat.add_comm]

/-- The first digit of a number counts for its place. -/
theorem ofDigitChars_cons_zero {c : Char} : Nat.ofDigitChars 10 (c :: cs) 0 =
    10 ^ cs.length * (c.toNat - '0'.toNat) + Nat.ofDigitChars 10 cs 0 := by
  rw [Nat.ofDigitChars_cons, Nat.ofDigitChars_eq_ofDigitChars_zero, Nat.mul_zero, Nat.zero_add]

theorem ofDigitChars_lt (h : ∀ c ∈ cs, c.isDigit = true) :
    Nat.ofDigitChars 10 cs 0 < 10 ^ cs.length := by
  induction cs with
  | nil => exact Nat.one_pos
  | cons c rest ih =>
    obtain ⟨hc, hrest⟩ := List.forall_mem_cons.1 h
    have hdigit : c.toNat - '0'.toNat ≤ 9 := Nat.sub_le_sub_right (Char.isDigit_iff_toNat.1 hc).2 _
    calc Nat.ofDigitChars 10 (c :: rest) 0
        = 10 ^ rest.length * (c.toNat - '0'.toNat) + Nat.ofDigitChars 10 rest 0 :=
          ofDigitChars_cons_zero
      _ < 10 ^ rest.length * (c.toNat - '0'.toNat) + 10 ^ rest.length :=
          Nat.add_lt_add_left (ih hrest) _
      _ = 10 ^ rest.length * (c.toNat - '0'.toNat + 1) := (Nat.mul_succ _ _).symm
      _ ≤ 10 ^ rest.length * 10 := Nat.mul_le_mul_left _ (Nat.succ_le_succ hdigit)

theorem natural?_of_isDigit (h : ∀ c ∈ cs, c.isDigit = true) (hne : cs ≠ []) :
    natural? limit cs =
      if Nat.ofDigitChars 10 cs 0 ≤ limit then some (Nat.ofDigitChars 10 cs 0) else none := by
  have hplus : dropPlus cs = cs := by
    unfold dropPlus
    split
    next => exact absurd (h '+' List.mem_cons_self) (by decide)
    next => rfl
  rw [natural?, hplus, digits?_eq h hne, Option.filter_some]
  simp only [decide_eq_true_eq]

theorem isDigit_of_mem_toString {c : Char} (h : c ∈ (toString n).toList) : c.isDigit = true := by
  rw [Nat.toString_eq_repr, Nat.toList_repr] at h
  exact Nat.isDigit_of_mem_toDigits (by decide) (by decide) h

theorem toList_toString_ne_nil : (toString n).toList ≠ [] := by
  rw [Nat.toString_eq_repr, Nat.toList_repr]
  exact Nat.toDigits_ne_nil

theorem ofDigitChars_toString : Nat.ofDigitChars 10 (toString n).toList 0 = n := by
  rw [Nat.toString_eq_repr, Nat.toList_repr, Nat.ofDigitChars_ten_toDigits]

/-- A number within the limit is read back from its digits. -/
theorem natural?_toString :
    natural? limit (toString n).toList = if n ≤ limit then some n else none := by
  rw [natural?_of_isDigit (fun _ => isDigit_of_mem_toString) toList_toString_ne_nil,
    ofDigitChars_toString]

/-- A run of decimal digits with the value `n`. -/
structure Numeral (ds : List Char) (n : Nat) : Prop where
  nonempty : ds ≠ []
  digits : ∀ d ∈ ds, d.isDigit = true
  value : Nat.ofDigitChars 10 ds 0 = n

theorem digits?_eq_some_iff : digits? ds = some n ↔ Numeral ds n := by
  constructor
  · intro h
    have hnone (cs : List Char) : cs.foldl (fun value c => do
        return 10 * (← value) + (← digit? c)) (none : Option Nat) = none := by
      induction cs with
      | nil => rfl
      | cons c cs ih => exact ih
    have hfold (cs : List Char) (init : Nat) (hcs : cs.foldl (fun value c => do
        return 10 * (← value) + (← digit? c)) (some init) = some n) :
        ∀ c ∈ cs, c.isDigit = true := by
      induction cs generalizing init with
      | nil => exact List.forall_mem_nil _
      | cons c cs ih =>
        rw [List.foldl_cons] at hcs
        by_cases hc : c.isDigit = true
        · rw [digit?_of_isDigit hc] at hcs
          exact List.forall_mem_cons.2 ⟨hc, ih _ hcs⟩
        · have hdigit : digit? c = none := if_neg (mt Char.isDigit_iff_toNat.2 hc)
          rw [hdigit] at hcs
          exact absurd ((hnone cs).symm.trans hcs) (by simp)
    cases ds with
    | nil => cases h
    | cons d ds =>
      have hdigits := hfold (d :: ds) 0 h
      have hvalue := digits?_eq hdigits (List.cons_ne_nil _ _)
      exact ⟨List.cons_ne_nil _ _, hdigits, Option.some.inj (hvalue.symm.trans h)⟩
  · intro h
    rw [digits?_eq h.digits h.nonempty, h.value]

theorem Numeral.dropPlus_eq (h : Numeral ds n) : dropPlus ds = ds := by
  unfold dropPlus
  split
  next => exact absurd (h.digits '+' List.mem_cons_self) (by decide)
  next => rfl

/-- An unsigned number is read from its numeral, with or without a plus in front. -/
theorem natural?_eq_some_iff : natural? limit cs = some n ↔
    n ≤ limit ∧ (Numeral cs n ∨ ∃ ds, cs = '+' :: ds ∧ Numeral ds n) := by
  rw [natural?, Option.filter_eq_some_iff, digits?_eq_some_iff, decide_eq_true_eq, and_comm]
  refine and_congr_right fun _ => ⟨fun h => ?_, ?_⟩
  · unfold dropPlus at h
    split at h
    next ds => exact .inr ⟨ds, rfl, h⟩
    next => exact .inl h
  · rintro (h | ⟨ds, rfl, h⟩)
    · rwa [h.dropPlus_eq]
    · exact h

end MeterNode.Text
