import Mathlib.Algebra.Order.Field.Power
import Mathlib.Algebra.Order.Field.Rat
import Mathlib.Data.Nat.Cast.Order.Field
import Mathlib.Tactic.FieldSimp
import Mathlib.Tactic.Linarith
import Mathlib.Tactic.Ring
import MeterNode.Proofs.Text.Encoding
import MeterNode.Text.Fixed

/-!
# How values and lists are shown

A document shows measured values with decimal places and lists with commas.  `ShowsValue` and
`Listed` say what the text is of which.  They are about the bits of a double, about digits and about
commas, and not about how a text is put together.

*Rounding.*  `Nearest` is the whole number next to a quantity, the even one on a tie.  There is one
(`Nearest.eq`), and `roundDiv` finds it (`roundDiv_nearest`).

*Digits.*  A count of units is shown as its whole part and, behind a point, one digit for every
place (`ShowsUnits`).

*Doubles.*  A double has a sign, an exponent and a fraction (`Fields`), and a finite one has a
`magnitude`.  `showsValue_iff`: `fixed` gives the text that shows a double, and no other text does.

*Lists.*  `listed_iff`: if the texts of the items are known, so is that of the list.
-/

namespace MeterNode.Text

/-! ## Rounding -/

/-- The whole number that is nearest to a quantity, the even one if two are equally near. -/
structure Nearest (n : Nat) (x : ℚ) : Prop where
  near : |x - n| ≤ 1 / 2
  even_of_tie : |x - n| = 1 / 2 → Even n

section Rounding

variable {n n' num den : Nat} {x : ℚ}

theorem nearest_self : Nearest n n where
  near := by simp
  even_of_tie h := by simp at h

theorem Nearest.eq (h : Nearest n x) (h' : Nearest n' x) : n = n' := by
  wlog hle : n ≤ n' generalizing n n'
  · exact (this h' h (Nat.le_of_not_le hle)).symm
  by_contra hne
  obtain ⟨-, hhigh⟩ := abs_le.1 h.near
  obtain ⟨hlow, -⟩ := abs_le.1 h'.near
  -- Two whole numbers that are both nearest are neighbours, and both would be even.
  have hclose : (n' : ℚ) ≤ (n + 1 : Nat) := by
    push_cast
    linarith
  obtain rfl : n' = n + 1 := by
    have hclose : n' ≤ n + 1 := Nat.cast_le.1 hclose
    omega
  have hmiddle : x = n + 1 / 2 := by
    push_cast at hlow
    linarith
  have heven : Even n := h.even_of_tie (by norm_num [hmiddle])
  have heven' : Even (n + 1) := h'.even_of_tie (by norm_num [hmiddle])
  exact Nat.even_add_one.1 heven' heven

/-- A part of less than one half is dropped. -/
theorem nearest_of_lt {y : ℚ} (h : 0 ≤ y) (h' : y < 1 / 2) : Nearest n (n + y) := by
  have hsub : |(n : ℚ) + y - n| = y := by rw [add_sub_cancel_left, abs_of_nonneg h]
  refine ⟨hsub.trans_le h'.le, fun htie => ?_⟩
  rw [hsub] at htie
  exact absurd htie h'.ne

/-- A part of more than one half is made up to one. -/
theorem nearest_of_gt {y : ℚ} (h : 1 / 2 < y) (h' : y ≤ 1) : Nearest (n + 1) (n + y) := by
  have hsub : |(n : ℚ) + y - (n + 1 : Nat)| = 1 - y := by
    rw [Nat.cast_add_one, add_sub_add_left_eq_sub, abs_sub_comm, abs_of_nonneg (by linarith)]
  refine ⟨by linarith, fun htie => ?_⟩
  rw [hsub] at htie
  exact absurd htie (by linarith)

theorem nearest_of_tie : Nearest (if n % 2 = 0 then n else n + 1) (n + 1 / 2) := by
  split
  next heven => exact ⟨by norm_num, fun _ => Nat.even_iff.2 heven⟩
  next hodd =>
    refine ⟨by norm_num [Nat.cast_add_one], fun _ => ?_⟩
    exact Nat.even_add_one.2 (mt Nat.even_iff.1 hodd)

theorem roundDiv_nearest (hden : 0 < den) : Nearest (roundDiv num den) (num / den) := by
  have hpos : (0 : ℚ) < den := by exact_mod_cast hden
  have hx : (num / den : ℚ) = (num / den : Nat) + (num % den : Nat) / den := by
    have hsum : (num : ℚ) = den * (num / den : Nat) + (num % den : Nat) := by
      exact_mod_cast (Nat.div_add_mod num den).symm
    rw [hsum]
    field_simp
  have hrest : num % den < den := Nat.mod_lt num hden
  rw [hx]
  simp only [roundDiv]
  generalize num / den = q
  generalize num % den = r at hrest
  rcases Nat.lt_trichotomy (2 * r) den with hlt | heq | hgt
  · rw [if_pos hlt]
    refine nearest_of_lt (by positivity) ?_
    rw [div_lt_iff₀ hpos]
    have : (2 * r : ℚ) < den := by exact_mod_cast hlt
    linarith
  · rw [if_neg (by omega), if_neg (by omega)]
    have hhalf : (r / den : ℚ) = 1 / 2 := by
      rw [← heq]
      push_cast
      have : (r : ℚ) ≠ 0 := by
        have : 0 < r := by omega
        positivity
      field_simp
    rw [hhalf]
    exact nearest_of_tie
  · rw [if_neg (by omega), if_pos hgt]
    refine nearest_of_gt ?_ ?_
    · rw [lt_div_iff₀ hpos]
      have : (den : ℚ) < 2 * r := by exact_mod_cast hgt
      linarith
    · rw [div_le_one hpos]
      exact_mod_cast hrest.le

end Rounding

/-! ## Digits -/

section Digits

variable {places units n : Nat} {cs ds : List Char} {text text' : String}

/-- Texts of digits with the same length and the same value are the same. -/
theorem eq_of_ofDigitChars (hlength : cs.length = ds.length) (hcs : ∀ c ∈ cs, c.isDigit = true)
    (hds : ∀ d ∈ ds, d.isDigit = true)
    (hvalue : Nat.ofDigitChars 10 cs 0 = Nat.ofDigitChars 10 ds 0) : cs = ds := by
  induction cs generalizing ds with
  | nil => exact (List.length_eq_zero_iff.1 hlength.symm).symm
  | cons c cs ih =>
    obtain ⟨d, ds, rfl⟩ := List.exists_cons_of_length_eq_add_one hlength.symm
    obtain ⟨hc, hcs⟩ := List.forall_mem_cons.1 hcs
    obtain ⟨hd, hds⟩ := List.forall_mem_cons.1 hds
    have hlength : cs.length = ds.length := Nat.succ.inj hlength
    have hlow := ofDigitChars_lt hcs
    have hlow' := ofDigitChars_lt hds
    rw [hlength] at hlow
    rw [ofDigitChars_cons_zero, ofDigitChars_cons_zero, hlength] at hvalue
    have hpos : 0 < 10 ^ ds.length := Nat.pow_pos (by decide)
    have hfirst := congrArg (· / 10 ^ ds.length) hvalue
    simp only [Nat.mul_add_div hpos, Nat.div_eq_of_lt hlow, Nat.div_eq_of_lt hlow',
      Nat.add_zero] at hfirst
    rw [hfirst, Nat.add_left_cancel_iff] at hvalue
    have hsame : c = d := by
      have := Char.isDigit_iff_toNat.1 hc
      have := Char.isDigit_iff_toNat.1 hd
      exact Char.toNat_inj.1 (by omega)
    rw [hsame, ih hlength hcs hds hvalue]

/-- A count of units `10 ^ (-places)` is shown as the whole ones, and behind a point a digit for
every place. -/
def ShowsUnits (places units : Nat) (text : String) : Prop :=
  ∃ behind : List Char, behind.length = places ∧ (∀ c ∈ behind, c.isDigit = true) ∧
    Nat.ofDigitChars 10 behind 0 = units % 10 ^ places ∧
    text = toString (units / 10 ^ places) ++
      if places = 0 then "" else "." ++ String.ofList behind

theorem ShowsUnits.eq (h : ShowsUnits places units text) (h' : ShowsUnits places units text') :
    text = text' := by
  obtain ⟨behind, hlength, hdigits, hvalue, rfl⟩ := h
  obtain ⟨behind', hlength', hdigits', hvalue', rfl⟩ := h'
  rw [eq_of_ofDigitChars (hlength.trans hlength'.symm) hdigits hdigits' (hvalue.trans hvalue'.symm)]

/-- The digits of a number with so many zeros in front that one more than `places` are there. -/
def padded (places n : Nat) : List Char :=
  List.replicate (places + 1 - (Nat.toDigits 10 n).length) '0' ++ Nat.toDigits 10 n

theorem padded_zero : padded 0 n = Nat.toDigits 10 n := by
  have hpos : 0 < (Nat.toDigits 10 n).length := Nat.length_toDigits_pos
  rw [padded, Nat.sub_eq_zero_of_le (by omega), List.replicate_zero, List.nil_append]

theorem padded_succ : padded (places + 1) n = padded places (n / 10) ++ [(n % 10).digitChar] := by
  by_cases hn : n < 10
  · rw [padded, padded, Nat.toDigits_of_lt_base hn, Nat.div_eq_of_lt hn, Nat.toDigits_zero,
      Nat.mod_eq_of_lt hn]
    simp [List.replicate_succ']
  · rw [padded, padded, Nat.toDigits_of_base_le (by decide) (Nat.not_lt.1 hn)]
    simp

/-- The last digits of a number are those of the places, and the others those of the whole ones. -/
theorem padded_eq (places n : Nat) : ∃ behind : List Char, behind.length = places ∧
    (∀ c ∈ behind, c.isDigit = true) ∧ Nat.ofDigitChars 10 behind 0 = n % 10 ^ places ∧
    padded places n = Nat.toDigits 10 (n / 10 ^ places) ++ behind := by
  induction places generalizing n with
  | zero => exact ⟨[], rfl, by simp, by simp [Nat.mod_one], by simp [padded_zero]⟩
  | succ places ih =>
    obtain ⟨behind, hlength, hdigits, hvalue, hpadded⟩ := ih (n / 10)
    have hlast : n % 10 < 10 := Nat.mod_lt _ (by decide)
    refine ⟨behind ++ [(n % 10).digitChar], ?_, ?_, ?_, ?_⟩
    · simp [hlength]
    · refine List.forall_mem_append.2 ⟨hdigits, ?_⟩
      simpa [Nat.isDigit_digitChar] using hlast
    · rw [Nat.ofDigitChars_append, hvalue, Nat.ofDigitChars_cons_digitChar_of_lt_ten hlast,
        Nat.ofDigitChars_nil, Nat.pow_succ', Nat.mod_mul, Nat.add_comm]
    · rw [padded_succ, hpadded, Nat.div_div_eq_div_mul, Nat.pow_succ', List.append_assoc]

theorem pointed_shows : ShowsUnits places units (pointed places units) := by
  obtain ⟨behind, hlength, hdigits, hvalue, hpadded⟩ := padded_eq places units
  refine ⟨behind, hlength, hdigits, hvalue, ?_⟩
  have hdigitsOf : List.replicate (places + 1 - (Nat.repr units).toList.length) '0' ++
      (Nat.repr units).toList = Nat.toDigits 10 (units / 10 ^ places) ++ behind := by
    rw [Nat.toList_repr]
    exact hpadded
  simp only [pointed, hdigitsOf, List.length_append, hlength, Nat.add_sub_cancel, List.take_left,
    List.drop_left, Nat.toString_eq_ofList_toDigits]
  by_cases hzero : places = 0
  · rw [if_pos hzero, if_pos hzero, String.append_empty]
  · rw [if_neg hzero, if_neg hzero, String.append_assoc]

end Digits

/-! ## Doubles -/

/-- The bits of a double: its sign, eleven for the exponent, and the fraction. -/
structure Fields (x : Float) (negative : Bool) (exponent fraction : Nat) : Prop where
  bits : x.toBits.toNat =
    (if negative then 2 ^ 63 else 0) + exponent * 2 ^ 52 + fraction
  exponent_lt : exponent < 2 ^ 11
  fraction_lt : fraction < 2 ^ 52

/-- The magnitude of a finite double. -/
def magnitude (exponent fraction : Nat) : ℚ :=
  if exponent = 0 then fraction * 2 ^ (-1074 : ℤ)
  else (2 ^ 52 + fraction) * 2 ^ ((exponent : ℤ) - 1075)

/-- A double is shown with decimal places: a finite one as the nearest decimal number, with its sign
also if that is zero. -/
inductive ShowsValue (places : Nat) (x : Float) : String → Prop where
  | nan {negative : Bool} {fraction : Nat} : Fields x negative 2047 fraction → fraction ≠ 0 →
      ShowsValue places x "NaN"
  | infinite {negative : Bool} : Fields x negative 2047 0 →
      ShowsValue places x ((if negative then "-" else "") ++ "inf")
  | finite {negative : Bool} {exponent fraction units : Nat} {text : String} :
      Fields x negative exponent fraction → exponent < 2047 →
      Nearest units (magnitude exponent fraction * 10 ^ places) → ShowsUnits places units text →
      ShowsValue places x ((if negative then "-" else "") ++ text)

section Doubles

variable {places m : Nat} {e : ℤ} {x : Float} {negative negative' : Bool}
  {exponent exponent' fraction fraction' : Nat} {text text' : String}

theorem Fields.eq (h : Fields x negative exponent fraction)
    (h' : Fields x negative' exponent' fraction') :
    negative = negative' ∧ exponent = exponent' ∧ fraction = fraction' := by
  obtain ⟨hbits, hexponent, hfraction⟩ := h
  obtain ⟨hbits', hexponent', hfraction'⟩ := h'
  rw [hbits] at hbits'
  cases negative <;> cases negative' <;> simp at hbits' ⊢ <;> omega

theorem ShowsValue.eq (h : ShowsValue places x text) (h' : ShowsValue places x text') :
    text = text' := by
  cases h with
  | nan hfields hne =>
    cases h' with
    | nan => rfl
    | infinite hfields' => exact absurd (hfields.eq hfields').2.2 hne
    | finite hfields' hlt =>
      have := (hfields.eq hfields').2.1
      omega
  | infinite hfields =>
    cases h' with
    | nan hfields' hne => exact absurd (hfields'.eq hfields).2.2 hne
    | infinite hfields' => rw [(hfields.eq hfields').1]
    | finite hfields' hlt =>
      have := (hfields.eq hfields').2.1
      omega
  | finite hfields hlt hnear hunits =>
    cases h' with
    | nan hfields' | infinite hfields' =>
      have := (hfields.eq hfields').2.1
      omega
    | finite hfields' _ hnear' hunits' =>
      obtain ⟨rfl, rfl, rfl⟩ := hfields.eq hfields'
      obtain rfl := hnear.eq hnear'
      rw [hunits.eq hunits']

theorem scaled_nearest (places m : Nat) (e : ℤ) :
    Nearest (scaled places m e) (m * 2 ^ e * 10 ^ places) := by
  simp only [scaled, Nat.pow_eq]
  split
  next he =>
    obtain ⟨k, rfl⟩ := Int.eq_ofNat_of_zero_le he
    have hexact : (m * 2 ^ (k : ℤ) * 10 ^ places : ℚ) =
        (m * 10 ^ places * 2 ^ (k : ℤ).toNat : Nat) := by
      push_cast
      rw [zpow_natCast, Int.toNat_natCast]
      ring
    rw [hexact]
    exact nearest_self
  next he =>
    have hexact : (m * 2 ^ e * 10 ^ places : ℚ) =
        (m * 10 ^ places : Nat) / (2 ^ (-e).toNat : Nat) := by
      have hneg : (2 : ℚ) ^ e = (2 ^ (-e).toNat)⁻¹ := by
        rw [← zpow_natCast, Int.toNat_of_nonneg (by omega), ← zpow_neg, neg_neg]
      push_cast
      rw [hneg]
      ring
    rw [hexact]
    exact roundDiv_nearest (Nat.pow_pos (by decide))

/-- A double is taken apart into its fields. -/
theorem fields_ofBits (x : Float) :
    ∃ negative exponent fraction, Fields x negative exponent fraction ∧
      Binary.ofBits x.toBits =
        if exponent = 2047 then if fraction = 0 then .infinite negative else .nan
        else if exponent = 0 then .finite negative fraction (-1074)
        else .finite negative (2 ^ 52 + fraction) ((exponent : ℤ) - 1075) := by
  have hlt : x.toBits.toNat < 2 ^ 64 := x.toBits.toNat_lt
  refine ⟨x.toBits.toNat / 2 ^ 52 / 2048 == 1, x.toBits.toNat / 2 ^ 52 % 2048,
    x.toBits.toNat % 2 ^ 52, ⟨?_, by omega, by omega⟩, rfl⟩
  simp only [beq_iff_eq]
  split <;> omega

theorem fixed_shows (places : Nat) (x : Float) : ShowsValue places x (fixed places x) := by
  obtain ⟨negative, exponent, fraction, hfields, hbits⟩ := fields_ofBits x
  rw [fixed, hbits]
  by_cases hlast : exponent = 2047
  · subst hlast
    by_cases hzero : fraction = 0
    · subst hzero
      have hinfinite : (if negative then "-inf" else "inf") =
          (if negative then "-" else "") ++ "inf" := by
        cases negative <;> rfl
      rw [if_pos rfl, if_pos rfl, Binary.fixed, hinfinite]
      exact .infinite hfields
    · rw [if_pos rfl, if_neg hzero]
      exact .nan hfields hzero
  · have hlt : exponent < 2047 := by
      have := hfields.exponent_lt
      omega
    rw [if_neg hlast]
    split
    next hzero =>
      refine .finite hfields hlt ?_ pointed_shows
      rw [magnitude, if_pos hzero]
      exact scaled_nearest places fraction (-1074)
    next hnormal =>
      refine .finite hfields hlt ?_ pointed_shows
      rw [magnitude, if_neg hnormal]
      exact_mod_cast scaled_nearest places (2 ^ 52 + fraction) ((exponent : ℤ) - 1075)

/-- A double is shown by the text that `fixed` gives, and by no other. -/
theorem showsValue_iff : ShowsValue places x text ↔ text = fixed places x := by
  constructor
  · intro h
    exact h.eq (fixed_shows places x)
  · rintro rfl
    exact fixed_shows places x

end Doubles

/-! ## Lists -/

section Lists

variable {α : Type} {shows : α → String → Prop} {f : α → String} {as : List α} {text : String}

/-- A text lists some items in order, with commas between them. -/
inductive Listed (shows : α → String → Prop) : List α → String → Prop where
  | nil : Listed shows [] ""
  | one {a : α} {text : String} : shows a text → Listed shows [a] text
  | more {a b : α} {rest : List α} {text listed : String} : shows a text →
      Listed shows (b :: rest) listed → Listed shows (a :: b :: rest) (text ++ "," ++ listed)

/-- If each item is shown by one text, a list of items is too. -/
theorem listed_iff (h : ∀ a text, shows a text ↔ text = f a) :
    Listed shows as text ↔ text = ",".intercalate (as.map f) := by
  constructor
  · intro hlisted
    induction hlisted with
    | nil => rfl
    | one ha =>
      rw [(h _ _).1 ha, List.map_singleton, String.intercalate_singleton]
    | more ha _ ih =>
      rw [(h _ _).1 ha, ih, List.map_cons, List.map_cons, List.map_cons,
        String.intercalate_cons_cons]
  · rintro rfl
    induction as with
    | nil => exact .nil
    | cons a rest ih =>
      have ha : shows a (f a) := (h _ _).2 rfl
      cases rest with
      | nil =>
        rw [List.map_singleton, String.intercalate_singleton]
        exact .one ha
      | cons b rest =>
        rw [List.map_cons, List.map_cons, String.intercalate_cons_cons]
        exact .more ha ih

end Lists

end MeterNode.Text
