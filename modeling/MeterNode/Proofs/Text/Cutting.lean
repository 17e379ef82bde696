import Mathlib.Data.List.TakeDrop
import Mathlib.Data.List.TakeWhile
import MeterNode.Text.Split

/-!
# How texts are cut

What the functions of `Text/Split` find when the place of the separator is known.

* A cut at the first or the last separator finds it (`cutOnce_eq_some_iff`, `cutLast_eq_some_iff`).
* The pieces of a text are what the separator joins to it (`pieces_eq_iff`).
* Lines end at line feeds and nowhere else (`lines_cons`), so the texts between line ends come back
  as lines (`lines_joined`).
* The words of a text are the pieces between blanks that are not empty (`words_eq_splitOnP`).  A
  line end is made of blanks, so the words of the first line are those before the first line feed,
  whether a carriage return stands there or not (`words_head_lines`).
* The first word is the only one that a text begins with, blanks apart (`words_eq_cons_iff`).
* A text is trimmed of all blanks at its ends and of nothing else (`trim_eq_iff`).
-/

namespace MeterNode.Text

variable {sep : Char} {cs line rest before after word blanks kept : List Char}
  {ps : List (List Char)}

/-! ## Cutting once -/

theorem cutOnce_cons {c : Char} {r : List Char} : cutOnce [sep] (c :: r) =
    if sep = c then some ([], r)
    else (cutOnce [sep] r).map fun (before, after) => (c :: before, after) := by
  have hfirst : [sep].isPrefixOf (c :: r) = decide (sep = c) := Bool.and_true _
  simp only [cutOnce, hfirst, decide_eq_true_eq]
  rfl

/-- The first separator is found. -/
theorem cutOnce_eq_some_iff :
    cutOnce [sep] cs = some (before, after) ↔ cs = before ++ sep :: after ∧ sep ∉ before := by
  induction cs generalizing before with
  | nil => simp [cutOnce]
  | cons c r ih =>
    rw [cutOnce_cons]
    split
    next hc =>
      subst hc
      constructor
      · intro h
        cases h
        exact ⟨rfl, List.not_mem_nil⟩
      · rintro ⟨h, hbefore⟩
        cases before with
        | nil =>
          cases h
          rfl
        | cons b before =>
          cases h
          exact absurd List.mem_cons_self hbefore
    next hc =>
      rw [Option.map_eq_some_iff]
      constructor
      · rintro ⟨⟨b, a⟩, hcut, h⟩
        cases h
        obtain ⟨rfl, hb⟩ := ih.1 hcut
        exact ⟨rfl, fun hmem => (List.mem_cons.1 hmem).elim hc hb⟩
      · rintro ⟨h, hbefore⟩
        cases before with
        | nil =>
          cases h
          exact absurd rfl hc
        | cons b before =>
          cases h
          have hrest : sep ∉ before := fun hmem => hbefore (List.mem_cons_of_mem _ hmem)
          exact ⟨(before, after), ih.2 ⟨rfl, hrest⟩, rfl⟩

/-- The last separator is found. -/
theorem cutLast_append (h : sep ∉ after) :
    cutLast sep (before ++ sep :: after) = some (before, after) := by
  have hkept : ∀ c ∈ after.reverse, decide (c ≠ sep) = true := by
    intro c hc
    rw [decide_eq_true_eq]
    rintro rfl
    exact h (List.mem_reverse.1 hc)
  have hspan : (before ++ sep :: after).reverse.span (· ≠ sep) =
      (after.reverse, sep :: before.reverse) := by
    rw [List.span_eq_takeWhile_dropWhile, List.reverse_append, List.reverse_cons, List.append_assoc,
      List.takeWhile_append_of_pos hkept, List.dropWhile_append_of_pos hkept]
    simp
  simp only [cutLast, hspan, List.reverse_reverse]

theorem cutLast_of_notMem (h : sep ∉ cs) : cutLast sep cs = none := by
  have hkept : ∀ c ∈ cs.reverse, decide (c ≠ sep) = true := by
    intro c hc
    rw [decide_eq_true_eq]
    rintro rfl
    exact h (List.mem_reverse.1 hc)
  have hspan : cs.reverse.span (· ≠ sep) = (cs.reverse, []) := by
    rw [List.span_eq_takeWhile_dropWhile, List.takeWhile_eq_self_iff.2 hkept,
      List.dropWhile_eq_nil_iff.2 hkept]
  simp only [cutLast, hspan]

/-- The cut is at the last separator and at no other. -/
theorem cutLast_eq_some_iff :
    cutLast sep cs = some (before, after) ↔ cs = before ++ sep :: after ∧ sep ∉ after := by
  constructor
  · intro h
    by_cases hmem : sep ∈ cs
    · obtain ⟨as, bs, hcs, has⟩ := List.eq_append_cons_of_mem (List.mem_reverse.2 hmem)
      have hcut : cs = bs.reverse ++ sep :: as.reverse := by
        rw [← List.reverse_reverse cs, hcs]
        simp
      have hafter : sep ∉ as.reverse := fun h => has (List.mem_reverse.1 h)
      rw [hcut, cutLast_append hafter] at h
      cases h
      exact ⟨hcut, hafter⟩
    · rw [cutLast_of_notMem hmem] at h
      cases h
  · rintro ⟨rfl, hafter⟩
    exact cutLast_append hafter

/-! ## Pieces -/

theorem pieces_ne_nil : pieces sep cs ≠ [] := by
  cases cs with
  | nil => simp [pieces]
  | cons c r =>
    simp only [pieces]
    split
    next => exact List.cons_ne_nil _ _
    next => split <;> exact List.cons_ne_nil _ _

theorem pieces_of_notMem (h : sep ∉ cs) : pieces sep cs = [cs] := by
  induction cs with
  | nil => rfl
  | cons c r ih =>
    obtain ⟨hc, hr⟩ := List.ne_and_not_mem_of_not_mem_cons h
    simp [pieces, Ne.symm hc, ih hr]

theorem pieces_append (h : sep ∉ line) :
    pieces sep (line ++ sep :: rest) = line :: pieces sep rest := by
  induction line with
  | nil => simp [pieces]
  | cons c r ih =>
    obtain ⟨hc, hr⟩ := List.ne_and_not_mem_of_not_mem_cons h
    simp [pieces, Ne.symm hc, ih hr]

theorem pieces_intercalate (hne : ps ≠ []) (hps : ∀ p ∈ ps, sep ∉ p) :
    pieces sep ([sep].intercalate ps) = ps := by
  induction ps with
  | nil => exact absurd rfl hne
  | cons p ps ih =>
    obtain ⟨hp, hrest⟩ := List.forall_mem_cons.1 hps
    cases ps with
    | nil => rw [List.intercalate_singleton, pieces_of_notMem hp]
    | cons q qs =>
      rw [List.intercalate_cons_cons, List.append_assoc, List.singleton_append, pieces_append hp,
        ih (List.cons_ne_nil q qs) hrest]

theorem pieces_joined : [sep].intercalate (pieces sep cs) = cs ∧ ∀ p ∈ pieces sep cs, sep ∉ p := by
  induction cs with
  | nil => simp [pieces]
  | cons c r ih =>
    have hsome : pieces sep r ≠ [] := pieces_ne_nil
    obtain ⟨p, ps, hpieces⟩ := List.exists_cons_of_ne_nil hsome
    rw [hpieces] at ih
    obtain ⟨hjoined, hapart⟩ := ih
    obtain ⟨hp, hps⟩ := List.forall_mem_cons.1 hapart
    simp only [pieces, hpieces]
    split
    next hc =>
      rw [List.intercalate_cons_cons, hjoined, hc]
      exact ⟨rfl, List.forall_mem_cons.2 ⟨List.not_mem_nil, hapart⟩⟩
    next hc =>
      have hne : sep ∉ c :: p := fun hmem => (List.mem_cons.1 hmem).elim (Ne.symm hc) hp
      refine ⟨?_, List.forall_mem_cons.2 ⟨hne, hps⟩⟩
      rw [← hjoined]
      cases ps with
      | nil => rw [List.intercalate_singleton, List.intercalate_singleton]
      | cons q qs =>
        rw [List.intercalate_cons_cons, List.intercalate_cons_cons]
        rfl

/-- The pieces are the texts without separators that give the text if they are joined by them. -/
theorem pieces_eq_iff : pieces sep cs = ps ↔
    ps ≠ [] ∧ [sep].intercalate ps = cs ∧ ∀ p ∈ ps, sep ∉ p := by
  constructor
  · rintro rfl
    exact ⟨pieces_ne_nil, pieces_joined⟩
  · rintro ⟨hne, rfl, hps⟩
    exact pieces_intercalate hne hps

/-! ## Lines -/

/-- A line feed ends a line. -/
theorem lines_cons (h : '\n' ∉ line) :
    lines (line ++ '\n' :: rest) = chopReturn line :: lines rest := by
  have hne : pieces '\n' rest ≠ [] := pieces_ne_nil
  obtain ⟨p, ps, hpieces⟩ := List.exists_cons_of_ne_nil hne
  simp only [lines, pieces_append h, hpieces]
  rw [List.dropLast_cons_cons, List.getLast?_cons_cons]
  rfl

/-- Without a line feed there is one line, unless there is nothing. -/
theorem lines_of_notMem (h : '\n' ∉ line) : lines line = if line = [] then [] else [line] := by
  simp [lines, pieces_of_notMem h]

@[simp] theorem chopReturn_append : chopReturn (line ++ ['\r']) = line := by
  simp [chopReturn]

/-- Lines that are joined by line ends come back. -/
theorem lines_joined {ls : List (List Char)} (hline : '\n' ∉ line)
    (hls : ∀ l ∈ ls, l ≠ [] ∧ '\n' ∉ l) (hfirst : line ≠ []) :
    lines (line ++ ls.flatMap (['\r', '\n'] ++ ·)) = line :: ls := by
  induction ls generalizing line with
  | nil => simp [lines_of_notMem hline, hfirst]
  | cons l ls ih =>
    obtain ⟨⟨hne, hl⟩, hrest⟩ := List.forall_mem_cons.1 hls
    have hended : '\n' ∉ line ++ ['\r'] := by simp [hline]
    have hsplit : line ++ (l :: ls).flatMap (['\r', '\n'] ++ ·) =
        (line ++ ['\r']) ++ '\n' :: (l ++ ls.flatMap (['\r', '\n'] ++ ·)) := by simp
    rw [hsplit, lines_cons hended, chopReturn_append, ih hl hrest hne]

/-! ## Words -/

theorem words_go (word : List Char) : words.go word cs =
    (List.splitOnPPrepend isAsciiBlank cs word).filter (· ≠ []) := by
  induction cs generalizing word with
  | nil => cases word <;> simp [words.go, List.splitOnPPrepend_nil]
  | cons c r ih =>
    rw [List.splitOnPPrepend_cons_eq_if]
    cases word with
    | nil =>
      simp only [words.go, ih, List.splitOnPPrepend_nil_right]
      split <;> simp
    | cons w word =>
      simp only [words.go, ih, List.splitOnPPrepend_nil_right]
      split <;> simp

/-- The words are the pieces between blanks that are not empty. -/
theorem words_eq_splitOnP : words cs = (cs.splitOnP isAsciiBlank).filter (· ≠ []) := by
  rw [words, words_go, List.splitOnPPrepend_nil_right]

/-- A word that is followed by a blank is the first one. -/
theorem words_cons {word : List Char} {c : Char} (hword : ∀ x ∈ word, isAsciiBlank x = false)
    (hne : word ≠ []) (hc : isAsciiBlank c = true) :
    words (word ++ c :: rest) = word :: words rest := by
  rw [words_eq_splitOnP, List.splitOnP_append_cons_of_forall_mem hword c hc,
    List.filter_cons_of_pos (by simpa using hne), words_eq_splitOnP]

/-- A blank at the end is no part of a word. -/
theorem words_append_blank {c : Char} (hc : isAsciiBlank c = true) :
    words (cs ++ [c]) = words cs := by
  rw [words_eq_splitOnP, List.splitOnP_append_cons _ _ hc, List.splitOnP_nil]
  simp [words_eq_splitOnP]

theorem words_chopReturn : words (chopReturn line) = words line := by
  unfold chopReturn
  split
  next h =>
    obtain ⟨init, rfl⟩ := List.getLast?_eq_some_iff.1 h
    rw [List.dropLast_concat, words_append_blank rfl]
  next => rfl

/-- The words of the first line are the words before the first line feed. -/
theorem words_head_lines :
    ((lines cs).head?.map words).getD [] = words (cs.takeWhile (· ≠ '\n')) := by
  have hkept {line : List Char} (hline : '\n' ∉ line) :
      ∀ c ∈ line, decide (c ≠ '\n') = true := by
    intro c hc
    rw [decide_eq_true_eq]
    rintro rfl
    exact hline hc
  by_cases h : '\n' ∈ cs
  · obtain ⟨line, rest, rfl, hline⟩ := List.eq_append_cons_of_mem h
    rw [lines_cons hline, List.takeWhile_append_of_pos (hkept hline)]
    simp [words_chopReturn]
  · rw [lines_of_notMem h, List.takeWhile_eq_self_iff.2 (hkept h)]
    split
    next hnil =>
      rw [hnil]
      rfl
    next => rfl

/-! ## The first word -/

/-- `word` is the first word of the text and `rest` is what follows it.  A word has no blank in it
and goes on up to a blank or the end. -/
def FirstWord (cs word rest : List Char) : Prop :=
  ∃ blanks, cs = blanks ++ (word ++ rest) ∧ (∀ c ∈ blanks, isAsciiBlank c = true) ∧ word ≠ [] ∧
    (∀ c ∈ word, isAsciiBlank c = false) ∧ ∀ c ∈ rest.head?, isAsciiBlank c = true

theorem words_blank_cons {c : Char} (hc : isAsciiBlank c = true) : words (c :: cs) = words cs := by
  simp only [words, words.go, if_pos hc]

theorem words_blanks_append (h : ∀ c ∈ blanks, isAsciiBlank c = true) :
    words (blanks ++ cs) = words cs := by
  induction blanks with
  | nil => rfl
  | cons c blanks ih =>
    obtain ⟨hc, hblanks⟩ := List.forall_mem_cons.1 h
    rw [List.cons_append, words_blank_cons hc, ih hblanks]

theorem words_word_append (hne : word ≠ []) (hword : ∀ c ∈ word, isAsciiBlank c = false)
    (hrest : ∀ c ∈ rest.head?, isAsciiBlank c = true) :
    words (word ++ rest) = word :: words rest := by
  cases rest with
  | nil =>
    rw [List.append_nil, words_eq_splitOnP, List.splitOnP_eq_singleton hword,
      List.filter_cons_of_pos (by simpa using hne)]
    rfl
  | cons c rest =>
    have hc : isAsciiBlank c = true := hrest c rfl
    rw [words_cons hword hne hc, words_blank_cons hc]

theorem FirstWord.words_eq (h : FirstWord cs word rest) : words cs = word :: words rest := by
  obtain ⟨blanks, rfl, hblanks, hne, hword, hrest⟩ := h
  rw [words_blanks_append hblanks, words_word_append hne hword hrest]

/-- A text that has words has a first one. -/
theorem exists_firstWord (h : words cs ≠ []) : ∃ word rest, FirstWord cs word rest := by
  induction cs with
  | nil => exact absurd rfl h
  | cons c cs ih =>
    by_cases hc : isAsciiBlank c = true
    · rw [words_blank_cons hc] at h
      obtain ⟨word, rest, blanks, rfl, hblanks, hword⟩ := ih h
      exact ⟨word, rest, c :: blanks, rfl, List.forall_mem_cons.2 ⟨hc, hblanks⟩, hword⟩
    · have hletters : ∀ x ∈ c :: cs.takeWhile (! isAsciiBlank ·), isAsciiBlank x = false := by
        refine List.forall_mem_cons.2 ⟨Bool.eq_false_iff.2 hc, fun x hx => ?_⟩
        simpa using List.mem_takeWhile_imp hx
      have hend : ∀ x ∈ (cs.dropWhile (! isAsciiBlank ·)).head?, isAsciiBlank x = true := by
        intro x hx
        have hnot := List.head?_dropWhile_not (! isAsciiBlank ·) cs
        rw [hx] at hnot
        simpa using hnot
      refine ⟨_, _, [], ?_, List.forall_mem_nil _, List.cons_ne_nil _ _, hletters, hend⟩
      rw [List.nil_append, List.cons_append, List.takeWhile_append_dropWhile]

/-- The words of a text are its first word and those of what follows it. -/
theorem words_eq_cons_iff {ws : List (List Char)} :
    words cs = word :: ws ↔ ∃ rest, FirstWord cs word rest ∧ words rest = ws := by
  constructor
  · intro h
    have hne : words cs ≠ [] := h ▸ List.cons_ne_nil _ _
    obtain ⟨first, rest, hfirst⟩ := exists_firstWord hne
    obtain ⟨rfl, hws⟩ := List.cons.inj (hfirst.words_eq.symm.trans h)
    exact ⟨rest, hfirst, hws⟩
  · rintro ⟨rest, hfirst, rfl⟩
    exact hfirst.words_eq

/-! ## Trimming -/

/-- `kept` is what is left of the text between the blanks at its ends. -/
def Trimmed (cs kept : List Char) : Prop :=
  ∃ left right, cs = left ++ (kept ++ right) ∧ (∀ c ∈ left, isBlank c = true) ∧
    (∀ c ∈ right, isBlank c = true) ∧ (∀ c ∈ kept.head?, isBlank c = false) ∧
    ∀ c ∈ kept.getLast?, isBlank c = false

theorem dropWhile_blanks (hblanks : ∀ c ∈ blanks, isBlank c = true)
    (hrest : ∀ c ∈ rest.head?, isBlank c = false) :
    (blanks ++ rest).dropWhile isBlank = rest := by
  rw [List.dropWhile_append_of_pos hblanks]
  cases rest with
  | nil => rfl
  | cons c rest => exact List.dropWhile_cons_of_neg (by simp [hrest c rfl])

theorem head?_dropWhile_blank : ∀ c ∈ (cs.dropWhile isBlank).head?, isBlank c = false := by
  intro c hc
  have hnot := List.head?_dropWhile_not isBlank cs
  rw [hc] at hnot
  exact hnot

theorem Trimmed.trim_eq (h : Trimmed cs kept) : trim cs = kept := by
  obtain ⟨left, right, rfl, hleft, hright, hhead, hlast⟩ := h
  by_cases hkept : kept = []
  · subst hkept
    have hall : ∀ c ∈ left ++ ([] ++ right), isBlank c = true := by
      simpa using fun c hc => hc.elim (hleft c) (hright c)
    rw [trim, List.dropWhile_eq_nil_iff.2 hall]
    rfl
  · have hends : ∀ c ∈ (kept ++ right).head?, isBlank c = false := by
      obtain ⟨first, inner, rfl⟩ := List.exists_cons_of_ne_nil hkept
      exact hhead
    have hback : ∀ c ∈ right.reverse, isBlank c = true :=
      fun c hc => hright c (List.mem_reverse.1 hc)
    rw [trim, dropWhile_blanks hleft hends, List.reverse_append, dropWhile_blanks hback,
      List.reverse_reverse]
    rwa [List.head?_reverse]

theorem trimmed_trim (cs : List Char) : Trimmed cs (trim cs) := by
  obtain ⟨inner, hinner⟩ : ∃ inner, inner = cs.dropWhile isBlank := ⟨_, rfl⟩
  have hsplit : inner = trim cs ++ (inner.reverse.takeWhile isBlank).reverse := by
    rw [trim, ← hinner, ← List.reverse_append, List.takeWhile_append_dropWhile,
      List.reverse_reverse]
  refine ⟨cs.takeWhile isBlank, (inner.reverse.takeWhile isBlank).reverse, ?_,
    fun c hc => List.mem_takeWhile_imp hc,
    fun c hc => List.mem_takeWhile_imp (List.mem_reverse.1 hc), fun c hc => ?_, ?_⟩
  · rw [← hsplit, hinner, List.takeWhile_append_dropWhile]
  · have hfirst : c ∈ (cs.dropWhile isBlank).head? := by
      rw [← hinner, hsplit, List.head?_append, Option.mem_def.1 hc]
      rfl
    exact head?_dropWhile_blank c hfirst
  · rw [trim, List.getLast?_reverse]
    exact head?_dropWhile_blank

/-- A text is trimmed of all blanks at its ends and of nothing else. -/
theorem trim_eq_iff : trim cs = kept ↔ Trimmed cs kept :=
  ⟨fun h => h ▸ trimmed_trim cs, Trimmed.trim_eq⟩

/-- Of a text with one blank in front of it, that blank is trimmed. -/
theorem trim_cons_of_notBlank {c : Char} (hc : isBlank c = true)
    (h : ∀ x ∈ cs, isBlank x = false) : trim (c :: cs) = cs :=
  Trimmed.trim_eq ⟨[c], [], by simp, by simpa using hc, by simp,
    fun x hx => h x (List.mem_of_mem_head? hx), fun x hx => h x (List.mem_of_getLast? hx)⟩

end MeterNode.Text
