import Mathlib.Data.List.DropRight
import MeterNode.Proofs.Connection.Identity

/-!
# The normal form of addresses

An address that was read is in normal form (`Normal`, `ofText_normal`): it has a host without
slashes, a port, and a path that starts with a slash and does not end with one, unless it is empty.
Everything in normal form is written as its key and its path, and is read back from them
(`Normal.ofText_written`).  The reader cuts at the first `://`, at the first slash behind it and at
the last colon before that slash.  In the written form these are the places where the parts meet,
because neither the name of a scheme nor the port has a colon in it, and neither the host nor the
port a slash.  So the normal forms are what can be read (`normal_iff`), and the reader changes
nothing when it reads one again.

The key leaves the path out.  It tells apart what differs in scheme, host or port, also where a host
has colons in it (`key_eq_iff`).
-/

namespace MeterNode.Endpoint

open MeterNode.Text

variable {url host : String} {cs rest : List Char} {port : Nat} {e : Endpoint}

/-- The normal form of an address. -/
structure Normal (e : Endpoint) : Prop where
  host_nonempty : e.host ≠ ""
  host_short : e.host.utf8ByteSize ≤ 127
  host_slash : '/' ∉ e.host.toList
  port_pos : 1 ≤ e.port
  port_le : e.port ≤ 65535
  path_front : ∀ c ∈ e.path.toList.head?, c = '/'
  path_end : ∀ c ∈ e.path.toList.getLast?, c ≠ '/'

/-! ## What the reader finds -/

theorem port?_eq_ok_iff : port? cs = .ok port ↔ natural? 65535 cs = some port ∧ port ≠ 0 := by
  unfold port?
  cases natural? 65535 cs with
  | none => simp
  | some n =>
    cases n with
    | zero =>
      simp only [reduceCtorEq, Option.some.injEq, false_iff, not_and, not_not]
      exact Eq.symm
    | succ n =>
      simp only [Except.ok.injEq, Option.some.injEq]
      exact ⟨fun h => ⟨h, h ▸ Nat.succ_ne_zero n⟩, And.left⟩

/-- Host and port are what stands before and behind the last colon. -/
theorem authority?_eq_ok_iff : authority? cs = .ok (host, port) ↔ ∃ digits,
    cutLast ':' cs = some (host.toList, digits) ∧ host ≠ "" ∧ host.utf8ByteSize ≤ hostMax ∧
      port? digits = .ok port := by
  cases hcut : cutLast ':' cs with
  | none =>
    simp only [authority?, hcut]
    split
    next => simp
    next => split <;> simp
  | some parts =>
    obtain ⟨before, digits⟩ := parts
    simp only [authority?, hcut]
    constructor
    · intro h
      split at h
      next => cases h
      next hne =>
        split at h
        next => cases h
        next hle =>
          cases hport : port? digits with
          | error => rw [hport] at h; cases h
          | ok n =>
            rw [hport] at h
            cases h
            exact ⟨digits, by rw [String.toList_ofList], hne, Nat.le_of_not_lt hle, hport⟩
    · rintro ⟨_, h, hne, hle, hport⟩
      cases h
      rw [String.ofList_toList, if_neg hne, if_neg (Nat.not_lt.2 hle), hport]
      rfl

/-- The scheme ends at the first `://`, and what follows is cut at its first slash. -/
theorem ofText_eq_ok_iff : ofText url = .ok e ↔ ∃ name rest,
    cutOnce [':', '/', '/'] url.toList = some (name, rest) ∧
      Scheme.ofText? name = some e.scheme ∧
      authority? (rest.takeWhile (· ≠ '/')) = .ok (e.host, e.port) ∧
      e.path.toList = dropSlashes (rest.dropWhile (· ≠ '/')) := by
  cases hcut : cutOnce [':', '/', '/'] url.toList with
  | none => simp [ofText, hcut]
  | some parts =>
    obtain ⟨name, rest⟩ := parts
    cases hscheme : Scheme.ofText? name with
    | none =>
      simp only [ofText, hcut, hscheme]
      constructor
      · intro h
        cases h
      · rintro ⟨_, _, h, hnone, -⟩
        cases h
        rw [hscheme] at hnone
        cases hnone
    | some scheme =>
      simp only [ofText, hcut, hscheme]
      constructor
      · intro h
        cases hauthority : authority? (rest.takeWhile (· ≠ '/')) with
        | error => rw [hauthority] at h; cases h
        | ok parts =>
          rw [hauthority] at h
          cases h
          exact ⟨name, rest, rfl, hscheme, hauthority, by rw [String.toList_ofList]⟩
      · rintro ⟨_, _, h, hsome, hauthority, hpath⟩
        cases h
        rw [hscheme, Option.some.injEq] at hsome
        rw [hauthority, ← hpath, String.ofList_toList, hsome]
        rfl

/-! ## What was read is in normal form -/

theorem dropSlashes_eq : dropSlashes cs = cs.rdropWhile (· = '/') := rfl

theorem mem_dropSlashes_head {c : Char} (h : c ∈ (dropSlashes cs).head?) : c ∈ cs.head? := by
  obtain ⟨tail, hcs⟩ : dropSlashes cs <+: cs := List.rdropWhile_prefix _ _
  rw [← hcs]
  cases hdrop : dropSlashes cs with
  | nil => simp [hdrop] at h
  | cons d ds => simpa [hdrop] using h

theorem ne_of_mem_dropSlashes_getLast {c : Char} (h : c ∈ (dropSlashes cs).getLast?) :
    c ≠ '/' := by
  obtain ⟨hne, rfl⟩ := List.mem_getLast?_eq_getLast h
  have hlast := List.rdropWhile_last_not (· = '/') cs hne
  rwa [decide_eq_true_eq] at hlast

/-- Every address that was read is in normal form. -/
theorem ofText_normal (h : ofText url = .ok e) : e.Normal := by
  obtain ⟨name, rest, -, -, hauthority, hpath⟩ := ofText_eq_ok_iff.1 h
  obtain ⟨digits, hcut, hne, hle, hport⟩ := authority?_eq_ok_iff.1 hauthority
  obtain ⟨hdigits, hzero⟩ := port?_eq_ok_iff.1 hport
  obtain ⟨hwhole, -⟩ := cutLast_eq_some_iff.1 hcut
  have hslash : '/' ∉ rest.takeWhile (· ≠ '/') := fun hmem => by
    simpa using List.mem_takeWhile_imp hmem
  have hlimit : e.port ≤ 65535 := (natural?_eq_some_iff.1 hdigits).1
  refine ⟨hne, hle, fun hmem => hslash ?_, Nat.one_le_iff_ne_zero.2 hzero, hlimit, ?_, ?_⟩
  · rw [hwhole]
    exact List.mem_append_left _ hmem
  · intro c hc
    rw [hpath] at hc
    have hnot := List.head?_dropWhile_not (· ≠ '/') rest
    rw [Option.mem_def.1 (mem_dropSlashes_head hc)] at hnot
    simpa using hnot
  · intro c hc
    rw [hpath] at hc
    exact ne_of_mem_dropSlashes_getLast hc

/-! ## What is in normal form is read back -/

/-- What is written of an address: its key and its path. -/
theorem toList_written : (e.key ++ e.path).toList =
    e.scheme.name.toList ++ ':' :: '/' :: '/' :: (e.hostHeader.toList ++ e.path.toList) := by
  have hslashes : "://".toList = [':', '/', '/'] := by decide
  simp only [key, String.toList_append, hslashes, List.append_assoc, List.cons_append,
    List.nil_append]

theorem cutOnce_scheme {scheme : Scheme} :
    cutOnce [':', '/', '/'] (scheme.name.toList ++ ':' :: '/' :: '/' :: rest) =
      some (scheme.name.toList, rest) := by
  cases scheme <;> rfl

theorem Scheme.ofText?_name {scheme : Scheme} :
    Scheme.ofText? scheme.name.toList = some scheme := by
  cases scheme <;> decide

namespace Normal

theorem hostHeader_slash (h : e.Normal) : '/' ∉ e.hostHeader.toList := by
  have hport : '/' ∉ (toString e.port).toList := fun hmem =>
    absurd (isDigit_of_mem_toString hmem) (by decide)
  have hcolon : '/' ∉ ":".toList := by decide
  rw [hostHeader, String.toList_append, String.toList_append]
  simp only [List.mem_append, not_or]
  exact ⟨⟨h.host_slash, hcolon⟩, hport⟩

theorem authority?_hostHeader (h : e.Normal) :
    authority? e.hostHeader.toList = .ok (e.host, e.port) := by
  have hport : port? (toString e.port).toList = .ok e.port := by
    refine port?_eq_ok_iff.2 ⟨?_, Nat.one_le_iff_ne_zero.1 h.port_pos⟩
    rw [natural?_toString, if_pos h.port_le]
  exact authority?_eq_ok_iff.2 ⟨_, cutLast_hostHeader, h.host_nonempty, h.host_short, hport⟩

theorem dropSlashes_path (h : e.Normal) : dropSlashes e.path.toList = e.path.toList := by
  rw [dropSlashes_eq, List.rdropWhile_eq_self_iff]
  intro hne
  rw [decide_eq_true_eq]
  exact h.path_end _ (List.getLast?_eq_getLast_of_ne_nil hne)

/-- The first slash of the written form is where the path begins. -/
theorem span_written (h : e.Normal) :
    (e.hostHeader.toList ++ e.path.toList).takeWhile (· ≠ '/') = e.hostHeader.toList ∧
      (e.hostHeader.toList ++ e.path.toList).dropWhile (· ≠ '/') = e.path.toList := by
  have hheader : ∀ c ∈ e.hostHeader.toList, decide (c ≠ '/') = true := by
    intro c hc
    rw [decide_eq_true_eq]
    rintro rfl
    exact h.hostHeader_slash hc
  rw [List.takeWhile_append_of_pos hheader, List.dropWhile_append_of_pos hheader]
  cases hpath : e.path.toList with
  | nil => simp
  | cons c path =>
    have hc : c = '/' := h.path_front c (by rw [hpath]; rfl)
    simp [hc]

/-- The key and the path are read back. -/
theorem ofText_written (h : e.Normal) : ofText (e.key ++ e.path) = .ok e := by
  obtain ⟨hhead, htail⟩ := h.span_written
  refine ofText_eq_ok_iff.2 ⟨_, _, toList_written ▸ cutOnce_scheme, Scheme.ofText?_name, ?_, ?_⟩
  · rw [hhead, h.authority?_hostHeader]
  · rw [htail, h.dropSlashes_path]

end Normal

/-- The normal forms are what can be read. -/
theorem normal_iff : e.Normal ↔ ∃ url, ofText url = .ok e :=
  ⟨fun h => ⟨_, h.ofText_written⟩, fun ⟨_, h⟩ => ofText_normal h⟩

/-- An address that was read is in normal form and is read back from its key and its path.  Its key
is that of another address just when they have the same scheme, host and port. -/
theorem ofText_canonical (h : ofText url = .ok e) : e.Normal ∧ ofText (e.key ++ e.path) = .ok e ∧
    ∀ url' e', ofText url' = .ok e' →
      (e.key = e'.key ↔ e.scheme = e'.scheme ∧ e.host = e'.host ∧ e.port = e'.port) :=
  ⟨ofText_normal h, (ofText_normal h).ofText_written, fun _ _ _ => key_eq_iff⟩

/-- The host has colons in it, and nothing of the address is written in the normal form. -/
theorem ofText_canonical_of_colons :
    let e : Endpoint := ⟨.http, "[::1]", 8080, "/meter"⟩
    ofText "HTTP://[::1]:+8080/meter//" = .ok e ∧
      e.Normal ∧ ofText (e.key ++ e.path) = .ok e ∧
      ∀ url' e', ofText url' = .ok e' →
        (e.key = e'.key ↔ e.scheme = e'.scheme ∧ e.host = e'.host ∧ e.port = e'.port) := by
  intro e
  have hread : ofText "HTTP://[::1]:+8080/meter//" = .ok e := by decide
  exact ⟨hread, ofText_canonical hread⟩

end MeterNode.Endpoint
