import MeterNode.Proofs.Schedule.Lookups
import MeterNode.Proofs.Schedule.Metering
import MeterNode.Proofs.Schedule.Windows

/-!
# The cadence of reads

When an entry is read depends on its interval and on the time of its last read, its `Cadence`, and
on nothing else.  Only the entry's own read touches its cadence:

* A read starts the interval again and counts one attempt, whatever comes of it
  (`Entry.read_attempts`).  If the entry is open, the attempt asks its source (`Entry.read_asked`);
  in a run no entry is open without its source (`Scheduler.Course.opened`).
* Uploads, windows and the radio leave all cadences alone (`Scheduler.sendIfReady_steady`,
  `Scheduler.tendRadio_steady`), and count no attempts.
* So every tick moves every cadence on by the time at which the tick began (`Scheduler.Paced`), and
  behind a run the cadence of an entry is a function of its interval and of those times
  (`Cadence.after`, `Scheduler.Course.cadences`).

That two runs read an entry in the same ticks follows, for the ticks in which it is read are a
function of the same two things (`Scheduler.Course.attempts_eq`).
-/

namespace MeterNode

/-! ## Cadences -/

/-- What decides when an entry is read: the time between reads, and when the last one began. -/
structure Cadence where
  interval : Instant
  last : Option Instant

/-- A read is due. -/
def Cadence.isDue (c : Cadence) (now : Instant) : Bool := c.last.all (· + c.interval ≤ now)

/-- The cadence behind a tick that began at a time. -/
def Cadence.next (c : Cadence) (now : Instant) : Cadence :=
  if c.isDue now then { c with last := some now } else c

/-- The cadence behind ticks that began at some times, the latest first. -/
def Cadence.after (interval : Instant) : List Instant → Cadence
  | [] => ⟨interval, none⟩
  | now :: earlier => (Cadence.after interval earlier).next now

/-- The attempts in ticks that began at some times, the latest first. -/
def Cadence.attempts (interval : Instant) : List Instant → List Nat
  | [] => []
  | now :: earlier =>
      (if (Cadence.after interval earlier).isDue now then 1 else 0) ::
        Cadence.attempts interval earlier

theorem Cadence.after_interval {interval : Instant} {times : List Instant} :
    (Cadence.after interval times).interval = interval := by
  induction times with
  | nil => rfl
  | cons now earlier ih =>
    rw [Cadence.after, Cadence.next]
    split <;> exact ih

/-- If the last of some reads lies an interval behind, all of them do. -/
theorem Cadence.rested {interval now : Instant} {reads : List Instant}
    (hdue : reads.head?.all (· + interval ≤ now) = true)
    (hspaced : reads.Pairwise fun later earlier => earlier + interval ≤ later) :
    ∀ read ∈ reads, read + interval ≤ now := by
  cases reads with
  | nil => simp
  | cons last reads =>
    have hlast : last + interval ≤ now := by simpa using hdue
    have hfirst : ∀ read ∈ reads, read + interval ≤ last := (List.pairwise_cons.1 hspaced).1
    refine List.forall_mem_cons.2 ⟨hlast, fun read hread => (hfirst read hread).trans ?_⟩
    exact (Nat.le_add_right last interval).trans hlast

namespace Entry

variable {e : Entry} {now : Instant} {t : Trace Node}

/-- What decides when the entry is read. -/
def cadence (e : Entry) : Cadence := ⟨e.interval, e.lastRead⟩

/-- What a read of the entry asks the inputs of meters for: if it is open, something that a read of
its source does, and nothing otherwise. -/
def Asked (e : Entry) (utcMs : Nat) (asked : List (Nat × MeterCall)) : Prop :=
  if e.isOpen then asked ≠ [] ∧ e.source.Asked readingsPerRead utcMs asked else asked = []

/-- If the entry is open, so is its source. -/
def Opened (e : Entry) : Prop := e.isOpen = true → e.source.isOpen = true

/-- Uploads and the end of a window leave a part of the entries alone. -/
def Steady {α : Type} (part : Entry → α) : Prop :=
  ∀ (e : Entry) uploader channels held, part { e with uploader, channels, held } = part e

/-- A read leaves it alone, too. -/
def Lasting {α : Type} (part : Entry → α) : Prop :=
  ∀ (e : Entry) uploader channels held lastRead,
    part { e with uploader, channels, held, lastRead } = part e

theorem Lasting.steady {α : Type} {part : Entry → α} (h : Lasting part) : Steady part :=
  fun e uploader channels held => h e uploader channels held e.lastRead

theorem cadence_steady : Steady cadence := fun _ _ _ _ => rfl

theorem opened_lasting : Lasting Opened := fun _ _ _ _ _ => rfl

theorem readDueIn_eq_zero_iff : e.readDueIn now = 0 ↔ e.cadence.isDue now = true := by
  unfold readDueIn Cadence.isDue cadence
  cases e.lastRead with
  | none => simp
  | some last => simp [Nat.sub_eq_zero_iff_le]

end Entry

/-! ## Attempts -/

namespace Trace

variable {t t₁ t₂ : Trace Node} {e : Entry} {now : Instant} {kinds : List Effect.Kind}

/-- The attempts of a tick are those in the turns of its entries, and nothing outside these asks a
source. -/
def ReadsWithin (t : Trace Node) (turns : List (Trace Node)) : Prop :=
  ∃ before behind, t = before ++ (turns.flatten ++ behind) ∧ before.Unmetered ∧ behind.Unmetered

theorem ReadsWithin.attempts {turns : List (Trace Node)} (h : t.ReadsWithin turns) :
    t.attempts = attempts turns.flatten := by
  obtain ⟨before, behind, rfl, hbefore, hbehind⟩ := h
  rw [attempts_append, attempts_append, hbefore.1, hbehind.1, Nat.zero_add, Nat.add_zero]

/-- Nothing counts as an attempt, and no input is asked. -/
def Silent (t : Trace Node) : Prop := t.attempts = 0 ∧ t.Unread

theorem silent_append : (t₁ ++ t₂).Silent ↔ t₁.Silent ∧ t₂.Silent := by
  simp only [Silent, attempts_append, unread_append, Nat.add_eq_zero_iff]
  exact and_and_and_comm

/-- The entry is read once, at a time, by one attempt that asks its source.  Nothing around this
read counts as an attempt or asks an input. -/
def ReadsOnce (t : Trace Node) (e : Entry) (now : Instant) : Prop :=
  ∃ ahead reading behind supply utcMs res, t = ahead ++ (reading ++ behind) ∧
    (e.read supply utcMs now).Ends reading res ∧
    (reading.attempts = 1 ∧ e.Asked utcMs reading.questions) ∧
    ahead.Silent ∧ behind.Silent

theorem ReadsOnce.attempts (h : t.ReadsOnce e now) : t.attempts = 1 := by
  obtain ⟨ahead, reading, behind, _, _, _, rfl, -, ⟨hone, -⟩, hahead, hbehind⟩ := h
  rw [attempts_append, attempts_append, hone, hahead.1, hbehind.1]

theorem ReadsOnce.prepend (h : t.ReadsOnce e now) (h₁ : t₁.Silent) :
    (t₁ ++ t).ReadsOnce e now := by
  obtain ⟨ahead, reading, behind, supply, utcMs, res, rfl, hread, hone, hahead, hbehind⟩ := h
  exact ⟨t₁ ++ ahead, reading, behind, supply, utcMs, res, by simp, hread, hone,
    silent_append.2 ⟨h₁, hahead⟩, hbehind⟩

theorem ReadsOnce.append (h : t.ReadsOnce e now) (h₂ : t₂.Silent) :
    (t ++ t₂).ReadsOnce e now := by
  obtain ⟨ahead, reading, behind, supply, utcMs, res, rfl, hread, hone, hahead, hbehind⟩ := h
  exact ⟨ahead, reading, behind ++ t₂, supply, utcMs, res, by simp, hread, hone, hahead,
    silent_append.2 ⟨hbehind, h₂⟩⟩

/-- Reads are counted in notes. -/
theorem Of.attempts (h : t.Of kinds) (hnote : .note ∉ kinds) : t.attempts = 0 := by
  refine List.countP_eq_zero.2 fun tally htally hread => ?_
  obtain ⟨⟨op, answer⟩, hstep, hcount⟩ := List.mem_filterMap.1 htally
  have hof := h _ hstep
  cases op with
  | count tally' =>
    cases hcount
    cases tally with
    | meterRead ok => exact hnote hof
    | _ => cases hread
  | log | counters | now | net | takeEvents | radio | cpu | meter | pause | utc => cases hcount

theorem Of.silent (h : t.Of kinds) (hnote : .note ∉ kinds) (hinput : .input ∉ kinds) :
    t.Silent :=
  ⟨h.attempts hnote, h.unread hinput⟩

end Trace

/-- Every read of an entry counts one attempt and starts the interval again, whether the entry is
open or not and whatever comes of it. -/
theorem Entry.read_attempts {e : Entry} {now : Instant} {t : Trace Node}
    {supply : Option SupplyReading} {utcMs : Nat} {res : Except MeterError Nat × Entry}
    (h : (e.read supply utcMs now).Ends t res) :
    t.attempts = 1 ∧ res.2.cadence = ⟨e.interval, some now⟩ := by
  simp only [read] at h
  split at h
  next =>
    obtain ⟨_, hcount, rfl⟩ := Prog.ends_bind_pure.1 h
    exact ⟨attempts_count hcount, rfl⟩
  next =>
    obtain ⟨t₁, outcome, t₂, hread, k₁, rfl⟩ := Prog.ends_bind.1 h
    have hsource : t₁.attempts = 0 := by
      rw [Trace.attempts, Source.read_tallies hread, List.countP_nil]
    rw [Trace.attempts_append, hsource, Nat.zero_add]
    split at k₁
    next =>
      obtain ⟨_, hcount, rfl⟩ := Prog.ends_bind_pure.1 k₁
      exact ⟨attempts_count hcount, rfl⟩
    next =>
      obtain ⟨t₃, _, t₄, hcount, k₂, rfl⟩ := Prog.ends_bind.1 k₁
      obtain ⟨_, hlog, rfl⟩ := Prog.ends_bind_pure.1 k₂
      rw [Trace.attempts_append, attempts_count hcount, (hlog.unmetered (by simp)).1]
      exact ⟨rfl, rfl⟩

/-- Every read of an entry that is open asks its source, and no other one does. -/
theorem Entry.read_asked {e : Entry} {now : Instant} {t : Trace Node}
    {supply : Option SupplyReading} {utcMs : Nat} {res : Except MeterError Nat × Entry}
    (hopened : e.Opened) (h : (e.read supply utcMs now).Ends t res) :
    e.Asked utcMs t.questions := by
  obtain ⟨hclosed, hnote, -⟩ | ⟨hopen, t₁, outcome, t₂, rfl, hsource, hnote, -⟩ := read_ends h
  · rw [Asked, hclosed, if_neg Bool.false_ne_true]
    exact (hnote.unread (by decide)).questions
  · rw [Asked, hopen, if_pos rfl, Trace.questions_append, (hnote.unread (by decide)).questions,
      List.append_nil]
    have hasked := Source.read_asked (by decide) hsource
    exact ⟨hasked.ne_nil (hopened hopen), hasked⟩

namespace Scheduler

variable {s s' : Scheduler} {index i : Nat} {now : Instant} {atDefault keep : Bool} {e : Entry}
  {t : Trace Node}

/-! ## Turns -/

/-- In the turn of an entry, it is read once if it is due and not at all otherwise. -/
def Attempted (e : Entry) (now : Instant) (t : Trace Node) : Prop :=
  if e.readDueIn now = 0 then t.ReadsOnce e now else t.Silent

theorem Attempted.attempts (h : Attempted e now t) :
    t.attempts = if e.cadence.isDue now then 1 else 0 := by
  unfold Attempted at h
  split at h
  next hdue => rw [h.attempts, if_pos (Entry.readDueIn_eq_zero_iff.1 hdue)]
  next hlater => rw [h.1, if_neg (mt Entry.readDueIn_eq_zero_iff.2 hlater)]

theorem Attempted.append {t₂ : Trace Node} (h : Attempted e now t) (h₂ : t₂.Silent) :
    Attempted e now (t ++ t₂) := by
  unfold Attempted at h ⊢
  split at h
  next hdue => exact (if_pos hdue).mpr (h.append h₂)
  next hlater => exact (if_neg hlater).mpr (Trace.silent_append.2 ⟨h, h₂⟩)

/-- What decides when the entries are read. -/
def cadences (s : Scheduler) : List Cadence := s.entries.map Entry.cadence

theorem cadences_getElem? : s.cadences[i]? = s.entries[i]?.map Entry.cadence :=
  List.getElem?_map ..

theorem readEntry_attempts (he : s.entries[index]? = some e) (hopened : e.Opened)
    (h : (s.readEntry index e now).Ends t s') :
    t.ReadsOnce e now ∧ s'.cadences[index]? = some ⟨e.interval, some now⟩ := by
  obtain ⟨t₁, res, t₂, t₃, t₄, rfl, hbefore, hread, hrelease, ⟨hnote, hlog⟩, rfl⟩ :=
    readEntry_ends h
  obtain ⟨hone, hcadence⟩ := Entry.read_attempts hread
  have hlogged : Trace.Silent t₄ :=
    ⟨by rw [Trace.attempts, hlog, List.countP_nil], hnote.unread (by decide)⟩
  have hbehind : Trace.Silent (t₃ ++ t₄) :=
    Trace.silent_append.2 ⟨hrelease.silent (by decide) (by decide), hlogged⟩
  refine ⟨⟨t₁, t₂, t₃ ++ t₄, _, _, res, rfl, hread, ⟨hone, Entry.read_asked hopened hread⟩,
    hbefore.silent (by decide) (by decide), hbehind⟩, ?_⟩
  have hplace : (s.setEntry index res.2).entries[index]? = some res.2 :=
    List.getElem?_set_self (List.getElem?_eq_some_iff.1 he).1
  rw [cadences_getElem?, hplace, Option.map_some, hcadence]

theorem readIfDue_attempts {res : Bool × Scheduler} (he : s.entries[index]? = some e)
    (hopened : e.Opened) (h : (s.readIfDue index now atDefault).Ends t res) :
    Attempted e now t ∧ res.2.cadences[index]? = some (e.cadence.next now) := by
  have hnext (hdue : e.readDueIn now = 0) : e.cadence.next now = ⟨e.interval, some now⟩ :=
    if_pos (Entry.readDueIn_eq_zero_iff.1 hdue)
  cases readIfDue_gathered h with
  | nothing hlater =>
    have hrest : ¬ e.cadence.isDue now = true := mt Entry.readDueIn_eq_zero_iff.2 (hlater e he)
    refine ⟨(if_neg (hlater e he)).mpr ⟨rfl, Trace.unread_nil⟩, ?_⟩
    rw [cadences_getElem?, he, Option.map_some, Cadence.next, if_neg hrest]
  | @plain e' _ _ he' hdue _ hread =>
    obtain rfl : e = e' := Option.some.inj (he.symm.trans he')
    obtain ⟨honce, hcadence⟩ := readEntry_attempts he hopened hread
    rw [hnext hdue]
    exact ⟨(if_pos hdue).mpr honce, hcadence⟩
  | @raised e' raise _ _ speed _ he' hdue _ hraise hread =>
    obtain rfl : e = e' := Option.some.inj (he.symm.trans he')
    have he : ({ s with speed } : Scheduler).entries[index]? = some e := he
    obtain ⟨honce, hcadence⟩ := readEntry_attempts he hopened hread
    have hof := hraise.of (raiseClock_kinds (List.Subset.refl _))
    have hraised : Trace.Silent raise :=
      ⟨(hraise.unmetered raiseClock_unmetered).1, hof.unread (by decide)⟩
    rw [hnext hdue]
    exact ⟨(if_pos hdue).mpr (honce.prepend hraised), hcadence⟩

section Steady

variable {α : Type} {part : Entry → α} (hpart : Entry.Steady part)
include hpart

theorem serviceEntry_steady (h : (s.serviceEntry index now).Gives s') :
    s'.entries.map part = s.entries.map part := by
  obtain ⟨t, h⟩ := h
  cases serviceEntry_ends h with
  | skipped => rfl
  | unconnected =>
    refine List.ext_getElem? fun i => ?_
    rw [hold, List.getElem?_map, List.getElem?_map, List.getElem?_modify]
    cases s.entries[i]? with
    | none => rfl
    | some e =>
      simp only [Option.map_eq_map, Option.map_some]
      split
      · exact congrArg some (hpart e e.uploader e.channels true)
      · rfl
  | @stepped e c r _ _ he => exact map_setEntry he (hpart e _ _ _)

theorem beginUpload_steady {conn : ConnId} (h : (s.beginUpload index conn).Gives s') :
    s'.entries.map part = s.entries.map part := by
  simp only [beginUpload, Act.gives_bind] at h
  obtain ⟨now, -, s₁, hservice, h⟩ := h
  have hserved : s₁.entries.map part =
      ({ s with windowOpen := true } : Scheduler).entries.map part :=
    serviceEntry_steady hpart hservice
  split at h
  next =>
    obtain ⟨⟨state, registry⟩, -, h⟩ := Act.gives_bind.1 h
    rw [Act.gives_pure.1 h]
    exact hserved
  next =>
    rw [Act.gives_pure.1 h]
    exact hserved

theorem sendIfReady_steady {res : Bool × Bool × Scheduler}
    (h : (s.sendIfReady index now atDefault).Ends t res) :
    res.2.2.entries.map part = s.entries.map part := by
  cases sendIfReady_sent h with
  | nothing | deferred => rfl
  | goesOn _ _ hservice => exact serviceEntry_steady hpart hservice.gives
  | @begun _ _ _ _ _ speed radio _ _ _ _ hbegin =>
    have hbegun : _ = ({ s with speed, radio } : Scheduler).entries.map part :=
      beginUpload_steady hpart hbegin.gives
    exact hbegun

theorem closeWindow_steady : (s.closeWindow now).entries.map part = s.entries.map part := by
  rw [closeWindow, List.map_map]
  exact List.map_congr_left fun e _ => hpart e e.uploader e.channels false

theorem completeWindow_steady (h : (s.completeWindow now).Gives s') :
    s'.entries.map part = s.entries.map part := by
  rcases completeWindow_gives h with rfl | ⟨-, rfl, -⟩
  · rfl
  · exact closeWindow_steady hpart

theorem tendRadio_steady {statusTick : Bool} {due : Instant} {res : Bool × Scheduler}
    (h : (s.tendRadio keep atDefault statusTick due).Gives res) :
    res.2.entries.map part = s.entries.map part := by
  obtain ⟨radio, rfl | hup⟩ := tendRadio_gives h
  · rfl
  · obtain ⟨supply, time, resyncDue, ⟨rfl, -⟩ | ⟨-, -, -, hoff⟩⟩ := whileUp_gives hup
    · rfl
    · obtain ⟨registry, radio', now, -, -, hs'⟩ := radioOff_gives hoff
      rw [hs']
      exact closeWindow_steady hpart

end Steady

section Lasting

variable {α : Type} {part : Entry → α} (hpart : Entry.Lasting part)
include hpart

theorem readEntry_lasting (he : s.entries[index]? = some e)
    (h : (s.readEntry index e now).Ends t s') : s'.entries.map part = s.entries.map part := by
  obtain ⟨_, res, _, _, _, -, -, hread, -, -, rfl⟩ := readEntry_ends h
  refine map_setEntry he ?_
  rcases Entry.read_ends hread with ⟨-, -, hres⟩ | ⟨-, _, outcome, _, -, -, -, hres⟩
  · rw [hres]
    exact hpart e e.uploader e.channels e.held (some now)
  · rw [hres]
    exact hpart e e.uploader (e.filed outcome) e.held (some now)

theorem turn_lasting {res : Bool × Bool × Scheduler}
    (h : (s.turn index now atDefault).Ends t res) :
    res.2.2.entries.map part = s.entries.map part := by
  obtain ⟨t₁, ⟨atDefault', s₁⟩, t₂, h₁, h₂, rfl⟩ := Prog.ends_bind.1 h
  refine (sendIfReady_steady hpart.steady h₂).trans ?_
  cases readIfDue_gathered h₁ with
  | nothing => rfl
  | plain he _ _ hread => exact readEntry_lasting hpart he hread
  | @raised e _ _ _ speed _ he _ _ _ hread =>
    have he : ({ s with speed } : Scheduler).entries[index]? = some e := he
    have hkept : _ = ({ s with speed } : Scheduler).entries.map part :=
      readEntry_lasting hpart he hread
    exact hkept

theorem Turns.lasting {indices : List Nat} {ts : List (Trace Node)} {res : Bool × Bool × Scheduler}
    (h : Turns now indices keep atDefault s ts res) :
    res.2.2.entries.map part = s.entries.map part := by
  induction h with
  | nil => rfl
  | cons hturn _ ih => exact ih.trans (turn_lasting hpart hturn)

end Lasting

theorem turn_attempts {res : Bool × Bool × Scheduler} (he : s.entries[index]? = some e)
    (hopened : e.Opened) (h : (s.turn index now atDefault).Ends t res) :
    Attempted e now t ∧ res.2.2.cadences[index]? = some (e.cadence.next now) := by
  obtain ⟨t₁, ⟨atDefault', s₁⟩, t₂, h₁, h₂, rfl⟩ := Prog.ends_bind.1 h
  obtain ⟨hread, hcadence⟩ := readIfDue_attempts he hopened h₁
  have hkept : res.2.2.cadences = s₁.cadences := sendIfReady_steady Entry.cadence_steady h₂
  have hsilent : Trace.Silent t₂ :=
    ⟨(h₂.unmetered sendIfReady_unmetered).1, (sendIfReady_unread h₂).1⟩
  exact ⟨hread.append hsilent, by rw [hkept, hcadence]⟩

/-- Every entry is read in its own turn, as it was before the turns. -/
theorem Turns.attempts {indices : List Nat} {ts : List (Trace Node)} {res : Bool × Bool × Scheduler}
    {k : Nat} (h : Turns now indices keep atDefault s ts res) (hmarked : s.Marked)
    (hdistinct : indices.Nodup) (hk : indices[k]? = some i) (he : s.entries[i]? = some e)
    (hopened : e.Opened) : (∀ turn, ts[k]? = some turn → Attempted e now turn) ∧
      res.2.2.cadences[i]? = some (e.cadence.next now) := by
  induction h generalizing k with
  | nil => cases hk
  | @cons index rest keep atDefault needs atDefault' s s' t ts res hturn hrest ih =>
    obtain ⟨hfresh, hdistinct⟩ := List.nodup_cons.1 hdistinct
    have hfirst := turn_ends_turn hmarked hturn
    cases k with
    | zero =>
      obtain rfl : index = i := Option.some.inj hk
      obtain ⟨hread, hcadence⟩ := turn_attempts he hopened hturn
      refine ⟨fun turn hhead => Option.some.inj hhead ▸ hread, ?_⟩
      rw [cadences_getElem?, hrest.others (hfirst.marked hmarked) hfresh, ← cadences_getElem?]
      exact hcadence
    | succ k =>
      have hi : i ≠ index := by
        rintro rfl
        exact hfresh (List.mem_of_getElem? hk)
      exact ih (hfirst.marked hmarked) hdistinct hk (by rw [hfirst.others i hi]; exact he)

/-- All entries have their turns, and go through them alike. -/
theorem Turns.cadences {ts : List (Trace Node)} {res : Bool × Bool × Scheduler}
    (h : Turns now (List.range s.entries.length) keep atDefault s ts res) (hmarked : s.Marked)
    (hopened : ∀ e ∈ s.entries, e.Opened) :
    res.2.2.cadences = s.cadences.map fun c => c.next now := by
  refine List.ext_getElem? fun i => ?_
  cases he : s.entries[i]? with
  | some e =>
    have hi : (List.range s.entries.length)[i]? = some i :=
      List.getElem?_range (List.getElem?_eq_some_iff.1 he).1
    have hopened : e.Opened := hopened e (List.mem_of_getElem? he)
    rw [(h.attempts hmarked List.nodup_range hi he hopened).2, List.getElem?_map,
      cadences_getElem?, he]
    rfl
  | none =>
    have hi : i ∉ List.range s.entries.length := fun hmem =>
      absurd (List.mem_range.1 hmem) (Nat.not_lt.2 (List.getElem?_eq_none_iff.1 he))
    rw [List.getElem?_map, cadences_getElem?, cadences_getElem?, h.others hmarked hi, he]
    rfl

/-! ## Ticks -/

/-- The turns of a tick, and what it leaves alone around them. -/
theorem Passed.turned {turns : List (Trace Node)} {res : TickReport × Scheduler}
    (h : Passed s now turns t res) : ∃ s₁ s₂ keep atDefault atDefault', Mild s s₁ ∧
      s₁.entries = s.entries ∧ Turns now (List.range s.entries.length) false atDefault s₁ turns
        (keep, atDefault', s₂) ∧
      t.ReadsWithin turns ∧ ∀ {α : Type} {part : Entry → α}, Entry.Steady part →
        res.2.entries.map part = s₂.entries.map part := by
  cases h with
  | @intro s₁ s₂ s₃ s₄ s₅ s₆ s₇ _ _ _ keep _ tcount tnetwork tclock twindow tradio tlower treport _
      hcount hnetwork hclock hturns hwindow hradio hlower hreport =>
    have hcounted : tcount.Unmetered := hcount.unmetered countTick_unmetered
    have hserviced : tnetwork.Unmetered := hnetwork.unmetered serviceNetwork_unmetered
    have hclocked : tclock.Unmetered := hclock.unmetered SpeedController.isDefault_unmetered
    have hclosed : twindow.Unmetered := hwindow.unmetered completeWindow_unmetered
    have htended : tradio.Unmetered := hradio.unmetered tendRadio_unmetered
    have hlowered : tlower.Unmetered := hlower.unmetered lowerClock_unmetered
    have hreported : treport.Unmetered := hreport.unmetered report_unmetered
    have hwithin : Trace.ReadsWithin (tcount ++ (tnetwork ++ (tclock ++ (turns.flatten ++
        (twindow ++ (tradio ++ (tlower ++ treport))))))) turns :=
      ⟨tcount ++ (tnetwork ++ tclock), _, by simp, hcounted.append (hserviced.append hclocked),
        hclosed.append (htended.append (hlowered.append hreported))⟩
    obtain ⟨ticks, resyncDue, rfl⟩ := countTick_gives hcount.gives
    obtain ⟨_, _, registry, -, -, -, rfl⟩ := serviceNetwork_gives hnetwork.gives
    refine ⟨{ s with ticks, resyncDue, registry }, s₃, keep, _, _, ⟨rfl, rfl⟩, rfl, hturns, hwithin,
      fun hpart => ?_⟩
    obtain ⟨speed, rfl, -⟩ := report_gives hreport.gives
    obtain ⟨radio, speed', rfl⟩ : ∃ radio speed', s₆ = { s₅ with radio, speed := speed' } :=
      lowerClock_gives hlower.gives
    exact (tendRadio_steady hpart hradio.gives).trans (completeWindow_steady hpart hwindow.gives)

/-- No tick touches a part of the entries that lasts. -/
theorem Passed.lasting {α : Type} {part : Entry → α} (hpart : Entry.Lasting part)
    {turns : List (Trace Node)} {res : TickReport × Scheduler} (h : Passed s now turns t res) :
    res.2.entries.map part = s.entries.map part := by
  obtain ⟨s₁, s₂, _, _, _, -, hentries, hturns, -, hsteady⟩ := h.turned
  rw [hsteady hpart.steady, ← hentries]
  exact hturns.lasting hpart

/-- What a tick does to the reads. -/
structure Paced (now : Instant) (turns : List (Trace Node)) (t : Trace Node) (s s' : Scheduler) :
    Prop where
  /-- Nothing is read outside the turns. -/
  within : t.ReadsWithin turns
  /-- Every entry has a turn. -/
  served : turns.length = s.entries.length
  attempted : ∀ (i : Nat) (e : Entry) (turn : Trace Node), s.entries[i]? = some e →
    turns[i]? = some turn → Attempted e now turn
  cadences : s'.cadences = s.cadences.map fun c => c.next now

theorem Passed.paced {turns : List (Trace Node)} {res : TickReport × Scheduler}
    (h : Passed s now turns t res) (hmarked : s.Marked) (hopened : ∀ e ∈ s.entries, e.Opened) :
    Paced now turns t s res.2 := by
  obtain ⟨s₁, s₂, _, _, _, hbefore, hentries, hturns, hwithin, hsteady⟩ := h.turned
  have hcadences : s₁.cadences = s.cadences := by rw [cadences, hentries, cadences]
  rw [← hentries] at hturns hopened
  refine ⟨hwithin, by rw [hturns.length_eq, List.length_range, hentries], ?_, ?_⟩
  · intro i e turn he hturn
    rw [← hentries] at he
    have hi : (List.range s₁.entries.length)[i]? = some i :=
      List.getElem?_range (List.getElem?_eq_some_iff.1 he).1
    exact (hturns.attempts (hmarked.mild hbefore) List.nodup_range hi he
      (hopened e (List.mem_of_getElem? he))).1 turn hturn
  · rw [← hcadences, ← hturns.cadences (hmarked.mild hbefore) hopened]
    exact hsteady Entry.cadence_steady

/-! ## Setting up -/

theorem openEntry_cadence {res : Except MeterError Unit × Entry} (h : e.openEntry.Gives res) :
    res.2.cadence = e.cadence := by
  obtain ⟨source, isOpen, hentry, hinterval, -⟩ := openEntry_gives h
  rw [hentry]
  exact congrArg (Cadence.mk · e.lastRead) hinterval

/-- An entry is not opened without its source. -/
theorem openEntry_opened {res : Except MeterError Unit × Entry} (h : e.openEntry.Gives res) :
    res.2.Opened = e.Opened := by
  obtain ⟨source, isOpen, hentry, -, ⟨rfl, rfl⟩ | ⟨hclosed, hsource⟩⟩ := openEntry_gives h
  · rw [hentry]
  · have hbefore : e.Opened := fun hopen => absurd hopen (by simp [hclosed])
    have hbehind : res.2.Opened := by
      rw [hentry]
      exact hsource
    exact propext (iff_of_true hbehind hbefore)

theorem start_map {α : Type} {part : Entry → α} {res : Except Fault Unit × Scheduler}
    (hpart : ∀ {e : Entry} {res : Except MeterError Unit × Entry}, e.openEntry.Gives res →
      part res.2 = part e) (h : s.start.Gives res) :
    res.2.entries.map part = s.entries.map part := by
  simp only [start] at h
  split at h
  next => rw [Act.gives_pure.1 h]
  next =>
    simp only [Act.gives_bind, Act.gives_pure] at h
    obtain ⟨entries, hentries, now, -, _, -, rfl⟩ := h
    exact openEntries_map hpart hentries

theorem build_cadences {setup : NodeSetup} (h : setup.build.Gives (.ok s)) :
    s.cadences = setup.sources.map fun x => ⟨x.source.interval, none⟩ := by
  obtain ⟨-, -, r, hconnect, -⟩ := build_gives h
  exact connectEach_map (fun _ _ _ => rfl) hconnect

theorem build_opened {setup : NodeSetup} (h : setup.build.Gives (.ok s)) :
    s.entries.map Entry.Opened = setup.sources.map fun _ => True := by
  obtain ⟨-, -, r, hconnect, -⟩ := build_gives h
  exact connectEach_map (fun _ _ _ => by simp [Entry.Opened, NodeSetup.entryOf]) hconnect

/-! ## Runs -/

variable {setup setup' : NodeSetup} {logs : List TickLog} {x : SourceSetup}

/-- The attempts to read the entry at a place in a tick. -/
def TickLog.attempts (log : TickLog) (i : Nat) : Nat := (log.turns[i]?.getD []).attempts

/-- When the ticks began in which the entry at a place was read. -/
def readTimes (i : Nat) (logs : List TickLog) : List Instant :=
  (logs.filter fun log => log.attempts i ≠ 0).map TickLog.now

theorem readTimes_cons {log : TickLog} {i : Nat} :
    readTimes i (log :: logs) =
      if log.attempts i = 0 then readTimes i logs else log.now :: readTimes i logs := by
  unfold readTimes
  split
  next h => rw [List.filter_cons_of_neg (by simp [h])]
  next h => rw [List.filter_cons_of_pos (by simp [h]), List.map_cons]

/-- The last tick of a course follows a course. -/
theorem Course.last {log : TickLog} (h : Course setup t (log :: logs) s) :
    ∃ t₀, Course setup t₀ logs log.before ∧
      Passed log.before log.now log.turns log.trace (log.report, log.after) := by
  generalize hlogs : log :: logs = logs' at h
  induction h with
  | built | joined => cases hlogs
  | start _ _ ih => exact ih hlogs
  | tick hcourse hpassed =>
    cases hlogs
    exact ⟨_, hcourse, hpassed⟩

theorem Course.of_mem {log : TickLog} (h : Course setup t logs s) (hlog : log ∈ logs) :
    ∃ t₀ logs₀, Course setup t₀ logs₀ log.before ∧
      Passed log.before log.now log.turns log.trace (log.report, log.after) := by
  induction logs generalizing t s with
  | nil => cases hlog
  | cons last logs ih =>
    obtain ⟨t₀, hcourse, hpassed⟩ := h.last
    rcases List.mem_cons.1 hlog with rfl | hlog
    · exact ⟨t₀, logs, hcourse, hpassed⟩
    · exact ih hcourse hlog

/-- In a run no entry is open without its source. -/
theorem Course.opened (h : Course setup t logs s) : ∀ e ∈ s.entries, e.Opened := by
  have hbuilt {s : Scheduler} (hbuild : setup.build.Gives (.ok s)) :
      ∀ opened ∈ s.entries.map Entry.Opened, opened := by
    rw [build_opened hbuild]
    simp
  have hall : ∀ opened ∈ s.entries.map Entry.Opened, opened := by
    induction h with
    | built hbuild => exact hbuilt hbuild.gives
    | joined hbuild => exact (hbuilt hbuild.gives :)
    | start _ hstart ih =>
      rw [start_map openEntry_opened hstart.gives]
      exact ih
    | tick _ hpassed ih =>
      rw [hpassed.lasting Entry.opened_lasting]
      exact ih
  exact fun e he => hall e.Opened (List.mem_map_of_mem he)

/-- The cadences depend on nothing but the intervals and the times at which the ticks began. -/
theorem Course.cadences (h : Course setup t logs s) : s.cadences =
    setup.sources.map fun x => Cadence.after x.source.interval (logs.map TickLog.now) := by
  induction h with
  | built hbuild => exact build_cadences hbuild.gives
  | joined hbuild => exact (build_cadences hbuild.gives :)
  | start _ hstart ih => exact (start_map openEntry_cadence hstart.gives).trans ih
  | tick hcourse hpassed ih =>
    rw [(hpassed.paced hcourse.marked hcourse.opened).cadences, ih, List.map_map]
    rfl

theorem Course.entry (h : Course setup t logs s) (hx : setup.sources[i]? = some x) :
    ∃ e, s.entries[i]? = some e ∧
      e.cadence = Cadence.after x.source.interval (logs.map TickLog.now) := by
  refine Option.map_eq_some_iff.1 ?_
  rw [← cadences_getElem?, h.cadences, List.getElem?_map, hx]
  rfl

theorem Course.intervals (h : Course setup t logs s) :
    s.entries.map Entry.interval = setup.sources.map (·.source.interval) := by
  have hcadences := congrArg (List.map Cadence.interval) h.cadences
  simp only [Scheduler.cadences, List.map_map, Function.comp_def, Cadence.after_interval]
    at hcadences
  exact hcadences

theorem Course.attempts_last {log : TickLog} (h : Course setup t (log :: logs) s)
    (hx : setup.sources[i]? = some x) : log.attempts i =
      if (Cadence.after x.source.interval (logs.map TickLog.now)).isDue log.now then 1 else 0 := by
  obtain ⟨t₀, hcourse, hpassed⟩ := h.last
  obtain ⟨e, he, hcadence⟩ := hcourse.entry hx
  have hpaced := hpassed.paced hcourse.marked hcourse.opened
  have hi : i < log.turns.length := by
    rw [hpaced.served]
    exact (List.getElem?_eq_some_iff.1 he).1
  have hturn : log.turns[i]? = some log.turns[i] := List.getElem?_eq_getElem hi
  rw [TickLog.attempts, hturn, Option.getD_some, (hpaced.attempted i e _ he hturn).attempts,
    hcadence]

/-- The ticks in which an entry is read depend on nothing but its interval and the times at which
the ticks began. -/
theorem Course.attempts_eq (h : Course setup t logs s) (hx : setup.sources[i]? = some x) :
    logs.map (·.attempts i) = Cadence.attempts x.source.interval (logs.map TickLog.now) := by
  induction logs generalizing t s with
  | nil => rfl
  | cons log logs ih =>
    obtain ⟨t₀, hcourse, -⟩ := h.last
    rw [List.map_cons, List.map_cons, Cadence.attempts, ih hcourse, h.attempts_last hx]

/-- The cadence has the last read, and every read leaves the interval to the one before. -/
theorem Course.spaced (h : Course setup t logs s) (hx : setup.sources[i]? = some x) :
    (readTimes i logs).head? = (Cadence.after x.source.interval (logs.map TickLog.now)).last ∧
      (readTimes i logs).Pairwise fun later earlier => earlier + x.source.interval ≤ later := by
  induction logs generalizing t s with
  | nil => exact ⟨rfl, .nil⟩
  | cons log logs ih =>
    obtain ⟨t₀, hcourse, -⟩ := h.last
    obtain ⟨hlast, hspaced⟩ := ih hcourse
    rw [readTimes_cons, h.attempts_last hx, List.map_cons, Cadence.after, Cadence.next]
    split
    next hdue =>
      refine ⟨rfl, List.pairwise_cons.2 ⟨fun earlier hearlier => ?_, hspaced⟩⟩
      rw [Cadence.isDue, Cadence.after_interval, ← hlast] at hdue
      exact Cadence.rested hdue hspaced earlier hearlier
    next => exact ⟨hlast, hspaced⟩

/-- The reads of an entry are its own affair.  In every tick nothing is read outside the turns of
the entries, and in its turn an entry is read once if a read was due when the tick began, by one
attempt that asks its source, and not at all otherwise.  The reads of an entry begin an interval
apart at least.  And two runs whose ticks begin at the same times read an entry of the same interval
in the same ticks, whatever else they differ in. -/
theorem Course.read_cadence (h : Course setup t logs s) :
    (∀ log ∈ logs, log.trace.attempts = Trace.attempts log.turns.flatten ∧
      log.trace.ReadsWithin log.turns ∧
      log.turns.length = log.before.entries.length ∧
      log.before.entries.map Entry.interval = setup.sources.map (·.source.interval) ∧
      ∀ (i : Nat) (e : Entry) (turn : Trace Node), log.before.entries[i]? = some e →
        log.turns[i]? = some turn → Attempted e log.now turn) ∧
    ∀ i x, setup.sources[i]? = some x →
      (readTimes i logs).Pairwise (fun later earlier => earlier + x.source.interval ≤ later) ∧
      ∀ setup' t' logs' s' x', Course setup' t' logs' s' → setup'.sources[i]? = some x' →
        x'.source.interval = x.source.interval →
        logs'.map TickLog.now = logs.map TickLog.now →
        logs'.map (·.attempts i) = logs.map (·.attempts i) := by
  refine ⟨fun log hlog => ?_, fun i x hx => ⟨(h.spaced hx).2, ?_⟩⟩
  · obtain ⟨t₀, logs₀, hcourse, hpassed⟩ := h.of_mem hlog
    have hpaced := hpassed.paced hcourse.marked hcourse.opened
    exact ⟨hpaced.within.attempts, hpaced.within, hpaced.served, hcourse.intervals,
      hpaced.attempted⟩
  · intro setup' t' logs' s' x' h' hx' hinterval htimes
    rw [h'.attempts_eq hx', h.attempts_eq hx, hinterval, htimes]

/-! ## On the bench -/

/-- The node ticks, and the tick begins at a time. -/
def Play.tickAt (y : Play) (now : Instant) : Play := y.tick fun w => { w with clock := now }

theorem Play.tickAt_course {y : Play} (h : Course setup y.trace logs y.node) (now : Instant) :
    ∃ log, log.now = now ∧ Course setup (y.tickAt now).trace (log :: logs) (y.tickAt now).node := by
  have htick := traced_ends { y.world with clock := now } y.node.tick
  obtain ⟨log, -, -, -, htrace, hcourse⟩ := h.tick_ends htick
  have hfirst : (traced { y.world with clock := now } y.node.tick).1.head? =
      some ⟨.now, now⟩ := rfl
  rw [htrace] at hfirst
  cases hfirst
  exact ⟨log, rfl, hcourse⟩

theorem Play.ticksAt_course {y : Play} (h : Course setup y.trace logs y.node)
    (times : List Instant) : ∃ logs', Course setup (times.foldl Play.tickAt y).trace logs'
        (times.foldl Play.tickAt y).node ∧
      logs'.map TickLog.now = times.reverse ++ logs.map TickLog.now := by
  induction times generalizing y logs with
  | nil => exact ⟨logs, h, rfl⟩
  | cons now times ih =>
    obtain ⟨log, rfl, hcourse⟩ := Play.tickAt_course h now
    obtain ⟨logs', hcourse', htimes⟩ := ih hcourse
    refine ⟨logs', hcourse', ?_⟩
    rw [htimes, List.map_cons, List.reverse_cons, List.append_assoc]
    rfl

/-- On every bench on which a node can be put together it runs, and its ticks begin when they
should. -/
theorem course_at {w : Bench.World} (h : (Play.begin setup w).isSome = true)
    (times : List Instant) :
    ∃ t logs s, Course setup t logs s ∧ logs.map TickLog.now = times.reverse := by
  obtain ⟨y, hy⟩ := Option.isSome_iff_exists.1 h
  obtain ⟨logs, hcourse, htimes⟩ := Play.ticksAt_course (begin_course hy).1 times
  exact ⟨_, logs, _, hcourse, htimes.trans (List.append_nil _)⟩

/-- Two meters that are read every minute. -/
def paired : NodeSetup :=
  { lone with
    sources := lone.sources ++
      [{ url := "http://coll.example:8080/middleware.php"
         source := .external ⟨1, "em", Instant.ofSeconds 60, false, false⟩
         channels := [{ uuid := "v", identifier := none }] }] }

/-- In five ticks, two of them half an interval late, the second meter is read in every other one:
where the first meter works and lookups stay out, and just so where it does not and they fail. -/
theorem read_cadence_of_paired : ∃ t logs s t' logs' s',
    Course paired t logs s ∧ Course paired t' logs' s' ∧
      logs.map (·.attempts 1) = [1, 0, 1, 0, 1] ∧
      (readTimes 1 logs).Pairwise (fun later earlier => earlier + Instant.ofSeconds 60 ≤ later) ∧
      logs'.map (·.attempts 1) = logs.map (·.attempts 1) := by
  let times : List Instant := [1, 31, 61, 91, 121].map Instant.ofSeconds
  obtain ⟨t, logs, s, hcourse, htimes⟩ : ∃ t logs s, Course paired t logs s ∧ _ :=
    course_at (w := bench (.ok .pending)) (by decide +kernel) times
  obtain ⟨t', logs', s', hcourse', htimes'⟩ : ∃ t logs s, Course paired t logs s ∧ _ :=
    course_at (w := { bench (.error .timeout) with meters := [] }) (by decide +kernel) times
  obtain ⟨hspaced, hsame⟩ := hcourse.read_cadence.2 1 _ rfl
  refine ⟨t, logs, s, t', logs', s', hcourse, hcourse', ?_, hspaced, ?_⟩
  · rw [hcourse.attempts_eq (i := 1) rfl, htimes]
    decide
  · exact hsame paired t' logs' s' _ hcourse' rfl rfl (htimes'.trans htimes.symm)

end Scheduler

end MeterNode
