import MeterNode.Proofs.Schedule.Runs

/-!
# Who owns a connection

Entries may share a connection, and take turns on it.  In every state of every run an entry owns a
connection if and only if it sends on it and has a batch out (`Scheduler.Sound`).  Only the step of
an upload changes this, and it keeps the books of its own connection.

While an entry owns a connection, the turns of the others leave the connection to its reports, with
one exception.  An entry that is refused the connection still waits for a lookup that is out on it,
and gives the lookup up when it has waited long enough, although it is not its own.
-/

namespace MeterNode

namespace Exchanges

variable {x : Exchanges} {conn c : ConnId} {index : Nat} {busy : Bool}

theorem owner?_book_ne (hc : c ≠ conn) :
    (x.book conn index busy).owner? c = x.owner? c := by
  simp only [book]
  split
  next => exact owner?_insert_ne x index hc
  next =>
    split
    next => rw [owner?_erase, if_neg hc]
    next => rfl

/-- A connection that no other entry owns is owned after it is booked if the entry is busy. -/
theorem owner?_book_self (hfree : ∀ owner, x.owner? conn = some owner → owner = index) :
    (x.book conn index busy).owner? conn = if busy then some index else none := by
  simp only [book]
  split
  next => exact owner?_insert_self x conn index
  next =>
    split
    next => rw [owner?_erase, if_pos rfl]
    next hne =>
      cases howner : x.owner? conn with
      | none => rfl
      | some owner =>
        rw [hfree owner howner] at howner
        exact absurd howner hne

/-- The owners are the entries with a batch out, each of the connection that it sends on. -/
def Match (x : Exchanges) (seats : List (ConnId × Bool)) : Prop :=
  ∀ c i, x.owner? c = some i ↔ seats[i]? = some (c, true)

/-- The books of a connection follow the entry that may use it. -/
theorem Match.book {seats : List (ConnId × Bool)} (h : x.Match seats)
    (hsends : (seats[index]?).map Prod.fst = some conn)
    (hfree : ∀ owner, x.owner? conn = some owner → owner = index) (busy : Bool) :
    (x.book conn index busy).Match (seats.set index (conn, busy)) := by
  obtain ⟨⟨conn', before⟩, hseat, rfl⟩ := Option.map_eq_some_iff.1 hsends
  intro c i
  rw [List.getElem?_set']
  by_cases hi : index = i
  · subst hi
    rw [if_pos rfl, hseat]
    by_cases hc : c = conn'
    · subst hc
      rw [owner?_book_self hfree]
      cases busy <;> simp
    · rw [owner?_book_ne hc, h c index, hseat]
      simp [Ne.symm hc]
  · rw [if_neg hi]
    by_cases hc : c = conn'
    · subst hc
      have hnot : seats[i]? ≠ some (c, true) := fun hseat' => hi (hfree i ((h c i).2 hseat')).symm
      rw [owner?_book_self hfree]
      cases busy <;> simp [hnot, hi]
    · rw [owner?_book_ne hc]
      exact h c i

end Exchanges

namespace Scheduler

variable {s s₁ s₂ s' : Scheduler} {index i j : Nat} {now : Instant} {atDefault : Bool} {e : Entry}
  {c conn : ConnId} {t : Trace Node}

/-! ## Turns -/

/-- What an entry does behind its step: nothing, or it waits for the lookup of its connection. -/
inductive Awaited (index : Nat) (s : Scheduler) : Trace Node → Scheduler → Prop where
  | nothing {t : Trace Node} : t.Deaf → Awaited index s t s
  | lookup {t : Trace Node} {conn : ConnId} {r r' : Registry} : s.connOf? index = some conn →
      s.registry.state? conn = some .dns → ¬ t.Deaf → s.registry.Heard t.reports r → r.Placed →
      r.Ended conn r' → Awaited index s t { s with registry := r' }

theorem Awaited.prepend {t₁ : Trace Node} (h : Awaited index s t s') (h₁ : t₁.Deaf) :
    Awaited index s (t₁ ++ t) s' := by
  cases h with
  | nothing hdeaf => exact .nothing (Trace.deaf_append.2 ⟨h₁, hdeaf⟩)
  | lookup hconn hs hlistens hheard hplaced hended =>
    refine .lookup hconn hs (fun hdeaf => hlistens (Trace.deaf_append.1 hdeaf).2) ?_ hplaced hended
    rw [Trace.reports_append, h₁.reports]
    exact hheard

/-- A turn: the upload of the entry takes a step or not, and then its lookup is waited for or
not. -/
def Turned (index : Nat) (s : Scheduler) (t : Trace Node) (s' : Scheduler) : Prop :=
  ∃ s₁, Moved index s s₁ ∧ Others index s s₁ ∧ Awaited index s₁ t s'

theorem Turned.prepend {t₁ : Trace Node} (h : Turned index s₁ t s') (hstill : Still s s₁)
    (hothers : Others index s s₁) (h₁ : t₁.Deaf) : Turned index s (t₁ ++ t) s' := by
  obtain ⟨s₂, hmoved, hothers', hawaited⟩ := h
  exact ⟨s₂, hmoved.after hstill, hothers.trans hothers', hawaited.prepend h₁⟩

/-- Nothing happens in a turn. -/
theorem turned_still (hdeaf : t.Deaf) (hstill : Still s s') (hothers : Others index s s') :
    Turned index s t s' :=
  ⟨s', Or.inl hstill, hothers, .nothing hdeaf⟩

theorem Moved.connOf? (h : Moved index s s') : s'.connOf? index = s.connOf? index := by
  rcases h with h | ⟨conn, h⟩
  · exact h.connOf?
  · obtain ⟨busy, hseats, -⟩ := h.booked
    have hsends := h.sends
    rw [connOf?_eq] at hsends
    obtain ⟨seat, hseat, -⟩ := Option.map_eq_some_iff.1 hsends
    rw [h.sends, connOf?_eq, hseats, List.getElem?_set', if_pos rfl, hseat]
    rfl

theorem Moved.placed (h : Moved index s s') (hplaced : s.registry.Placed) : s'.registry.Placed := by
  rcases h with h | ⟨conn, h⟩
  · exact h.calm.placed hplaced
  · obtain ⟨d, -, hregistry⟩ := h.registry
    rw [hregistry]
    exact hplaced.set d

theorem beginUpload_ends (hplaced : s.registry.Placed) (hconn : s.connOf? index = some conn)
    (h : (s.beginUpload index conn).Ends t s') : Turned index s t s' := by
  obtain ⟨t₁, now, t₂, h₁, h₂, rfl⟩ := Prog.ends_bind.1 h
  have hopened : Still s { s with windowOpen := true } := ⟨rfl, rfl, rfl⟩
  refine Turned.prepend ?_ hopened (fun _ _ => rfl) (h₁.deaf (by simp))
  rw [← hopened.connOf?] at hconn
  rw [← hopened.registry] at hplaced
  generalize { s with windowOpen := true } = s₀ at h₂ hconn hplaced
  obtain ⟨t₃, s₁, t₄, h₃, h₄, rfl⟩ := Prog.ends_bind.1 h₂
  obtain ⟨hmoved, hothers⟩ := serviceEntry_gives hplaced h₃.gives
  refine ⟨s₁, hmoved, hothers, .prepend ?_ (h₃.deaf serviceEntry_deaf)⟩
  split at h₄
  next hs =>
    obtain ⟨t₅, ⟨state, r'⟩, t₆, h₅, h₆, rfl⟩ := Prog.ends_bind.1 h₄
    obtain ⟨rfl, rfl⟩ := Prog.ends_pure.1 h₆
    obtain ⟨r, hheard, hplaced', hended⟩ := Registry.awaitDns_ends (hmoved.placed hplaced) h₅
    have hlistens := Registry.awaitDns_listens (hmoved.placed hplaced) hs h₅
    rw [List.append_nil]
    rw [← hmoved.connOf?] at hconn
    exact .lookup hconn hs hlistens hheard hplaced' hended
  next =>
    obtain ⟨rfl, rfl⟩ := Prog.ends_pure.1 h₄
    exact .nothing Trace.deaf_nil

theorem sendIfReady_ends {res : Bool × Bool × Scheduler} (hplaced : s.registry.Placed)
    (h : (s.sendIfReady index now atDefault).Ends t res) : Turned index s t res.2.2 := by
  cases sendIfReady_sent h with
  | nothing => exact turned_still Trace.deaf_nil (.refl s) (.refl index s)
  | @goesOn e t s' he _ h₁ =>
    obtain ⟨hmoved, hothers⟩ := serviceEntry_gives hplaced h₁.gives
    exact ⟨s', hmoved, hothers, .nothing (h₁.deaf serviceEntry_deaf)⟩
  | @deferred e t₁ t₂ t₃ _ speed radio _ h₁ h₂ hlog =>
    have hraised : Still s { s with speed, radio } := ⟨rfl, rfl, rfl⟩
    exact turned_still (Trace.deaf_append.2 ⟨h₁.deaf raiseClock_quiet.deaf,
      Trace.deaf_append.2 ⟨h₂.deaf raiseRadio_quiet.deaf, hlog.deaf (by decide)⟩⟩) hraised
      (fun _ _ => rfl)
  | @begun e t₁ t₂ t₃ _ speed radio s' hdue h₁ h₂ h₃ =>
    have hraised : Still s { s with speed, radio } := ⟨rfl, rfl, rfl⟩
    rw [← List.append_assoc]
    refine Turned.prepend ?_ hraised (fun _ _ => rfl) (Trace.deaf_append.2
      ⟨h₁.deaf raiseClock_quiet.deaf, h₂.deaf raiseRadio_quiet.deaf⟩)
    have hconn : ({ s with speed, radio } : Scheduler).connOf? index = some e.conn := by
      rw [hraised.connOf?, connOf?, hdue.entry]
      rfl
    have hplaced' : ({ s with speed, radio } : Scheduler).registry.Placed := hplaced
    exact beginUpload_ends hplaced' hconn h₃

theorem turn_ends {res : Bool × Bool × Scheduler} (hplaced : s.registry.Placed)
    (h : (s.turn index now atDefault).Ends t res) : Turned index s t res.2.2 := by
  obtain ⟨t₁, ⟨atDefault', s₁⟩, t₂, h₁, h₂, rfl⟩ := Prog.ends_bind.1 h
  obtain ⟨hstill, hothers⟩ := readIfDue_still h₁.gives
  refine Turned.prepend ?_ hstill hothers (h₁.deaf readIfDue_quiet.deaf)
  exact sendIfReady_ends (hstill.calm.placed hplaced) h₂

/-! ## What all runs have in common -/

/-- The connections are at their places, and owned by the entries that have a batch out on them. -/
structure Sound (s : Scheduler) : Prop where
  placed : s.registry.Placed
  owners : s.exchanges.Match s.seats

theorem Fresh.sound (h : s.Fresh) : s.Sound := by
  refine ⟨h.placed, fun c i => ?_⟩
  rw [h.exchanges, Exchanges.owner?_nil, seats_getElem?]
  constructor
  · intro howner
    cases howner
  · rintro ⟨e, he, hbusy, -⟩
    rw [h.idle e (List.mem_of_getElem? he)] at hbusy
    cases hbusy

theorem Sound.calm (h : s.Sound) (hcalm : Calm s s') : s'.Sound := by
  refine ⟨hcalm.placed h.placed, ?_⟩
  rw [hcalm.exchanges, hcalm.seats]
  exact h.owners

theorem Sound.moved (h : s.Sound) (hmoved : Moved index s s') : s'.Sound := by
  refine ⟨hmoved.placed h.placed, ?_⟩
  rcases hmoved with hstill | ⟨conn, hserved⟩
  · exact (h.calm hstill.calm).owners
  · obtain ⟨busy, hseats, hexchanges⟩ := hserved.booked
    have hsends := hserved.sends
    rw [connOf?_eq] at hsends
    rw [hseats, hexchanges]
    exact h.owners.book hsends hserved.free busy

theorem Sound.turned (h : s.Sound) (hturned : Turned index s t s') : s'.Sound := by
  obtain ⟨s₁, hmoved, -, hawaited⟩ := hturned
  have hsound := h.moved hmoved
  cases hawaited with
  | nothing => exact hsound
  | lookup _ _ _ _ hplaced hended => exact ⟨hended.placed hplaced, hsound.owners⟩

/-- No phase breaks what runs have in common. -/
theorem Sound.phase (h : s.Sound) (hphase : Phase s s') : s'.Sound := by
  cases hphase with
  | start hs => exact h.calm (start_still hs).calm
  | count hs => exact h.calm (countTick_still hs).calm
  | network now hs => exact h.calm (serviceNetwork_calm hs)
  | turn index now atDefault hs =>
    obtain ⟨t, hs⟩ := hs
    exact h.turned (turn_ends h.placed hs)
  | window now hs => exact h.calm (completeWindow_still hs).calm
  | radio keep atDefault statusTick due hs => exact h.calm (tendRadio_calm hs)
  | clock atDefault hs => exact h.calm (lowerClock_still hs).calm
  | status due up hs => exact h.calm (logStatus_still hs).calm

theorem Reached.sound (h : Reached s) : s.Sound := by
  induction h with
  | fresh hfresh => exact hfresh.sound
  | phase _ hphase ih => exact ih.phase hphase

/-! ## The turns of the others -/

/-- The lookup of a connection is out in spite of all reports, and the turn of an entry that sends
on the connection took reports until it was given up. -/
def Outwaits (s : Scheduler) (j : Nat) (c : ConnId) (d : Connection) (t : Trace Node) : Prop :=
  s.connOf? j = some c ∧ ¬ t.Deaf ∧ d.state = .dns ∧ d.Heard (t.reports.filter (·.conn = c)) d

/-- An entry that is refused its connection. -/
def Refused (s : Scheduler) (j : Nat) : Prop :=
  ∃ c i, s.connOf? j = some c ∧ s.exchanges.owner? c = some i ∧ i ≠ j

theorem Refused.still (h : s.Refused j) (hstill : Still s s') : s'.Refused j := by
  obtain ⟨c, i, hconn, howner, hne⟩ := h
  refine ⟨c, i, ?_, ?_, hne⟩
  · rw [hstill.connOf?, hconn]
  · rw [hstill.exchanges, howner]

theorem Refused.serviceEntry_quiet (h : s.Refused j) :
    Prog.Asks Effect.Quiet (s.serviceEntry j now) := by
  obtain ⟨c, i, hconn, howner, hne⟩ := h
  obtain ⟨e, he, rfl⟩ := Option.map_eq_some_iff.1 hconn
  rw [serviceEntry_refused he howner hne]
  simp

theorem Refused.beginUpload_mute (h : s.Refused j) :
    Prog.Asks Effect.Mute (s.beginUpload j conn) := by
  have hopened : Still s { s with windowOpen := true } := ⟨rfl, rfl, rfl⟩
  simp only [beginUpload, Act.asks_bind, Act.asks_now, Effect.Mute,
    (h.still hopened).serviceEntry_quiet.mute, true_and]
  rintro now - s₁ -
  split <;> simp

theorem Refused.sendIfReady_mute (h : s.Refused j) :
    Prog.Asks Effect.Mute (s.sendIfReady j now atDefault) := by
  simp only [sendIfReady]
  split
  next => exact Act.asks_pure
  next e _ =>
    split
    next => simp [h.serviceEntry_quiet.mute]
    next =>
      split
      next => exact Act.asks_pure
      next =>
        simp only [Act.asks_bind, raiseClock_quiet.mute, raiseRadio_quiet.mute, true_and]
        rintro ⟨atDefault', s₁⟩ h₁ ⟨up, s₂⟩ h₂
        obtain ⟨speed, rfl⟩ : ∃ speed, s₁ = { s with speed } := raiseClock_gives h₁
        obtain ⟨radio, rfl⟩ : ∃ radio, s₂ = { s with speed, radio } := raiseRadio_gives h₂
        have hraised : Still s { s with speed, radio } := ⟨rfl, rfl, rfl⟩
        cases up with
        | false => simp
        | true => simp [(h.still hraised).beginUpload_mute]

/-- An entry that is refused its connection hands nothing to the transport in its turn. -/
theorem Refused.turn_mute (h : s.Refused j) : Prog.Asks Effect.Mute (s.turn j now atDefault) := by
  simp only [turn, Act.asks_bind, readIfDue_quiet.mute, true_and]
  rintro ⟨atDefault', s₁⟩ hread
  exact (h.still (readIfDue_still hread).1).sendIfReady_mute

section Others

variable {d : Connection}

/-- The step of an entry passes a connection by that another one owns. -/
theorem Moved.passes (h : Moved j s s') (howner : s.exchanges.owner? c = some i) (hne : j ≠ i) :
    s'.registry.get? c = s.registry.get? c := by
  rcases h with hstill | ⟨conn, hserved⟩
  · rw [hstill.registry]
  · obtain ⟨x, hx, hregistry⟩ := hserved.registry
    have hother : c ≠ x.id := by
      intro hc
      rw [hx] at hc
      subst hc
      exact hne (hserved.free i howner).symm
    rw [hregistry, Registry.get?_set, if_neg hother]

theorem Moved.outwaits (h : Moved j s s') : s'.Outwaits j c d t ↔ s.Outwaits j c d t := by
  rw [Outwaits, Outwaits, h.connOf?]

theorem Awaited.kept (h : Awaited j s t s') :
    s'.exchanges = s.exchanges ∧ s'.entries = s.entries := by
  cases h with
  | nothing => exact ⟨rfl, rfl⟩
  | lookup => exact ⟨rfl, rfl⟩

/-- A turn leaves a connection to its reports unless it outwaits the lookup of the connection. -/
theorem Awaited.left (h : Awaited j s t s') (hget : s.registry.get? c = some d) :
    ∃ d', s'.registry.get? c = some d' ∧
      (d.Heard (t.reports.filter (·.conn = c)) d' ↔ ¬ s.Outwaits j c d t) ∧
      (s.Outwaits j c d t → d' = { d.released with state := .init }) := by
  cases h with
  | nothing hdeaf =>
    have hnot : ¬ s.Outwaits j c d t := fun hout => hout.2.1 hdeaf
    refine ⟨d, hget, ?_, fun hout => absurd hout hnot⟩
    rw [hdeaf.reports]
    exact ⟨fun _ => hnot, fun _ => .nil d⟩
  | @lookup conn r r' hconn hs hlistens hheard hplaced hended =>
    obtain ⟨d₁, hget₁, hheard₁⟩ := hheard c d hget
    cases hended with
    | answered hanswered =>
      have hnot : ¬ s.Outwaits j c d t := by
        rintro ⟨hc, -, hdns, hsame⟩
        rw [hconn, Option.some.injEq] at hc
        subst hc
        rw [(hsame.pending hdns).2 hheard₁] at hget₁
        exact hanswered (by rw [Registry.state?, hget₁, Option.map_some, hdns])
      exact ⟨d₁, hget₁, ⟨fun _ => hnot, fun _ => hheard₁⟩, fun hout => absurd hout hnot⟩
    | @givenUp x hx hdns =>
      have hplace : conn = x.id := (hplaced conn x hx).symm
      by_cases hc : c = conn
      · subst hc
        rw [hget₁, Option.some.injEq] at hx
        subst hx
        -- The lookup is still out, so the connection is the one from before the turn.
        obtain ⟨rfl, hunique⟩ := hheard₁.pending hdns
        have hout : s.Outwaits j c d₁ t := ⟨hconn, hlistens, hdns, hheard₁⟩
        refine ⟨{ d₁.released with state := .init }, ?_, ?_, fun _ => rfl⟩
        · rw [Registry.get?_set, if_pos (by simpa using hplace), hget₁]
          rfl
        · refine ⟨fun hleft => ?_, fun hnot => absurd hout hnot⟩
          rw [← hunique hleft] at hdns
          cases hdns
      · have hnot : ¬ s.Outwaits j c d t := by
          rintro ⟨hc', -⟩
          rw [hconn, Option.some.injEq] at hc'
          exact hc hc'.symm
        refine ⟨d₁, ?_, ⟨fun _ => hnot, fun _ => hheard₁⟩, fun hout => absurd hout hnot⟩
        rw [Registry.get?_set, if_neg (by simpa [← hplace] using hc)]
        exact hget₁

end Others

/-- In every state of every run, a connection is owned by an entry if and only if the entry has a
batch out on it, so that no two entries have batches out on one connection.  In the turn of any
other entry the owner stays what it is, the transport is handed nothing for an entry that sends on
the same connection, and the connection goes only through its reports if and only if its lookup is
not outwaited; otherwise it is abandoned. -/
theorem Reached.exclusive (h : Reached s) :
    (∀ c i, s.exchanges.owner? c = some i ↔
      ∃ e, s.entries[i]? = some e ∧ e.isBusy = true ∧ e.conn = c) ∧
    (∀ (i j : Nat) (e f : Entry), s.entries[i]? = some e → s.entries[j]? = some f → e.isBusy = true →
      f.isBusy = true → e.conn = f.conn → i = j) ∧
    ∀ c i, s.exchanges.owner? c = some i → ∀ j, j ≠ i → ∀ now atDefault t res,
      (s.turn j now atDefault).Ends t res →
        res.2.2.exchanges.owner? c = some i ∧ res.2.2.entries[i]? = s.entries[i]? ∧
        (s.connOf? j = some c → t.writes = []) ∧
        ∀ d, s.registry.get? c = some d → ∃ d', res.2.2.registry.get? c = some d' ∧
          (d.Heard (t.reports.filter (·.conn = c)) d' ↔ ¬ s.Outwaits j c d t) ∧
          (s.Outwaits j c d t → d' = { d.released with state := .init }) := by
  have hsound := h.sound
  have howners (c : ConnId) (i : Nat) : s.exchanges.owner? c = some i ↔
      ∃ e, s.entries[i]? = some e ∧ e.isBusy = true ∧ e.conn = c :=
    (hsound.owners c i).trans (s.seats_getElem? i c true)
  refine ⟨howners, ?_, ?_⟩
  · intro i j e f he hf hebusy hfbusy hconn
    have hi : s.exchanges.owner? e.conn = some i := (howners e.conn i).2 ⟨e, he, hebusy, rfl⟩
    have hj : s.exchanges.owner? e.conn = some j :=
      (howners e.conn j).2 ⟨f, hf, hfbusy, hconn.symm⟩
    rw [hi] at hj
    exact Option.some.inj hj
  · intro c i howner j hne now atDefault t res hturn
    obtain ⟨s₁, hmoved, hothers, hawaited⟩ := turn_ends hsound.placed hturn
    obtain ⟨hexchanges, hentries⟩ := hawaited.kept
    have hentry : s₁.entries[i]? = s.entries[i]? := hothers i (Ne.symm hne)
    have howner₁ : s₁.exchanges.owner? c = some i := by
      rw [(hsound.moved hmoved).owners c i, seats_getElem?, hentry]
      exact (howners c i).1 howner
    refine ⟨?_, ?_, ?_, ?_⟩
    · rw [hexchanges]
      exact howner₁
    · rw [hentries]
      exact hentry
    · intro hconn
      have hrefused : s.Refused j := ⟨c, i, hconn, howner, Ne.symm hne⟩
      exact hturn.writes_of_mute hrefused.turn_mute
    · intro d hget
      rw [← hmoved.passes howner hne] at hget
      obtain ⟨d', hget', hleft, hout⟩ := hawaited.left hget
      rw [hmoved.outwaits] at hleft hout
      exact ⟨d', hget', hleft, hout⟩

/-! ## On the bench -/

/-- The first entry has begun its upload, and its connect is under way. -/
def connecting : Scheduler × Bench.World :=
  [Happening.start, .turn 0].foldl happen
    (sharing, bench (.ok (.resolved ⟨192, 168, 1, 10⟩)))

/-- The lookup of the first entry was given up once, and the entry has asked again. -/
def asking : Scheduler × Bench.World :=
  [Happening.start, .tick, .opening, .turn 0].foldl happen (sharing, bench (.ok .pending))

/-- While a connect is under way, the turn of the other entry leaves it alone. -/
theorem exclusive_while_connecting :
    ∃ t res d, (connecting.1.turn 1 connecting.2.clock true).Ends t res ∧
      connecting.1.registry.get? ⟨0⟩ = some d ∧ d.state = .connecting ∧ t.writes = [] ∧
      ∃ d', res.2.2.registry.get? ⟨0⟩ = some d' ∧ d.Heard (t.reports.filter (·.conn = ⟨0⟩)) d' := by
  have hreached : Reached connecting.1 := play_reached sharing_reached _
  have howner : connecting.1.exchanges.owner? ⟨0⟩ = some 0 := by decide +kernel
  have hconn : connecting.1.connOf? 1 = some ⟨0⟩ := by decide +kernel
  obtain ⟨d, hget, hstate⟩ : ∃ d, connecting.1.registry.get? ⟨0⟩ = some d ∧
      d.state = .connecting := by
    refine Option.map_eq_some_iff.1 (show connecting.1.registry.state? ⟨0⟩ = _ from ?_)
    decide +kernel
  have hturn := Prog.run_ends (fun op w => Bench.World.answer w op)
    (connecting.1.turn 1 connecting.2.clock true) connecting.2
  obtain ⟨-, -, hother⟩ := hreached.exclusive
  obtain ⟨-, -, hquiet, hleft⟩ := hother ⟨0⟩ 0 howner 1 (by decide) _ _ _ _ hturn
  obtain ⟨d', hget', hheard, -⟩ := hleft d hget
  refine ⟨_, _, d, hturn, hget, hstate, hquiet hconn, d', hget', hheard.2 ?_⟩
  rintro ⟨-, -, hdns, -⟩
  rw [hstate] at hdns
  cases hdns

/-- The other entry is refused the connection, waits for its lookup, and abandons the connection
although it heard no report. -/
theorem abandoned_by_another :
    Reached asking.1 ∧ asking.1.exchanges.owner? ⟨0⟩ = some 0 ∧
      ∃ t res d d', (asking.1.turn 1 asking.2.clock true).Ends t res ∧
        asking.1.registry.get? ⟨0⟩ = some d ∧ d.state = .dns ∧
        res.2.2.registry.get? ⟨0⟩ = some d' ∧ d'.state = .init ∧
        ¬ d.Heard (t.reports.filter (·.conn = ⟨0⟩)) d' := by
  have hturn := Prog.run_ends (fun op w => Bench.World.answer w op)
    (asking.1.turn 1 asking.2.clock true) asking.2
  obtain ⟨d, hget, hstate⟩ : ∃ d, asking.1.registry.get? ⟨0⟩ = some d ∧ d.state = .dns := by
    refine Option.map_eq_some_iff.1 (show asking.1.registry.state? ⟨0⟩ = _ from ?_)
    decide +kernel
  obtain ⟨d', hget', hstate'⟩ : ∃ d',
      (asking.2.run (asking.1.turn 1 asking.2.clock true)).1.2.2.registry.get? ⟨0⟩ = some d' ∧
        d'.state = .init := by
    refine Option.map_eq_some_iff.1 (show
      (asking.2.run (asking.1.turn 1 asking.2.clock true)).1.2.2.registry.state? ⟨0⟩ = _ from ?_)
    decide +kernel
  have hnone : (Trace.reports (Prog.transcript (fun op w => Bench.World.answer w op)
      (asking.1.turn 1 asking.2.clock true) asking.2)).isEmpty = true := by
    decide +kernel
  refine ⟨play_reached sharing_reached _, by decide +kernel, _, _, d, d', hturn, hget, hstate, hget',
    hstate', fun hheard => ?_⟩
  rw [List.isEmpty_iff.1 hnone] at hheard
  cases hheard
  rw [hstate] at hstate'
  cases hstate'

end Scheduler

end MeterNode
