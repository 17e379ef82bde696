import MeterNode.Bench.World
import MeterNode.Proofs.Connection.Calls

/-!
# Timeouts

A connect and a send may take as long as the timeout of the connection.  A *watch* follows a client
connection through its operations and keeps beside it what a clock on the wall would show: when the
present state was entered, and how.

* `Change`: all that an operation can do, as far as timeouts are concerned.
* `Watch.Sound`: the connection knows when its connect began, and when its request was written.
* `Watch.Reached.timeout`: what looking after the timeout does.

The time of a send is noted by the post that writes the request.  The report that bytes were handed
to the network also leads from `Ready` to `Sending`, and notes no time.  A send that begins so is
measured from the request before it, or not at all (`Watch.Mistimed`).
-/

namespace MeterNode

open MeterNode.Text

namespace Connection

variable {c d : Connection} {now : Instant} {op : Operation}

/-! ## What an operation changes -/

/-- What an operation leaves of a connection, as far as timeouts are concerned. -/
inductive Change (op : Operation) (c : Connection) (now : Instant) : Connection → Prop where
  | same : Change op c now c
  /-- Neither a connect nor a send is under way. -/
  | idle {d : Connection} : d.timeout = c.timeout → d.sendStarted = c.sendStarted → d.Wired →
      d.state ≠ .connecting → d.state ≠ .sending → Change op c now d
  /-- A connect begins. -/
  | dialled {d : Connection} : d.timeout = c.timeout → d.sendStarted = c.sendStarted → d.Wired →
      c.state ≠ .connecting → d.state = .connecting → d.connectStarted = some now →
      Change op c now d
  /-- A request is written. -/
  | written : op.isPost = true → op.isSent = false → c.state = .ready → c.handle.isSome →
      Change op c now { c with response := none, state := .sending, sendStarted := some now }
  /-- A report says that bytes are being sent. -/
  | sent : op.isPost = false → op.isSent = true → c.state = .ready →
      Change op c now { c with state := .sending }

theorem released_timeout (c : Connection) : c.released.timeout = c.timeout := by
  simp only [released]
  split <;> rfl

theorem released_sendStarted (c : Connection) : c.released.sendStarted = c.sendStarted := by
  simp only [released]
  split <;> rfl

/-- Starting over. -/
theorem Change.init (htimeout : d.timeout = c.timeout) (hsend : d.sendStarted = c.sendStarted)
    (hs : d.state = .init) : Change op c now d :=
  .idle htimeout hsend (wired_init hs) (by simp [hs]) (by simp [hs])

theorem Change.abandoned : Change op c now { c.released with state := .init } :=
  .init (released_timeout c) (released_sendStarted c) rfl

theorem connect_change (h : (c.connect now).Gives d) : Change op c now d := by
  rcases connect_gives h with rfl | ⟨hs, hkept, houtcome⟩
  · exact .same
  · have htimeout : d.timeout = c.timeout := by rw [hkept]
    have hsend : d.sendStarted = c.sendStarted := by rw [hkept]
    rcases houtcome with hinit | herror | ⟨hunder, hh, hstarted⟩
    · exact .init htimeout hsend hinit
    · exact .idle htimeout hsend (fun _ => Or.inr herror) (by simp [herror]) (by simp [herror])
    · rcases hunder with hdns | hconnecting
      · exact .idle htimeout hsend (wired_of_held hh) (by simp [hdns]) (by simp [hdns])
      · exact .dialled htimeout hsend (wired_of_held hh) (by simp [hs]) hconnecting hstarted

theorem post_change {resource payload : String} (h : (c.post resource payload now).Gives d) :
    Change (.post resource payload) c now d := by
  cases post_gives_posted h with
  | skipped => exact .same
  | lost => exact .init rfl rfl rfl
  | written hs hh => exact .written rfl rfl hs hh
  | deferred _ hh => exact .idle rfl rfl (wired_of_held hh) (by simp) (by simp)

/-- A lookup that ends begins a connect, or the connection starts over. -/
theorem afterLookup_change {address : Option Address} {started : Bool} (hs : c.state = .dns) :
    Change op c now (c.afterLookup address now started) := by
  simp only [afterLookup]
  split
  next handle endpoint hh he =>
    cases started with
    | false => exact .init rfl rfl rfl
    | true => exact .dialled rfl rfl (wired_of_held (by simp [hh])) (by simp [hs]) rfl rfl
  next => exact .init rfl rfl rfl

theorem after_change {source : Option Handle} {kind : EventKind} {started : Bool}
    (hwired : c.Wired) : Change (.event source kind) c now (c.after kind now started) := by
  cases kind with
  | dnsFound address =>
    simp only [after]
    split
    next hs => exact afterLookup_change hs
    next => exact .same
  | connected result =>
    cases result with
    | ok u =>
      simp only [after]
      split
      next hs =>
        have hh : c.handle.isSome := hwired.held (by simp [hs]) (by simp [hs])
        exact .idle rfl rfl (wired_of_held hh) (by simp) (by simp)
      next => exact .same
    | error e => exact .init rfl rfl rfl
  | received chunk =>
    simp only [after]
    split
    next => exact .same
    next =>
      split
      case h_5 => exact .same
      all_goals
        next hs =>
          have hh : c.handle.isSome := hwired.held (by simp [hs]) (by simp [hs])
          exact .idle rfl rfl (wired_of_held hh) (by simp) (by simp)
  | peerClosed => exact .abandoned
  | sent length =>
    simp only [after]
    split
    next hs => exact .sent rfl rfl hs
    next hs =>
      have hh : c.handle.isSome := hwired.held (by simp [hs]) (by simp [hs])
      exact .idle rfl rfl (wired_of_held hh) (by simp) (by simp)
    next => exact .same
  | poll =>
    simp only [after]
    split
    next => exact .abandoned
    next => exact .same
  | error e => exact .init rfl rfl rfl
  | accepted result =>
    cases result with
    | ok handle => exact .idle rfl rfl (wired_of_held rfl) (by simp [after]) (by simp [after])
    | error e => exact .abandoned

/-- An operation leaves what `Change` says. -/
theorem act_change (hwired : c.Wired) (h : (op.act c now).Gives d) : Change op c now d := by
  cases op with
  | connect => exact connect_change h
  | abandon reason =>
    rw [abandon_gives h]
    exact .abandoned
  | post resource payload => exact post_change h
  | resume =>
    simp only [Operation.act, Act.gives_bind, Act.gives_pure] at h
    obtain ⟨r, hr, rfl⟩ := h
    rw [resume_gives hr]
    split
    next hs =>
      have hh : c.handle.isSome := hwired.held (by simp [hs]) (by simp [hs])
      exact .idle rfl rfl (wired_of_held hh) (by simp) (by simp)
    next => exact .same
  | finishReply =>
    simp only [Operation.act, Act.gives_bind, Act.gives_pure] at h
    obtain ⟨r, hr, rfl⟩ := h
    have hreply := finishReply_gives hr
    split at hreply
    next =>
      rw [hreply.2]
      exact .init (released_timeout c) (released_sendStarted c) rfl
    next =>
      rw [hreply]
      exact .same
  | checkTimeout =>
    simp only [Operation.act, Act.gives_bind, Act.gives_pure] at h
    obtain ⟨r, hr, rfl⟩ := h
    rw [checkTimeout_gives hr]
    simp only [after]
    split
    next => exact .abandoned
    next => exact .same
  | event source kind =>
    simp only [Operation.act, Act.gives_bind, Act.gives_pure] at h
    obtain ⟨r, hr, rfl⟩ := h
    rcases applyEvent_gives hr with ⟨-, ⟨started, hafter⟩, -⟩ | ⟨-, hsame, -⟩
    · rw [hafter]
      exact after_change hwired
    · rw [hsame]
      exact .same

theorem Change.wired (h : Change op c now d) (hwired : c.Wired) : d.Wired := by
  cases h with
  | same => exact hwired
  | idle _ _ hd => exact hd
  | dialled _ _ hd => exact hd
  | written _ _ _ hh => exact wired_of_held hh
  | sent _ _ hs => exact wired_of_held (hwired.held (by simp [hs]) (by simp [hs]))

/-- No operation leaves an exchange under way without a socket. -/
theorem Operated.wired {t : Trace Node} (h : Operated now c t d) : c.Wired → d.Wired :=
  h.induct (P := fun c d => c.Wired → d.Wired) (fun _ hc => hc)
    (fun _ _ _ hcd hde hc => hde (hcd hc)) fun _ _ _ hact hc => (act_change hc hact).wired hc

/-! ## Looking after the timeout -/

/-- A connection is abandoned because of a timeout, which is counted once. -/
structure TimedOut (c : Connection) (t : Trace Node) (d : Connection) : Prop where
  state : d.state = .init
  handle : d.handle = none
  returned : ∃ handle, c.handle = some handle ∧ Returned handle t.calls
  counted : t.tallies = [.connTimeout]

/-- The timeout is looked after, by a call or by a report to do so; the answer says whether it had
passed. -/
inductive Looked (c : Connection) (now : Instant) : Trace Node → Bool → Connection → Prop where
  | call {t : Trace Node} {late : Bool} {d : Connection} :
      (c.checkTimeout now).Ends t (late, d) → Looked c now t late d
  | poll {t : Trace Node} {late : Bool} {d : Connection} (source : Option Handle) :
      c.Hears source →
      (c.applyEvent source .poll now).Ends t (if late then .handled else .ignored, d) →
      Looked c now t late d

section Looked

variable {t : Trace Node} {late : Bool} {handle : Handle}

theorem Looked.check (h : Looked c now t late d) : (c.checkTimeout now).Ends t (late, d) := by
  cases h with
  | call h => exact h
  | poll source hhears h =>
    rw [applyEvent_of_hears hhears] at h
    obtain ⟨t₁, ⟨late', d'⟩, t₂, h₁, h₂, rfl⟩ := Prog.ends_bind.1 h
    obtain ⟨rfl, heq⟩ := Prog.ends_pure.1 h₂
    rw [List.append_nil]
    obtain ⟨hlate, rfl⟩ := Prod.mk.inj heq
    cases late <;> cases late' <;> first | exact h₁ | cases hlate

theorem overdue_isSome :
    (c.overdue now).isSome ↔ ∃ started, c.startedAt = some started ∧
      c.timeout < now.since started := by
  cases hstarted : c.startedAt <;> simp [overdue, hstarted, Option.filter]

theorem Looked.late_iff (h : Looked c now t late d) : late = true ↔ (c.overdue now).isSome := by
  have hcheck := h.check
  simp only [checkTimeout] at hcheck
  split at hcheck
  next hnone =>
    obtain ⟨-, heq⟩ := Prog.ends_pure.1 hcheck
    cases heq
    simp [hnone]
  next elapsed hsome =>
    obtain ⟨t₁, _, t₂, -, h₂, -⟩ := Prog.ends_bind.1 hcheck
    obtain ⟨t₃, _, t₄, -, h₄, -⟩ := Prog.ends_bind.1 h₂
    obtain ⟨t₅, _, t₆, -, h₆, -⟩ := Prog.ends_bind.1 h₄
    obtain ⟨-, heq⟩ := Prog.ends_pure.1 h₆
    cases heq
    simp [hsome]

/-- Looking after a timeout comes to an end. -/
theorem exists_looked (c : Connection) (now : Instant) :
    ∃ t d, Looked c now t (c.overdue now).isSome d := by
  have hr := Prog.run_ends (fun op b => Bench.World.answer b op) (c.checkTimeout now) {}
  have hlook : Looked c now _ _ _ := .call hr
  rw [Bool.eq_iff_iff.2 hlook.late_iff] at hlook
  exact ⟨_, _, hlook⟩

/-- In time, the connection is left alone. -/
theorem Looked.left (h : Looked c now t false d) : d = c ∧ t.calls = [] ∧ t.tallies = [] := by
  have hnone : c.overdue now = none := by
    have hlate := h.late_iff
    simpa using hlate
  have hcheck := h.check
  simp only [checkTimeout, hnone] at hcheck
  obtain ⟨rfl, heq⟩ := Prog.ends_pure.1 hcheck
  cases heq
  exact ⟨rfl, rfl, rfl⟩

theorem Looked.timedOut (h : Looked c now t true d) (hh : c.handle = some handle) :
    TimedOut c t d := by
  obtain ⟨elapsed, hsome⟩ := Option.isSome_iff_exists.1 (h.late_iff.1 rfl)
  have hcheck := h.check
  simp only [checkTimeout, hsome] at hcheck
  obtain ⟨t₁, _, t₂, h₁, h₂, rfl⟩ := Prog.ends_bind.1 hcheck
  obtain ⟨t₃, _, t₄, h₃, h₄, rfl⟩ := Prog.ends_bind.1 h₂
  obtain ⟨t₅, d', t₆, h₅, h₆, rfl⟩ := Prog.ends_bind.1 h₄
  obtain ⟨rfl, heq⟩ := Prog.ends_pure.1 h₆
  cases heq
  obtain ⟨hcalls, htallies⟩ := log_ends h₁
  obtain ⟨hreturned, htallies'⟩ := abandon_ends hh h₅
  have hafter := abandon_gives h₅.gives
  rw [Prog.ends_perform.1 h₃]
  simp only [List.append_nil]
  exact
    { state := by rw [hafter]
      handle := by
        rw [hafter]
        exact released_handle c
      returned := ⟨handle, hh, by rw [Trace.calls_append, hcalls]; exact hreturned⟩
      counted := by
        rw [Trace.tallies_append, Trace.tallies_append, htallies, htallies']
        rfl }

end Looked

end Connection

/-! ## The watch -/

open Connection

/-- A client connection, and what is known from outside about the state it is in. -/
structure Watch where
  conn : Connection
  /-- When the last operation was. -/
  clock : Instant := 0
  /-- When the state was entered. -/
  entered : Instant := 0
  /-- The state was entered by a report that bytes were handed to the network. -/
  bySent : Bool := false
  /-- When a request was last written. -/
  posted : Option Instant := none

namespace Watch

variable {w w' : Watch} {c d : Connection} {now : Instant} {op : Operation} {t : Trace Node}
  {late : Bool}

/-- The watch after an operation that left the connection `d`. -/
def next (w : Watch) (op : Operation) (now : Instant) (d : Connection) : Watch :=
  if d.state = w.conn.state then { w with conn := d, clock := now }
  else
    { conn := d
      clock := now
      entered := now
      bySent := op.isSent
      posted := if op.isPost && d.state = .sending then some now else w.posted }

@[simp] theorem next_conn : (w.next op now d).conn = d := by
  simp only [next]
  split <;> rfl

@[simp] theorem next_clock : (w.next op now d).clock = now := by
  simp only [next]
  split <;> rfl

/-- An operation, not before the last one. -/
inductive Step : Watch → Watch → Prop where
  | act {w : Watch} {now : Instant} {d : Connection} (op : Operation) : w.clock ≤ now →
      (op.act w.conn now).Gives d → Step w (w.next op now d)

/-- The connection has not been used. -/
def Fresh (w : Watch) : Prop :=
  w.conn.state = .init ∧ w.conn.sendStarted = none ∧ w.posted = none ∧ w.entered ≤ w.clock

/-- The watch of a run. -/
inductive Reached : Watch → Prop where
  | fresh {w : Watch} : w.Fresh → Reached w
  | step {w w' : Watch} : Reached w → Step w w' → Reached w'

/-- A reconnect is two steps. -/
theorem Reached.reconnect (h : Reached w) (hnow : w.clock ≤ now)
    (hd : (w.conn.reconnect now).Gives d) : ∃ w', Reached w' ∧ w'.conn = d := by
  obtain ⟨c, hc, hd⟩ := reconnect_gives hd
  have habandoned := h.step (.act (.abandon "reconnect") hnow hc)
  refine ⟨_, habandoned.step (.act (d := d) .connect (Nat.le_of_eq next_clock) ?_), next_conn⟩
  rw [next_conn]
  exact hd

/-- What all runs have in common. -/
structure Sound (w : Watch) : Prop where
  wired : w.conn.Wired
  connecting : w.conn.state = .connecting → w.conn.connectStarted = some w.entered
  sending : w.conn.state = .sending → w.bySent = false → w.posted = some w.entered
  posted : w.conn.sendStarted = w.posted
  entered_le : w.entered ≤ w.clock
  posted_le : ∀ p, w.posted = some p → p ≤ w.entered

theorem Fresh.sound (h : w.Fresh) : w.Sound := by
  obtain ⟨hs, hsend, hposted, hle⟩ := h
  exact
    { wired := wired_init hs
      connecting := by simp [hs]
      sending := by simp [hs]
      posted := by rw [hsend, hposted]
      entered_le := hle
      posted_le := by simp [hposted] }

theorem Sound.changed (h : w.Sound) (hnow : w.clock ≤ now) (hchange : Change op w.conn now d) :
    (w.next op now d).Sound := by
  have hentered : w.entered ≤ now := Nat.le_trans h.entered_le hnow
  have hposted : ∀ p, w.posted = some p → p ≤ now := fun p hp =>
    Nat.le_trans (h.posted_le p hp) hentered
  have hwired : d.Wired := hchange.wired h.wired
  simp only [next]
  cases hchange with
  | same =>
    rw [if_pos rfl]
    exact { h with entered_le := hentered }
  | idle _ hsend _ hconnecting hsending =>
    split
    next hs =>
      exact
        { wired := hwired
          connecting := fun hs' => absurd hs' hconnecting
          sending := fun hs' => absurd hs' hsending
          posted := by rw [hsend, h.posted]
          entered_le := hentered
          posted_le := h.posted_le }
    next hs =>
      simp only [hsending, decide_false, Bool.and_false, Bool.false_eq_true, if_false]
      exact
        { wired := hwired
          connecting := fun hs' => absurd hs' hconnecting
          sending := fun hs' => absurd hs' hsending
          posted := by rw [hsend, h.posted]
          entered_le := Nat.le_refl now
          posted_le := hposted }
  | dialled _ hsend _ hbefore hconnecting hstarted =>
    have hne : d.state ≠ w.conn.state := fun heq => hbefore (heq.symm.trans hconnecting)
    rw [if_neg hne]
    simp only [hconnecting, reduceCtorEq, decide_false, Bool.and_false, Bool.false_eq_true,
      if_false]
    exact
      { wired := hwired
        connecting := fun _ => hstarted
        sending := by simp [hconnecting]
        posted := by rw [hsend, h.posted]
        entered_le := Nat.le_refl now
        posted_le := hposted }
  | written hpost hsent hs hh =>
    rw [if_neg (by simp [hs])]
    exact
      { wired := hwired
        connecting := by simp
        sending := by simp [hpost]
        posted := by simp [hpost]
        entered_le := Nat.le_refl now
        posted_le := by simp [hpost] }
  | sent hpost hsent hs =>
    rw [if_neg (by simp [hs])]
    exact
      { wired := hwired
        connecting := by simp
        sending := by simp [hsent]
        posted := by simp [hpost, h.posted]
        entered_le := Nat.le_refl now
        posted_le := by simpa [hpost] using hposted }

theorem Reached.sound (h : Reached w) : w.Sound := by
  induction h with
  | fresh hfresh => exact hfresh.sound
  | step _ hstep ih =>
    cases hstep with
    | act op hnow hd => exact ih.changed hnow (act_change ih.wired hd)

/-! ## Looking after the timeout -/

/-- The send that is under way is not measured from its beginning, and so `now` is taken for too
late or for in time by mistake. -/
def Mistimed (w : Watch) (now : Instant) : Prop :=
  w.conn.state = .sending ∧ w.bySent = true ∧
    match w.posted with
    | none => w.conn.timeout < now.since w.entered
    | some p => w.conn.timeout < now.since p ∧ now.since w.entered ≤ w.conn.timeout

/-- The connection ends what is under way if and only if this has taken too long, except for sends
that are mistimed.  Then the socket is given back and one timeout is counted. -/
theorem Reached.timeout (h : Reached w)
    (hs : w.conn.state = .connecting ∨ w.conn.state = .sending)
    (hlook : Looked w.conn now t late d) :
    ((late = true ↔ w.conn.timeout < now.since w.entered) ↔ ¬ w.Mistimed now) ∧
      (late = true → TimedOut w.conn t d) ∧
      (late = false → d = w.conn ∧ t.calls = [] ∧ t.tallies = []) := by
  have hsound := h.sound
  have hh : w.conn.handle.isSome := by
    rcases hs with hs | hs
    · exact hsound.wired.held (by simp [hs]) (by simp [hs])
    · exact hsound.wired.held (by simp [hs]) (by simp [hs])
  obtain ⟨handle, hh⟩ := Option.isSome_iff_exists.1 hh
  refine ⟨?_, fun hlate => ?_, fun hlate => ?_⟩
  · rw [hlook.late_iff, overdue_isSome]
    rcases hs with hs | hs
    · have hstarted : w.conn.startedAt = some w.entered := by
        rw [startedAt, hs]
        exact hsound.connecting hs
      simp [hstarted, Mistimed, hs]
    · have hstarted : w.conn.startedAt = w.posted := by
        rw [startedAt, hs]
        exact hsound.posted
      cases hsent : w.bySent with
      | false => simp [hstarted, hsound.sending hs hsent, Mistimed, hsent]
      | true =>
        cases hposted : w.posted with
        | none => simp [hstarted, hposted, Mistimed, hs, hsent]
        | some p =>
          -- the earlier a send is taken to begin, the longer it has taken
          have hlonger : now.since w.entered ≤ now.since p :=
            Nat.sub_le_sub_left (hsound.posted_le p hposted) now
          simp only [hstarted, hposted, Option.some.injEq, exists_eq_left', Mistimed, hs, hsent,
            true_and]
          constructor
          · rintro hiff ⟨hlate, hintime⟩
            exact Nat.not_lt.2 hintime (hiff.1 hlate)
          · intro hright
            exact ⟨fun hlate => Nat.lt_of_not_le fun hintime => hright ⟨hlate, hintime⟩,
              fun hlate => Nat.lt_of_lt_of_le hlate hlonger⟩
  · subst hlate
    exact hlook.timedOut hh
  · subst hlate
    exact hlook.left

/-! ## Runs on the bench -/

/-- Let an operation happen, with the answers of a bench, unless it is before the last one. -/
def happen : Watch × Bench.World → Operation × Instant → Watch × Bench.World
  | (w, b), (op, now) =>
      if w.clock ≤ now then
        let (d, b) := b.run (op.act w.conn now)
        (w.next op now d, b)
      else (w, b)

/-- The watch after some operations, on a bench that grants every call. -/
def play (w : Watch) (ops : List (Operation × Instant)) : Watch := (ops.foldl happen (w, {})).1

theorem play_reached (h : Reached w) (ops : List (Operation × Instant)) : Reached (w.play ops) := by
  have hfold : ∀ wb : Watch × Bench.World, Reached wb.1 →
      Reached (ops.foldl happen wb).1 := by
    induction ops with
    | nil =>
      intro wb h
      exact h
    | cons op ops ih =>
      rintro ⟨w, b⟩ h
      refine ih _ ?_
      simp only [happen]
      split
      next hnow => exact h.step (.act op.1 hnow (Prog.run_ends _ _ b).gives)
      next => exact h
  exact hfold (w, {}) h

/-- A collector with a timeout of a second. -/
def single : Watch :=
  { conn :=
      { id := ⟨0⟩, label := "lwi0", role := .client ⟨.http, "coll.example", 8080, ""⟩
        timeout := Instant.ofSeconds 1 } }

theorem single_reached : Reached single := .fresh ⟨rfl, rfl, rfl, Nat.le_refl 0⟩

/-- A connect that has taken longer than a second is ended. -/
theorem timeout_of_connecting :
    ∃ t d, Looked (single.play [(.connect, 5)]).conn 1000006 t true d ∧
      TimedOut (single.play [(.connect, 5)]).conn t d := by
  have hoverdue : ((single.play [(.connect, 5)]).conn.overdue 1000006).isSome = true := by
    decide +kernel
  obtain ⟨t, d, hlook⟩ := exists_looked (single.play [(.connect, 5)]).conn 1000006
  rw [hoverdue] at hlook
  have hresult :=
    (play_reached single_reached _).timeout (Or.inl (by decide +kernel)) hlook
  exact ⟨t, d, hlook, hresult.2.1 rfl⟩

/-- A connected client hears that bytes were handed to the network. -/
def sentUnposted : List (Operation × Instant) :=
  [(.connect, 0), (.event (some ⟨1⟩) (.connected (.ok ())), 1000),
    (.event (some ⟨1⟩) (.sent 5), 2000)]

/-- A send that a report began is not ended after five seconds, with a timeout of one. -/
theorem sending_without_limit :
    Reached (single.play sentUnposted) ∧ (single.play sentUnposted).conn.state = .sending ∧
      (single.play sentUnposted).conn.timeout <
        Instant.since 5000000 (single.play sentUnposted).entered ∧
      ∃ t d, Looked (single.play sentUnposted).conn 5000000 t false d := by
  have hintime : ((single.play sentUnposted).conn.overdue 5000000).isSome = false := by
    decide +kernel
  refine ⟨play_reached single_reached _, by decide +kernel, by decide +kernel, ?_⟩
  rw [← hintime]
  exact exists_looked _ _

end Watch

end MeterNode
