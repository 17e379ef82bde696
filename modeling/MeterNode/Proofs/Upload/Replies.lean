import MeterNode.Proofs.Upload.Conservation

/-!
# What becomes of a reply

All reports of a tick are applied before the uploader looks at its connection.  Here a connection
waits for the reply to a batch, and reports of its socket are applied one after the other.

* A report that neither ends the exchange nor brings bytes leaves the connection alone
  (`after_kept`), and bytes are buffered (`after_chunk`).
* Once the exchange has ended, no report brings the reply back (`after_lost`).

So the next step of the uploader is the verdict on the last chunk exactly if no report ended the
exchange, the send having been in time until the first chunk came.  The close of the peer is a
report that ends the exchange, also behind a reply.
-/

namespace MeterNode

open MeterNode.Text

/-- The report ends an exchange, whatever has come of it. -/
def EventKind.ends : EventKind → Bool
  | .connected (.error _) | .peerClosed | .error _ | .accepted _ => true
  | _ => false

/-- The bytes that the report brings. -/
def EventKind.chunk? : EventKind → Option Bytes
  | .received chunk => if chunk.isEmpty then none else some chunk
  | _ => none

/-- The report may come behind a reply: bytes were sent, timeouts are to be looked after, or the
peer closed the stream. -/
def EventKind.isLate : EventKind → Bool
  | .sent _ | .poll | .peerClosed => true
  | _ => false

namespace Connection

variable {c d : Connection} {kind : EventKind} {now : Instant} {started : Bool} {bytes : Bytes}

/-! ## One report -/

theorem overdue_eq_none (hs : c.state ≠ .connecting) (hs' : c.state ≠ .sending) :
    c.overdue now = none := by
  have hstarted : c.startedAt = none := by
    unfold startedAt
    split
    next h => exact absurd h hs
    next h => exact absurd h hs'
    next => rfl
  rw [overdue, hstarted]
  rfl

/-- A report that neither ends the exchange nor brings bytes. -/
theorem after_kept (hs : c.state = .sending ∨ c.state = .replied) (hends : kind.ends = false)
    (hpoll : kind = .poll → c.overdue now = none) (hchunk : kind.chunk? = none) :
    c.after kind now started = c := by
  cases kind with
  | dnsFound address => rcases hs with hs | hs <;> simp [after, hs]
  | connected result =>
    cases result with
    | ok u => rcases hs with hs | hs <;> simp [after, hs]
    | error e => cases hends
  | received chunk =>
    cases hempty : chunk.isEmpty with
    | true => simp [after, hempty]
    | false => simp [EventKind.chunk?, hempty] at hchunk
  | sent length => rcases hs with hs | hs <;> simp [after, hs]
  | poll => simp [after, hpoll rfl]
  | peerClosed | error | accepted => cases hends

/-- A report that brings bytes. -/
theorem after_chunk (hs : c.state = .sending ∨ c.state = .replied)
    (hchunk : kind.chunk? = some bytes) :
    c.after kind now started = { c with response := some bytes, state := .replied } := by
  cases kind with
  | received chunk =>
    simp only [EventKind.chunk?] at hchunk
    split at hchunk
    next => cases hchunk
    next hempty =>
      cases hchunk
      rcases hs with hs | hs <;> simp [after, hempty, hs]
  | dnsFound | connected | peerClosed | sent | poll | error | accepted => cases hchunk

theorem ends_eq_false (hchunk : kind.chunk? = some bytes) : kind.ends = false := by
  cases kind with
  | received chunk => rfl
  | dnsFound | connected | peerClosed | sent | poll | error | accepted => cases hchunk

/-- There is no exchange. -/
def Lost (c : Connection) : Prop := c.state = .init ∨ c.state = .server

theorem after_ends (hends : kind.ends = true) : (c.after kind now started).Lost := by
  cases kind with
  | connected result =>
    cases result with
    | ok u => cases hends
    | error e => exact Or.inl rfl
  | peerClosed => exact Or.inl rfl
  | error e => exact Or.inl rfl
  | accepted result =>
    cases result with
    | ok handle => exact Or.inr rfl
    | error e => exact Or.inl rfl
  | dnsFound | received | sent | poll => cases hends

theorem after_overdue (hlate : c.overdue now ≠ none) : (c.after .poll now started).Lost := by
  rw [after, if_pos (Option.isSome_iff_ne_none.2 hlate)]
  exact Or.inl rfl

/-- No report begins an exchange. -/
theorem after_lost (hlost : c.Lost) : (c.after kind now started).Lost := by
  cases hends : kind.ends with
  | true => exact after_ends hends
  | false =>
    have hnever : c.overdue now = none := by
      refine overdue_eq_none (fun h => ?_) (fun h => ?_)
      all_goals rcases hlost with hs | hs <;> simp [hs] at h
    have hsame : c.after kind now started = c := by
      cases kind with
      | connected result =>
        cases result with
        | ok u => rcases hlost with hs | hs <;> simp [after, hs]
        | error e => cases hends
      | received chunk => rcases hlost with hs | hs <;> simp [after, hs]
      | dnsFound | sent => rcases hlost with hs | hs <;> simp [after, hs]
      | poll => simp [after, hnever]
      | peerClosed | error | accepted => cases hends
    rw [hsame]
    exact hlost

/-! ## Reports of one socket -/

/-- The reports of a socket are applied in order, each at its time. -/
inductive Applied (source : Handle) : Connection → List (EventKind × Instant) → Connection → Prop
  | nil (c : Connection) : Applied source c [] c
  | cons {c d : Connection} {kind : EventKind} {now : Instant} {rest : List (EventKind × Instant)}
      {r : EventOutcome × Connection} : (c.applyEvent (some source) kind now).Gives r →
      Applied source r.2 rest d → Applied source c ((kind, now) :: rest) d

/-- No report ends the exchange, and the send is not overdue before the first chunk has come. -/
def Undisturbed (c : Connection) (events : List (EventKind × Instant)) : Prop :=
  (∀ e ∈ events, e.1.ends = false) ∧
    ∀ e ∈ events.takeWhile (fun e => e.1.chunk?.isNone), e.1 = .poll → c.overdue e.2 = none

/-- The last chunk that reports bring. -/
def lastChunk (events : List (EventKind × Instant)) : Option Bytes :=
  (events.filterMap fun e => e.1.chunk?).getLast?

section Reports

variable {source : Handle} {events rest : List (EventKind × Instant)}

theorem undisturbed_of_chunk (hchunk : kind.chunk? = some bytes) :
    c.Undisturbed ((kind, now) :: rest) ↔ ∀ e ∈ rest, e.1.ends = false := by
  simp [Undisturbed, hchunk, ends_eq_false hchunk]

theorem undisturbed_cons (hchunk : kind.chunk? = none) :
    c.Undisturbed ((kind, now) :: rest) ↔
      kind.ends = false ∧ (kind = .poll → c.overdue now = none) ∧ c.Undisturbed rest := by
  simp only [Undisturbed, hchunk, List.forall_mem_cons, List.takeWhile_cons, Option.isNone_none,
    if_true]
  grind

theorem lastChunk_of_chunk (hchunk : kind.chunk? = some bytes) :
    lastChunk ((kind, now) :: rest) = some ((lastChunk rest).getD bytes) := by
  simp only [lastChunk, List.filterMap_cons, hchunk]
  rw [List.getLast?_cons]

theorem lastChunk_cons (hchunk : kind.chunk? = none) :
    lastChunk ((kind, now) :: rest) = lastChunk rest := by
  simp [lastChunk, hchunk]

theorem Applied.lost (h : Applied source c events d) (hlost : c.Lost) : d.Lost := by
  induction h with
  | nil => exact hlost
  | cons hr _ ih =>
    refine ih ?_
    rcases applyEvent_gives hr with ⟨-, ⟨started, hr⟩, -⟩ | ⟨-, hr, -⟩
    · rw [hr]
      exact after_lost hlost
    · rw [hr]
      exact hlost

/-- A held socket is listened to. -/
theorem applyEvent_held {r : EventOutcome × Connection}
    (h : (c.applyEvent (some source) kind now).Gives r) (hh : c.handle = some source) :
    ∃ started, r.2 = c.after kind now started := by
  rcases applyEvent_gives h with ⟨-, hr, -⟩ | ⟨hdeaf, -⟩
  · exact hr
  · refine absurd (fun handle hs => ?_) hdeaf
    rw [hh, hs]

theorem Applied.replied (h : Applied source c events d) (hs : c.state = .replied)
    (hh : c.handle = some source) (hc : c.response = some bytes) :
    if ∀ e ∈ events, e.1.ends = false then
      d.state = .replied ∧ d.response = some ((lastChunk events).getD bytes)
    else d.Lost := by
  induction h generalizing bytes with
  | nil => simp [hs, hc, lastChunk]
  | @cons c d kind now rest r hr happlied ih =>
    obtain ⟨started, hafter⟩ := applyEvent_held hr hh
    rw [hafter] at happlied ih
    cases hends : kind.ends with
    | true =>
      rw [if_neg (by simp [hends])]
      exact happlied.lost (after_ends hends)
    | false =>
      simp only [List.forall_mem_cons, hends, true_and]
      cases hchunk : kind.chunk? with
      | none =>
        rw [after_kept (Or.inr hs) hends (fun _ => overdue_eq_none (by simp [hs]) (by simp [hs]))
          hchunk] at ih
        rw [lastChunk_cons hchunk]
        exact ih hs hh hc
      | some x =>
        rw [after_chunk (Or.inr hs) hchunk] at ih
        rw [lastChunk_of_chunk hchunk]
        exact ih rfl hh rfl

/-- Reports that bring a chunk lead to the last one, or else the exchange is over. -/
theorem Applied.sending (h : Applied source c events d) (hs : c.state = .sending)
    (hh : c.handle = some source) (hlast : lastChunk events = some bytes) :
    (c.Undisturbed events → d.state = .replied ∧ d.response = some bytes) ∧
      (¬ c.Undisturbed events → d.Lost) := by
  induction h with
  | nil => cases hlast
  | @cons c d kind now rest r hr happlied ih =>
    obtain ⟨started, hafter⟩ := applyEvent_held hr hh
    rw [hafter] at happlied ih
    cases hchunk : kind.chunk? with
    | some x =>
      rw [after_chunk (Or.inl hs) hchunk] at happlied
      have hreplied := happlied.replied rfl hh rfl
      rw [lastChunk_of_chunk hchunk, Option.some.injEq] at hlast
      rw [undisturbed_of_chunk hchunk, ← hlast]
      constructor
      · intro hall
        rwa [if_pos hall] at hreplied
      · intro hall
        rwa [if_neg hall] at hreplied
    | none =>
      rw [lastChunk_cons hchunk] at hlast
      rw [undisturbed_cons hchunk]
      by_cases hkept : kind.ends = false ∧ (kind = .poll → c.overdue now = none)
      · rw [after_kept (Or.inl hs) hkept.1 hkept.2 hchunk] at ih
        obtain ⟨hgood, hbad⟩ := ih hs hh hlast
        exact ⟨fun hall => hgood hall.2.2, fun hall => hbad fun hrest =>
          hall ⟨hkept.1, hkept.2, hrest⟩⟩
      · refine ⟨fun hall => absurd ⟨hall.1, hall.2.1⟩ hkept, fun _ => happlied.lost ?_⟩
        cases hends : kind.ends with
        | true => exact after_ends hends
        | false =>
          rw [not_and, Classical.not_imp] at hkept
          obtain ⟨rfl, hlate⟩ := hkept hends
          exact after_overdue hlate

end Reports

/-- The connection after some reports, with the answers of a bench. -/
def hear (source : Handle) : Connection × Bench.World → List (EventKind × Instant) → Connection
  | (c, _), [] => c
  | (c, w), (kind, now) :: rest =>
      let (r, w) := w.run (c.applyEvent (some source) kind now)
      hear source (r.2, w) rest

theorem hear_applied (source : Handle) (events : List (EventKind × Instant)) (c : Connection)
    (w : Bench.World) : Applied source c events (hear source (c, w) events) := by
  induction events generalizing c w with
  | nil => exact .nil c
  | cons e rest ih => exact .cons (Prog.run_ends _ _ w).gives (ih _ _)

end Connection

/-! ## The step after the reports -/

namespace Account

open Connection Uploader

variable {a : Account} {b : Batch} {source : Handle} {pre post : List (EventKind × Instant)}
  {chunk : Bytes} {arrival now : Instant} {d : Connection} {t : Trace Node} {r : Serviced}

theorem lastChunk_received (hchunk : chunk ≠ []) (hpost : ∀ e ∈ post, e.1.isLate = true) :
    lastChunk (pre ++ (.received chunk, arrival) :: post) = some chunk := by
  have hnone : post.filterMap (fun e => e.1.chunk?) = [] := by
    refine List.filterMap_eq_nil_iff.2 fun e he => ?_
    have hlate := hpost e he
    cases hkind : e.1 with
    | received => rw [hkind] at hlate; cases hlate
    | dnsFound | connected | peerClosed | sent | poll | error | accepted => rfl
  have hhead : (EventKind.received chunk).chunk? = some chunk := if_neg (by simpa using hchunk)
  rw [lastChunk, List.filterMap_append, List.filterMap_cons, hnone]
  simp only [hhead]
  exact List.getLast?_concat

/-- Reports are steps. -/
theorem later_of_applied {place : Nat} {c : Connection} {events : List (EventKind × Instant)}
    (h : Applied source c events d) {a' : Account} (hlater : Later place a a')
    (hc : a'.conn = c) : Later place a { a' with conn := d } := by
  induction h generalizing a' with
  | nil =>
    rw [← hc]
    exact hlater
  | cons hr _ ih =>
    rw [← hc] at hr
    have hrest := ih (hlater.step (.event _ _ _ hr)) rfl
    exact hrest

/-- Behind the reports, the next step is the verdict on the last chunk if and only if the exchange
was undisturbed.  If the verdict accepts the batch, no later step writes a sample that it carried. -/
theorem Reached.reply_evaluated (h : Reached b.channel a) (hb : a.uploader.batch = some b)
    (hs : a.conn.state = .sending) (hh : a.conn.handle = some source) (hchunk : chunk ≠ [])
    (hpost : ∀ e ∈ post, e.1.isLate = true)
    (hd : Applied source a.conn (pre ++ (.received chunk, arrival) :: post) d)
    (hr : (a.uploader.service d a.channels now).Ends t r) :
    (r.progress = verdict b chunk ↔
      a.conn.Undisturbed (pre ++ (.received chunk, arrival) :: post)) ∧
    (Http.statusCode chunk = some 200 →
      a.conn.Undisturbed (pre ++ (.received chunk, arrival) :: post) →
      r.progress = .delivered b.tuples.length ∧ t.writes = [] ∧
        ∀ a₁, Later b.channel ({ a with conn := d }.settle b.channel r) a₁ → ∀ now₁ t₁ r₁,
          (a₁.uploader.service a₁.conn a₁.channels now₁).Ends t₁ r₁ →
            (t₁.writes = [] ∨ ∃ b₁, r₁.uploader.batch = some b₁ ∧ Writes b₁ a₁.conn t₁) ∧
              ∀ k ∈ a.carried b.channel, k ∉ (a₁.settle b.channel r₁).carried b.channel) := by
  obtain ⟨hgood, hbad⟩ := hd.sending hs hh (lastChunk_received hchunk hpost)
  constructor
  · constructor
    · intro hverdict
      refine Classical.byContradiction fun hdisturbed => ?_
      have hunanswered : d.state ≠ .replied := by
        rcases hbad hdisturbed with hlost | hlost <;> simp [hlost]
      have hundecided := service_undecided hr.gives hunanswered
      rw [hverdict, decides_verdict] at hundecided
      cases hundecided
    · intro hundisturbed
      obtain ⟨hreplied, hresponse⟩ := hgood hundisturbed
      have hprogress := (service_replied hb hreplied hr.gives).1
      rw [hresponse] at hprogress
      exact hprogress
  · intro hcode hundisturbed
    obtain ⟨hreplied, hresponse⟩ := hgood hundisturbed
    have hprogress := (service_replied hb hreplied hr.gives).1
    rw [hresponse, Option.getD_some, verdict, hcode] at hprogress
    refine ⟨hprogress, service_replied_writes hr hreplied, ?_⟩
    intro a₁ hlater now₁ t₁ r₁ hr₁
    constructor
    · rcases service_writes hr₁ with hw | ⟨b₁, -, -, hw, attempts, hbatch⟩
      · exact Or.inl hw
      · exact Or.inr ⟨_, hbatch, hw⟩
    · intro k hk
      have hbefore : Reached b.channel { a with conn := d } :=
        h.later (later_of_applied hd .refl rfl)
      have hafter := (hbefore.step (.service now hr.gives)).later hlater
      have hdelivered : k ∈ a₁.ledger.delivered :=
        hlater.delivered_mono (settle_delivers hprogress hk)
      intro hcarried
      exact carried_undelivered (hafter.step (.service now₁ hr₁.gives)).sound hcarried
        (settle_delivered_mono hdelivered)

/-- A batch of `n` samples has been written. -/
def sent (n : Nat) : Account := single.play 0 (pushes 0 n ++ written)

theorem sent_reached (n : Nat) : Reached 0 (sent n) := play_reached single_reached _

/-- A reply between two other reports is evaluated. -/
theorem reply_evaluated_of_three :
    ∃ t r, ((sent 3).uploader.service
        (hear ⟨1⟩ ((sent 3).conn, {}) [(.sent 9, 0), (.received acceptance, 0), (.poll, 0)])
        (sent 3).channels 0).Ends t r ∧
      r.progress = .delivered 3 ∧ t.writes = [] := by
  obtain ⟨b, hb⟩ : ∃ b, (sent 3).uploader.batch = some b :=
    Option.isSome_iff_exists.1 (by decide +kernel)
  have hchannel : (sent 3).uploader.batch.map Batch.channel = some 0 := by decide +kernel
  have htuples : (sent 3).uploader.batch.map (·.tuples.length) = some 3 := by decide +kernel
  rw [hb] at hchannel htuples
  have hreached : Reached b.channel (sent 3) := by
    rw [Option.some.inj hchannel]
    exact sent_reached 3
  have hcode : Http.statusCode acceptance = some 200 := by decide +kernel
  have hchunk : (EventKind.received acceptance).chunk? = some acceptance := by decide +kernel
  have hundisturbed : (sent 3).conn.Undisturbed
      ([(.sent 9, 0)] ++ (.received acceptance, 0) :: [(.poll, 0)]) := by
    refine (undisturbed_cons rfl).2 ⟨rfl, by simp, ?_⟩
    exact (undisturbed_of_chunk hchunk).2 (by simp [EventKind.ends])
  have hr := Prog.run_ends (fun op w => Bench.World.answer w op) ((sent 3).uploader.service
    (hear ⟨1⟩ ((sent 3).conn, {}) [(.sent 9, 0), (.received acceptance, 0), (.poll, 0)])
    (sent 3).channels 0) {}
  have hresult := (hreached.reply_evaluated hb (by decide +kernel) (by decide +kernel)
    (by decide +kernel) (by simp [EventKind.isLate]) (hear_applied _ _ _ _) hr).2 hcode hundisturbed
  have hlength : b.tuples.length = 3 := Option.some.inj htuples
  rw [hlength] at hresult
  exact ⟨_, _, hr, hresult.1, hresult.2.1⟩

/-- The peer closes the stream behind an accepting reply, and the batch starts over. -/
theorem reply_lost_behind_close :
    Reached 0 (sent 1) ∧ (sent 1).conn.state = .sending ∧ (sent 1).conn.handle = some ⟨1⟩ ∧
      Http.statusCode acceptance = some 200 ∧
      ∃ d t r, Applied ⟨1⟩ (sent 1).conn [(.received acceptance, 0), (.peerClosed, 0)] d ∧
        ((sent 1).uploader.service d (sent 1).channels 0).Ends t r ∧ r.progress = .inFlight ∧
        r.uploader.batch.isSome := by
  refine ⟨sent_reached 1, by decide +kernel, by decide +kernel, by decide +kernel, _, _, _,
    hear_applied _ _ _ {}, Prog.run_ends (fun op w => Bench.World.answer w op) _ {}, ?_⟩
  decide +kernel

end Account

end MeterNode
