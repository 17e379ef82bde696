import MeterNode.Proofs.Connection.Operations
import MeterNode.Proofs.Upload.Framing

/-!
# What a step of an uploader does

A step rests, finds nothing to do, carries a batch on, gives it up, or takes a verdict on it from
the reply.  `Stepped` says for each case what becomes of the uploader and of the channels, and
`service_gives` is the inversion: nothing else can come of `Uploader.service`, whatever the
transport answers.

* `service_replied`: a step on a buffered reply is its verdict on the batch.
* `service_writes`: a step writes at most once, and only the batch that it carries on.
-/

namespace MeterNode

open MeterNode.Text

/-- The collector has spoken. -/
def UploadProgress.decides : UploadProgress → Bool
  | .delivered _ | .failed (.rejected _) | .failed .malformed => true
  | _ => false

/-- A step failed. -/
@[simp] def UploadProgress.isFailed : UploadProgress → Bool
  | .failed _ => true
  | .idle | .inFlight | .delivered _ => false

theorem UploadProgress.ne_delivered {p : UploadProgress} {n : Nat} (h : p.decides = false) :
    p ≠ .delivered n := by
  rintro rfl
  cases h

namespace Uploader

variable {u : Uploader} {b : Batch} {conn : Connection} {channels rest : List MeterChannel}
  {now : Instant} {r : Serviced}

/-- The verdict of a reply on a batch. -/
def verdict (b : Batch) (reply : Bytes) : UploadProgress :=
  match Http.statusCode reply with
  | some 200 => .delivered b.tuples.length
  | some code => .failed (.rejected code)
  | none => .failed .malformed

theorem decides_verdict (b : Batch) (reply : Bytes) : (verdict b reply).decides = true := by
  simp only [verdict]
  split <;> rfl

theorem verdict_delivered {reply : Bytes} :
    (∃ n, verdict b reply = .delivered n) ↔ Http.statusCode reply = some 200 := by
  simp only [verdict]
  split
  next h => simp [h]
  next code hne h =>
    simp only [reduceCtorEq, exists_false, h, Option.some.injEq, false_iff]
    exact hne
  next h => simp [h]

/-- The batch that a step goes on with, and the channels without the samples skipped in framing
it. -/
def taken (u : Uploader) (now : Instant) (channels : List MeterChannel) :
    Option Batch × List MeterChannel :=
  match u.batch with
  | some b => (some b, channels)
  | none => u.framed now 0 channels

/-- The request that is written for a batch. -/
def requestOf (b : Batch) (c : Connection) (endpoint : Endpoint) : Bytes :=
  bytesOf (Http.post b.resource endpoint.hostHeader c.headers b.payload)

/-- What a step may leave behind. -/
inductive Stepped (u : Uploader) (conn : Connection) (channels : List MeterChannel)
    (now : Instant) : UploadProgress → Uploader → List MeterChannel → Prop where
  /-- Nothing is done. -/
  | rested {p : UploadProgress} : p.decides = false → Stepped u conn channels now p u channels
  /-- There is nothing to deliver. -/
  | idle {rest : List MeterChannel} : u.taken now channels = (none, rest) →
      Stepped u conn channels now .idle u rest
  /-- The batch is connected for or written. -/
  | carried {p : UploadProgress} {b : Batch} {rest : List MeterChannel} (attempts : Nat) :
      u.taken now channels = (some b, rest) → p.decides = false →
      Stepped u conn channels now p { u with batch := some { b with attempts } } rest
  /-- The batch is given up. -/
  | givenUp {p : UploadProgress} {b : Batch} : u.batch = some b → p.decides = false →
      Stepped u conn channels now p { u with batch := none } channels
  /-- The reply refuses the batch. -/
  | refused {b : Batch} : u.batch = some b → conn.state = .replied →
      Http.statusCode (conn.response.getD []) ≠ some 200 →
      Stepped u conn channels now (verdict b (conn.response.getD [])) { u with batch := none }
        channels
  /-- The reply accepts the batch. -/
  | delivered {b : Batch} : u.batch = some b → conn.state = .replied →
      Http.statusCode (conn.response.getD []) = some 200 →
      Stepped u conn channels now (.delivered b.tuples.length)
        ({ u with batch := none }.markSent b.channel b.lastTs) (acknowledgeBatch b channels)

/-! ## Inversion -/

theorem giveUp_gives {cause : UploadError} (h : (u.giveUp cause conn channels).Gives r) :
    r = ⟨.failed cause, { u with batch := none }, conn, channels⟩ := by
  simpa [giveUp] using h

theorem evaluate_gives {reply : Bytes} (h : (u.evaluate b reply conn channels now).Gives r) :
    r.progress = verdict b reply ∧ r.conn = conn ∧
      if Http.statusCode reply = some 200 then
        r.uploader = { u with batch := none }.markSent b.channel b.lastTs ∧
          r.channels = acknowledgeBatch b channels
      else r.uploader = { u with batch := none } ∧ r.channels = channels := by
  simp only [evaluate, verdict] at h ⊢
  split at h
  next hs => simp_all
  next code hne hs =>
    simp only [Act.gives_bind, Act.gives_log, Act.gives_count, Act.gives_pure, true_and,
      exists_const] at h
    have hcode : code ≠ 200 := fun hc => hne hc
    simp [h, hs, hcode]
  next hs => simp_all

/-- A step on a buffered reply is its verdict on the batch. -/
theorem service_replied (hb : u.batch = some b) (hs : conn.state = .replied)
    (h : (u.service conn channels now).Gives r) :
    r.progress = verdict b (conn.response.getD []) ∧
      if Http.statusCode (conn.response.getD []) = some 200 then
        r.uploader = { u with batch := none }.markSent b.channel b.lastTs ∧
          r.channels = acknowledgeBatch b channels
      else r.uploader = { u with batch := none } ∧ r.channels = channels := by
  simp only [service, hs, complete, Act.gives_bind] at h
  obtain ⟨⟨reply, c⟩, hc, h⟩ := h
  have hreply := Connection.finishReply_gives hc
  rw [if_pos hs] at hreply
  rw [hb] at h
  rw [← hreply.1]
  obtain ⟨hp, -, hu⟩ := evaluate_gives h
  exact ⟨hp, hu⟩

/-- A step goes on with the batch that is out, or else with what framing gives. -/
theorem taken_cases {found : Option Batch} (h : u.taken now channels = (found, rest)) :
    u.batch.isSome ∧ u.batch = found ∧ rest = channels ∨
      u.batch = none ∧ u.framed now 0 channels = (found, rest) := by
  simp only [taken] at h
  split at h
  next held hu =>
    cases h
    exact Or.inl ⟨by rw [hu]; rfl, hu, rfl⟩
  next hu => exact Or.inr ⟨hu, h⟩

/-- A batch that was just framed has not been connected for. -/
theorem framed_attempts {i : Nat} (h : (u.framed now i channels).1 = some b) : b.attempts = 0 := by
  obtain ⟨j, c, -, rfl, -⟩ := framed_batch h
  rfl

section Proceeding

variable {c d : Connection}

theorem giveUp_stepped {cause : UploadError} (hb : u.taken now channels = (some b, rest))
    (hn : attemptsMax ≤ b.attempts) (hc : (UploadProgress.failed cause).decides = false)
    (h : (u.giveUp cause d rest).Gives r) :
    Stepped u c channels now r.progress r.uploader r.channels := by
  cases giveUp_gives h
  rcases taken_cases hb with ⟨-, hu, rfl⟩ | ⟨-, hframed⟩
  · exact .givenUp hu hc
  · rw [framed_attempts (congrArg Prod.fst hframed)] at hn
    exact absurd hn (by decide)

theorem connectFor_gives (hb : u.taken now channels = (some b, rest))
    (h : (u.connectFor b c rest now).Gives r) :
    Stepped u conn channels now r.progress r.uploader r.channels := by
  simp only [connectFor] at h
  split at h
  next hn =>
    simp only [Act.gives_bind, Act.gives_log, true_and, exists_const] at h
    exact giveUp_stepped hb hn rfl h
  next =>
    simp only [Act.gives_bind, Act.gives_pure] at h
    obtain ⟨_, -, rfl⟩ := h
    exact .carried _ hb rfl

/-- `attempts` are the connects and repeated writes that were made for the batch. -/
theorem write_gives {attempts : Nat} (hb : u.taken now channels = (some b, rest))
    (hs : c.state = .ready) (h : (u.write { b with attempts } c rest now).Gives r) :
    Stepped u conn channels now r.progress r.uploader r.channels := by
  simp only [write, Act.gives_bind] at h
  obtain ⟨d, hd, h⟩ := h
  rw [if_neg ((Connection.post_gives hd).2 hs)] at h
  simp only [Act.gives_pure] at h
  subst h
  exact .carried attempts hb rfl

theorem writeAgain_gives (hb : u.taken now channels = (some b, rest)) (hs : c.state = .retry)
    (h : (u.writeAgain b c rest now).Gives r) :
    Stepped u conn channels now r.progress r.uploader r.channels := by
  simp only [writeAgain] at h
  split at h
  next hn =>
    simp only [Act.gives_bind] at h
    obtain ⟨_, -, h⟩ := h
    exact giveUp_stepped hb hn rfl h
  next =>
    simp only [Act.gives_bind] at h
    obtain ⟨⟨resumed, d⟩, hd, h⟩ := h
    have hready := Connection.resume_gives hd
    rw [if_pos hs] at hready
    exact write_gives hb (congrArg Connection.state hready) h

theorem proceed_gives (hb : u.taken now channels = (some b, rest))
    (h : (u.proceed b c rest now).Gives r) :
    Stepped u conn channels now r.progress r.uploader r.channels := by
  simp only [proceed] at h
  split at h
  next => exact connectFor_gives hb h
  next hs => exact write_gives hb hs h
  next hs => exact writeAgain_gives hb hs h
  next =>
    simp only [Act.gives_pure] at h
    subst h
    exact .carried b.attempts hb rfl

theorem advance_gives (h : (u.advance c channels now).Gives r) :
    Stepped u conn channels now r.progress r.uploader r.channels := by
  simp only [advance] at h
  split at h
  next b hb =>
    have htaken : u.taken now channels = (some b, channels) := by simp only [taken, hb]
    exact proceed_gives htaken h
  next hb =>
    simp only [Act.gives_bind] at h
    obtain ⟨⟨found, rest⟩, hf, h⟩ := h
    have htaken : u.taken now channels = (found, rest) := by
      simp only [taken, hb]
      exact (frame_gives hf).symm
    cases found with
    | some b => exact proceed_gives htaken h
    | none =>
      simp only [Act.gives_pure] at h
      subst h
      exact .idle htaken

end Proceeding

/-- Every step is one of the six cases. -/
theorem service_gives (h : (u.service conn channels now).Gives r) :
    Stepped u conn channels now r.progress r.uploader r.channels := by
  cases hs : conn.state with
  | init | ready | retry =>
    simp only [service, hs] at h
    exact advance_gives h
  | error =>
    simp only [service, hs, Act.gives_bind] at h
    obtain ⟨c, -, h⟩ := h
    exact advance_gives h
  | server =>
    simp only [service, hs, Act.gives_pure] at h
    subst h
    exact .rested rfl
  | dns | connecting | sending =>
    simp only [service, hs, Act.gives_pure] at h
    subst h
    refine .rested ?_
    cases u.isBusy <;> rfl
  | replied =>
    cases hb : u.batch with
    | none =>
      simp only [service, hs, complete, Act.gives_bind, hb, Act.gives_log, Act.gives_pure, true_and,
        exists_const] at h
      obtain ⟨c, -, rfl⟩ := h
      exact .rested rfl
    | some b =>
      obtain ⟨hp, hr⟩ := service_replied hb hs h
      by_cases hcode : Http.statusCode (conn.response.getD []) = some 200
      · rw [if_pos hcode] at hr
        rw [hp, hr.1, hr.2]
        simp only [verdict, hcode]
        exact .delivered hb hs hcode
      · rw [if_neg hcode] at hr
        rw [hp, hr.1, hr.2]
        exact .refused hb hs hcode

/-- Without a buffered reply there is no verdict. -/
theorem service_undecided (h : (u.service conn channels now).Gives r)
    (hs : conn.state ≠ .replied) : r.progress.decides = false := by
  have hstep := service_gives h
  generalize r.progress = p at hstep ⊢
  generalize r.uploader = u' at hstep
  generalize r.channels = rest at hstep
  cases hstep with
  | rested hp | carried _ _ hp | givenUp _ hp => exact hp
  | idle => rfl
  | refused _ hs' _ => exact absurd hs' hs
  | delivered _ hs' _ => exact absurd hs' hs

/-- A step delivers only the batch that is out, on a reply that accepts it. -/
theorem service_delivered {n : Nat} (h : (u.service conn channels now).Gives r)
    (hp : r.progress = .delivered n) :
    ∃ b, u.batch = some b ∧ conn.state = .replied ∧
      Http.statusCode (conn.response.getD []) = some 200 ∧ r.uploader.batch = none ∧
      r.channels = acknowledgeBatch b channels := by
  have hstep := service_gives h
  rw [hp] at hstep
  generalize hu : r.uploader = uploader at hstep ⊢
  generalize hc : r.channels = rest at hstep ⊢
  generalize hq : UploadProgress.delivered n = p at hstep
  cases hstep with
  | rested hq' | carried _ _ hq' | givenUp _ hq' =>
    rw [← hq] at hq'
    cases hq'
  | idle => cases hq
  | refused _ _ hcode => exact absurd (verdict_delivered.1 ⟨n, hq.symm⟩) hcode
  | delivered hb hs hcode => exact ⟨_, hb, hs, hcode, rfl, rfl⟩

/-! ## The connection of a step -/

section Places

variable {c : Connection}

theorem connectFor_id (h : (u.connectFor b c rest now).Gives r) : r.conn.id = c.id := by
  simp only [connectFor] at h
  split at h
  next =>
    simp only [Act.gives_bind] at h
    obtain ⟨_, -, h⟩ := h
    rw [giveUp_gives h]
  next =>
    simp only [Act.gives_bind, Act.gives_pure] at h
    obtain ⟨d, hd, rfl⟩ := h
    exact Connection.connect_id hd

theorem write_id (h : (u.write b c rest now).Gives r) : r.conn.id = c.id := by
  simp only [write, Act.gives_bind] at h
  obtain ⟨d, hd, h⟩ := h
  have hid : d.id = c.id := (Connection.post_gives hd).1
  split at h
  next =>
    rw [giveUp_gives h]
    exact hid
  next =>
    simp only [Act.gives_pure] at h
    rw [h]
    exact hid

theorem writeAgain_id (h : (u.writeAgain b c rest now).Gives r) : r.conn.id = c.id := by
  simp only [writeAgain] at h
  split at h
  next =>
    simp only [Act.gives_bind] at h
    obtain ⟨d, hd, h⟩ := h
    rw [giveUp_gives h, Connection.abandon_gives hd]
    exact Connection.released_id c
  next =>
    simp only [Act.gives_bind] at h
    obtain ⟨⟨resumed, d⟩, hd, h⟩ := h
    have hresumed := Connection.resume_gives hd
    simp only at hresumed
    rw [write_id h, hresumed]
    split <;> rfl

theorem proceed_id (h : (u.proceed b c rest now).Gives r) : r.conn.id = c.id := by
  simp only [proceed] at h
  split at h
  next => exact connectFor_id h
  next => exact write_id h
  next => exact writeAgain_id h
  next =>
    simp only [Act.gives_pure] at h
    rw [h]

theorem advance_id (h : (u.advance c rest now).Gives r) : r.conn.id = c.id := by
  simp only [advance] at h
  split at h
  next => exact proceed_id h
  next =>
    simp only [Act.gives_bind] at h
    obtain ⟨⟨found, rest⟩, -, h⟩ := h
    cases found with
    | some b => exact proceed_id h
    | none =>
      simp only [Act.gives_pure] at h
      rw [h]

end Places

theorem complete_id (h : (u.complete conn channels now).Gives r) : r.conn.id = conn.id := by
  simp only [complete, Act.gives_bind] at h
  obtain ⟨⟨reply, c⟩, hc, h⟩ := h
  have hid : c.id = conn.id := Connection.finishReply_id hc
  split at h
  next =>
    simp only [Act.gives_bind, Act.gives_pure] at h
    obtain ⟨_, -, rfl⟩ := h
    exact hid
  next =>
    rw [(evaluate_gives h).2.1]
    exact hid

/-- A step leaves the connection at its place. -/
theorem service_id (h : (u.service conn channels now).Gives r) : r.conn.id = conn.id := by
  cases hs : conn.state with
  | init | ready | retry =>
    simp only [service, hs] at h
    exact advance_id h
  | error =>
    simp only [service, hs, Act.gives_bind] at h
    obtain ⟨c, hc, h⟩ := h
    rw [advance_id h, Connection.abandon_gives hc]
    exact Connection.released_id conn
  | server | dns | connecting | sending =>
    simp only [service, hs, Act.gives_pure] at h
    rw [h]
  | replied =>
    simp only [service, hs] at h
    exact complete_id h

/-! ## What a step writes -/

@[simp] theorem frame_quiet {i : Nat} : Prog.Asks Effect.Quiet (u.frame now i channels) := by
  induction channels generalizing i with
  | nil => exact Act.asks_pure
  | cons c rest ih =>
    simp only [frame]
    split
    · simp [ih]
    · split <;> simp [ih]

@[simp] theorem giveUp_quiet {cause : UploadError} :
    Prog.Asks Effect.Quiet (u.giveUp cause conn channels) := by
  simp [giveUp]

@[simp] theorem complete_quiet : Prog.Asks Effect.Quiet (u.complete conn channels now) := by
  simp only [complete, evaluate, Act.asks_bind, Connection.finishReply_quiet, true_and]
  rintro r -
  split
  · simp
  · split <;> simp

/-- The request of `b` is written on the socket of `c`, and nothing else. -/
def Writes (b : Batch) (c : Connection) (t : Trace Node) : Prop :=
  ∃ handle endpoint, c.handle = some handle ∧ c.endpoint = some endpoint ∧
    t.writes = [(handle, requestOf b c endpoint)]

/-- The step writes `b` and carries it on. -/
def WritesOn (b : Batch) (c : Connection) (t : Trace Node) (r : Serviced) : Prop :=
  Writes b c t ∧ ∃ attempts, r.uploader.batch = some { b with attempts }

section Writing

variable {c : Connection} {t : Trace Node}

theorem write_writes (attempts : Nat) (hs : c.state = .ready)
    (h : (u.write { b with attempts } c rest now).Ends t r) :
    t.writes = [] ∨ WritesOn b c t r := by
  obtain ⟨t₁, d, t₂, h₁, h₂, rfl⟩ := Prog.ends_bind.1 h
  rw [if_neg ((Connection.post_gives h₁.gives).2 hs)] at h₂
  obtain ⟨rfl, rfl⟩ := Prog.ends_pure.1 h₂
  rw [WritesOn, Writes, List.append_nil]
  exact (Connection.post_writes h₁).imp_right fun hw => ⟨hw, attempts, rfl⟩

theorem proceed_writes (h : (u.proceed b c rest now).Ends t r) :
    t.writes = [] ∨ WritesOn b c t r := by
  simp only [proceed] at h
  split at h
  next =>
    refine Or.inl (h.writes_eq_nil ?_)
    simp only [connectFor]
    split <;> simp
  next hs => exact write_writes b.attempts hs h
  next hs =>
    simp only [writeAgain] at h
    split at h
    next => exact Or.inl (h.writes_eq_nil (by simp))
    next =>
      obtain ⟨t₁, ⟨resumed, d⟩, t₂, h₁, h₂, rfl⟩ := Prog.ends_bind.1 h
      have hd := Connection.resume_gives h₁.gives
      rw [if_pos hs] at hd
      cases hd
      rw [WritesOn, Writes, Trace.writes_append, h₁.writes_eq_nil (by simp), List.nil_append]
      exact write_writes (c := { c with state := .ready }) _ rfl h₂
  next => exact Or.inl (h.writes_eq_nil (by simp))

theorem advance_writes (h : (u.advance c channels now).Ends t r) :
    t.writes = [] ∨ ∃ b rest, u.taken now channels = (some b, rest) ∧ WritesOn b c t r := by
  simp only [advance] at h
  split at h
  next b hb =>
    exact (proceed_writes h).imp_right fun hw => ⟨b, channels, by simp only [taken, hb], hw⟩
  next hb =>
    obtain ⟨t₁, ⟨found, rest⟩, t₂, h₁, h₂, rfl⟩ := Prog.ends_bind.1 h
    have hquiet := h₁.writes_eq_nil frame_quiet
    rw [Trace.writes_append, hquiet, List.nil_append]
    cases found with
    | none => exact Or.inl (h₂.writes_eq_nil Act.asks_pure)
    | some b =>
      have htaken : u.taken now channels = (some b, rest) := by
        simp only [taken, hb]
        exact (frame_gives h₁.gives).symm
      refine (proceed_writes h₂).imp_right fun hw => ⟨b, rest, htaken, ?_⟩
      rwa [WritesOn, Writes, Trace.writes_append, hquiet, List.nil_append]

end Writing

@[simp] theorem proceed_deaf : Prog.Asks Effect.Deaf (u.proceed b conn channels now) := by
  have hwrite (b : Batch) (c : Connection) : Prog.Asks Effect.Deaf (u.write b c channels now) := by
    simp only [write, Act.asks_bind, Connection.post_deaf, true_and]
    rintro d -
    split
    · exact giveUp_quiet.deaf
    · exact Act.asks_pure
  simp only [proceed]
  split
  next =>
    simp only [connectFor]
    split <;> simp [giveUp_quiet.deaf, Connection.connect_quiet.deaf]
  next => exact hwrite b conn
  next =>
    simp only [writeAgain]
    split <;>
      simp [giveUp_quiet.deaf, Connection.abandon_quiet.deaf, Connection.resume_quiet.deaf, hwrite]
  next => exact Act.asks_pure

@[simp] theorem advance_deaf : Prog.Asks Effect.Deaf (u.advance conn channels now) := by
  simp only [advance]
  split
  next => exact proceed_deaf
  next =>
    simp only [Act.asks_bind, frame_quiet.deaf, true_and]
    rintro ⟨found, rest⟩ -
    cases found <;> simp

/-- A step takes no reports. -/
@[simp] theorem service_deaf : Prog.Asks Effect.Deaf (u.service conn channels now) := by
  cases hs : conn.state <;>
    simp [service, hs, complete_quiet.deaf, Connection.abandon_quiet.deaf]

theorem service_replied_writes {t : Trace Node} (h : (u.service conn channels now).Ends t r)
    (hs : conn.state = .replied) : t.writes = [] := by
  simp only [service, hs] at h
  exact h.writes_eq_nil complete_quiet

/-- A step writes at most once: the request of the batch that it carries on. -/
theorem service_writes {t : Trace Node} (h : (u.service conn channels now).Ends t r) :
    t.writes = [] ∨ ∃ b rest, u.taken now channels = (some b, rest) ∧ WritesOn b conn t r := by
  simp only [service] at h
  split at h
  next => exact Or.inl (h.writes_eq_nil (by simp))
  next => exact Or.inl (h.writes_eq_nil (by simp))
  next => exact Or.inl (h.writes_eq_nil (by simp))
  next => exact Or.inl (h.writes_eq_nil (by simp))
  next => exact Or.inl (h.writes_eq_nil complete_quiet)
  next =>
    -- The socket has been given back, and without one nothing is written.
    obtain ⟨t₁, d, t₂, h₁, h₂, rfl⟩ := Prog.ends_bind.1 h
    have hd := Connection.abandon_gives h₁.gives
    rw [Trace.writes_append, h₁.writes_eq_nil (by simp), List.nil_append]
    rcases advance_writes h₂ with hw | ⟨b, rest, -, ⟨handle, endpoint, hh, -⟩, -⟩
    · exact Or.inl hw
    · rw [hd] at hh
      simp at hh
  next => exact advance_writes h
  next => exact advance_writes h
  next => exact advance_writes h

end Uploader

end MeterNode
