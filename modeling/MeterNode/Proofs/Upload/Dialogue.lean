import MeterNode.Proofs.Upload.Dealings
import MeterNode.Proofs.Upload.Talk

/-!
# Whether a delivered batch was written

A dialogue follows an uploader through a run of pushes, reports of the transport and steps, together
with the talk on the socket of its connection.  A step that delivers a batch has found a reply in
the connection.  `Dialogue.Sound` says what the talk was up to then: it ends with the reply, and
either nothing was written on the socket, or the request of the batch was written before.

So a delivered batch was written before its reply came exactly if anything was written on the socket
(`Reached.delivered_after_post`).  A collector that speaks first breaks this rule: bytes that come
while the connection is ready, or met a full send buffer, are taken for the reply to the batch that
waits to be written.
-/

namespace MeterNode

open MeterNode.Text

/-- The request of a batch was written on the socket of a connection. -/
def Talk.Posts (talk : Talk) (b : Batch) (c : Connection) : Prop :=
  ∃ handle endpoint before rest, c.handle = some handle ∧ c.endpoint = some endpoint ∧
    talk = before ++ .wrote handle (Uploader.requestOf b c endpoint) :: rest

theorem Talk.Posts.append {talk : Talk} {b : Batch} {c d : Connection} (h : talk.Posts b c)
    (hhandle : d.handle = c.handle) (hrole : d.role = c.role) (hheaders : d.headers = c.headers)
    (more : Talk) : Talk.Posts (talk ++ more) b d := by
  obtain ⟨handle, endpoint, before, rest, hh, he, rfl⟩ := h
  refine ⟨handle, endpoint, before, rest ++ more, hhandle.trans hh, ?_, ?_⟩
  · rw [Connection.endpoint, hrole]
    exact he
  · simp only [Uploader.requestOf, hheaders, List.append_assoc, List.cons_append]

/-! ## What a step says -/

namespace Uploader

open Connection

variable {u : Uploader} {b : Batch} {c conn : Connection} {channels : List MeterChannel}
  {now : Instant} {r : Serviced} {t t₁ t₂ : Trace Node}

/-- The step leaves the connection without a reply, and sending only if the last thing it did was to
have the request of the batch accepted. -/
structure Speaks (t : Trace Node) (r : Serviced) : Prop where
  unreplied : r.conn.state ≠ .replied
  sends : r.conn.state = .sending → ∃ b calls handle endpoint, r.uploader.batch = some b ∧
    r.conn.handle = some handle ∧ r.conn.endpoint = some endpoint ∧
    t.calls = calls ++ [⟨.write handle (requestOf b r.conn endpoint), .ok ()⟩]

theorem Speaks.silent (hs : r.conn.state ≠ .replied) (hs' : r.conn.state ≠ .sending) :
    Speaks t r := ⟨hs, fun h => absurd h hs'⟩

theorem Speaks.behind (h : Speaks t₂ r) : Speaks (t₁ ++ t₂) r := by
  refine ⟨h.unreplied, fun hs => ?_⟩
  obtain ⟨b, calls, handle, endpoint, hb, hh, he, hcalls⟩ := h.sends hs
  refine ⟨b, t₁.calls ++ calls, handle, endpoint, hb, hh, he, ?_⟩
  rw [Trace.calls_append, hcalls, List.append_assoc]

theorem giveUp_speaks {cause : UploadError} (hs : c.state = .init)
    (h : (u.giveUp cause c channels).Ends t r) : Speaks t r := by
  have hr := giveUp_gives h.gives
  refine .silent ?_ ?_
  all_goals simp [hr, hs]

theorem connectFor_speaks (hs : c.state = .init)
    (h : (u.connectFor b c channels now).Ends t r) : Speaks t r := by
  simp only [connectFor] at h
  split at h
  next =>
    obtain ⟨t₁, _, t₂, -, h₂, rfl⟩ := Prog.ends_bind.1 h
    exact (giveUp_speaks hs h₂).behind
  next =>
    obtain ⟨d, hd, rfl⟩ := Prog.ends_bind_pure.1 h
    rcases connect_gives hd.gives with rfl | ⟨-, -, houtcome⟩
    · exact .silent (by simp [hs]) (by simp [hs])
    · rcases houtcome with hinit | herror | ⟨hdns | hconnecting, -, -⟩
      · exact .silent (by simp [hinit]) (by simp [hinit])
      · exact .silent (by simp [herror]) (by simp [herror])
      · exact .silent (by simp [hdns]) (by simp [hdns])
      · exact .silent (by simp [hconnecting]) (by simp [hconnecting])

theorem write_speaks (hs : c.state = .ready) (h : (u.write b c channels now).Ends t r) :
    Speaks t r := by
  obtain ⟨t₁, d, t₂, h₁, h₂, rfl⟩ := Prog.ends_bind.1 h
  rw [if_neg ((post_gives h₁.gives).2 hs)] at h₂
  obtain ⟨rfl, rfl⟩ := Prog.ends_pure.1 h₂
  rw [List.append_nil]
  rcases post_says h₁ with ⟨handle, endpoint, -, hh, he, hcalls, rfl⟩ | ⟨-, hd⟩
  · exact ⟨by simp, fun _ => ⟨b, [], handle, endpoint, rfl, hh, he, hcalls⟩⟩
  · rcases hd with rfl | ⟨-, -, hinit | hretry⟩
    · exact .silent (by simp [hs]) (by simp [hs])
    · exact .silent (by simp [hinit]) (by simp [hinit])
    · exact .silent (by simp [hretry]) (by simp [hretry])

theorem writeAgain_speaks (hs : c.state = .retry)
    (h : (u.writeAgain b c channels now).Ends t r) : Speaks t r := by
  simp only [writeAgain] at h
  split at h
  next =>
    obtain ⟨t₁, d, t₂, h₁, h₂, rfl⟩ := Prog.ends_bind.1 h
    exact (giveUp_speaks (by rw [abandon_gives h₁.gives]) h₂).behind
  next =>
    obtain ⟨t₁, ⟨resumed, d⟩, t₂, h₁, h₂, rfl⟩ := Prog.ends_bind.1 h
    have hready := resume_gives h₁.gives
    rw [if_pos hs] at hready
    exact (write_speaks (congrArg Connection.state hready) h₂).behind

theorem advance_speaks (hs : c.state = .init ∨ c.state = .ready ∨ c.state = .retry)
    (h : (u.advance c channels now).Ends t r) : Speaks t r := by
  have hproceed {b : Batch} {rest : List MeterChannel} {t : Trace Node}
      (h : (u.proceed b c rest now).Ends t r) : Speaks t r := by
    rcases hs with hs | hs | hs
    all_goals simp only [proceed, hs] at h
    · exact connectFor_speaks hs h
    · exact write_speaks hs h
    · exact writeAgain_speaks hs h
  simp only [advance] at h
  split at h
  next => exact hproceed h
  next =>
    obtain ⟨t₁, ⟨found, rest⟩, t₂, h₁, h₂, rfl⟩ := Prog.ends_bind.1 h
    cases found with
    | some b => exact (hproceed h₂).behind
    | none =>
      obtain ⟨rfl, rfl⟩ := Prog.ends_pure.1 h₂
      rcases hs with hs | hs | hs
      all_goals exact .silent (by simp [hs]) (by simp [hs])

/-- A step on a connection that does not send. -/
theorem service_speaks (hs : conn.state ≠ .sending)
    (h : (u.service conn channels now).Ends t r) : Speaks t r := by
  cases hstate : conn.state with
  | init | ready | retry =>
    simp only [service, hstate] at h
    exact advance_speaks (by simp [hstate]) h
  | error =>
    simp only [service, hstate] at h
    obtain ⟨t₁, c, t₂, h₁, h₂, rfl⟩ := Prog.ends_bind.1 h
    exact (advance_speaks (Or.inl (by rw [abandon_gives h₁.gives])) h₂).behind
  | server | dns | connecting =>
    simp only [service, hstate] at h
    obtain ⟨rfl, rfl⟩ := Prog.ends_pure.1 h
    exact .silent (by simp [hstate]) (by simp [hstate])
  | sending => exact absurd hstate hs
  | replied =>
    simp only [service, hstate] at h
    obtain ⟨t₁, ⟨reply, d⟩, t₂, h₁, h₂, rfl⟩ := Prog.ends_bind.1 h
    have hreply := finishReply_gives h₁.gives
    rw [if_pos hstate] at hreply
    have hinit : d.state = .init := congrArg Connection.state hreply.2
    have hconn : r.conn = d := by
      cases hb : u.batch with
      | none =>
        simp only [hb] at h₂
        obtain ⟨_, _, _, -, h₄, -⟩ := Prog.ends_bind.1 h₂
        rw [(Prog.ends_pure.1 h₄).2]
      | some b =>
        simp only [hb] at h₂
        exact (evaluate_gives h₂.gives).2.1
    exact .silent (by simp [hconn, hinit]) (by simp [hconn, hinit])

/-- A step on a connection that sends leaves everything alone. -/
theorem service_rests (hs : conn.state = .sending)
    (h : (u.service conn channels now).Ends t r) :
    t.calls = [] ∧ r.conn = conn ∧ r.uploader = u := by
  simp only [service, hs] at h
  obtain ⟨rfl, rfl⟩ := Prog.ends_pure.1 h
  exact ⟨rfl, rfl, rfl⟩

end Uploader

/-! ## Dialogues -/

/-- An uploader at work, and what was said on the socket of its connection. -/
structure Dialogue where
  uploader : Uploader
  conn : Connection
  channels : List MeterChannel
  talk : Talk := []

namespace Dialogue

open Connection Uploader

variable {x x' : Dialogue} {now : Instant} {t : Trace Node} {r : Serviced}

/-- A push to some channel, a report of the transport, or a step of the uploader. -/
inductive Step : Dialogue → Dialogue → Prop where
  | push {x : Dialogue} (i : Nat) (s : Sample) :
      Step x { x with channels := x.channels.modify i (·.push s) }
  | event {x : Dialogue} (source : Option Handle) (kind : EventKind) (now : Instant)
      {t : Trace Node} {r : EventOutcome × Connection} :
      (x.conn.applyEvent source kind now).Ends t r →
      Step x { x with conn := r.2, talk := x.talk.behind t ++ x.conn.hearing source kind }
  | service {x : Dialogue} (now : Instant) {t : Trace Node} {r : Serviced} :
      (x.uploader.service x.conn x.channels now).Ends t r →
      Step x ⟨r.uploader, r.conn, r.channels, x.talk.behind t⟩

/-- Nothing has happened yet. -/
def Fresh (x : Dialogue) : Prop :=
  x.uploader.batch = none ∧ x.conn.state = .init ∧ x.talk = []

/-- The dialogues of all runs. -/
inductive Reached : Dialogue → Prop where
  | start {x : Dialogue} : x.Fresh → Reached x
  | step {x x' : Dialogue} : Reached x → Step x x' → Reached x'

/-- What all runs have in common. -/
structure Sound (x : Dialogue) : Prop where
  wired : x.conn.Wired
  untold : x.conn.Untold x.talk
  posted : x.conn.Waiting →
    x.talk.Unwritten ∨ ∃ b, x.uploader.batch = some b ∧ x.talk.Posts b x.conn
  answered : x.conn.state = .replied → ∃ handle chunk said, x.conn.handle = some handle ∧
    x.conn.response = some chunk ∧ x.talk = said ++ [.heard handle chunk]

theorem Fresh.sound (h : x.Fresh) : x.Sound := by
  obtain ⟨-, hs, htalk⟩ := h
  refine ⟨wired_init hs, ⟨fun _ => ⟨Or.inl hs, ?_⟩, fun hout => ?_⟩, fun hwaits => ?_,
    fun hreplied => ?_⟩
  · rw [htalk]
    exact Talk.unwritten_nil
  · exact absurd hout (outgoing_of_init hs)
  · simp [Waiting, hs] at hwaits
  · rw [hs] at hreplied
    cases hreplied

/-- A report that is heard. -/
theorem Sound.event {source : Option Handle} {kind : EventKind} {res : EventOutcome × Connection}
    (h : x.Sound) (hends : (x.conn.applyEvent source kind now).Ends t res) :
    Sound { x with conn := res.2, talk := x.talk.behind t ++ x.conn.hearing source kind } := by
  have hact : ((Operation.event source kind).act x.conn now).Ends t res.2 :=
    Prog.ends_bind_pure.2 ⟨res, hends, rfl⟩
  have hwired : res.2.Wired := (act_change h.wired hact.gives).wired h.wired
  refine ⟨hwired, (h.untold.act hact).hearing, fun hwaits => ?_, fun hreplied => ?_⟩
  · have hwaits : res.2.Waiting := hwaits
    simp only
    rw [Talk.behind_eq_self (applyEvent_waiting hends hwaits)]
    have hposted (hbefore : x.conn.Waiting) (hhandle : res.2.handle = x.conn.handle)
        (hrole : res.2.role = x.conn.role) (hheaders : res.2.headers = x.conn.headers) :
        Talk.Unwritten (x.talk ++ x.conn.hearing source kind) ∨ ∃ b, x.uploader.batch = some b ∧
          Talk.Posts (x.talk ++ x.conn.hearing source kind) b res.2 := by
      rcases h.posted hbefore with hunwritten | ⟨b, hb, hposts⟩
      · exact Or.inl hunwritten.hearing
      · exact Or.inr ⟨b, hb, hposts.append hhandle hrole hheaders _⟩
    rcases applyEvent_gives hends.gives with ⟨-, ⟨started, hafter⟩, -⟩ | ⟨-, hsame, -⟩
    · rw [hafter] at hwaits
      rcases after_waiting hwaits with hout | ⟨hbefore, hkept⟩
      · exact Or.inl (h.untold.outgoing hout).hearing
      · rw [← hafter] at hkept
        exact hposted hbefore hkept.1 hkept.2.1 hkept.2.2
    · rw [hsame] at hwaits
      exact hposted hwaits (by rw [hsame]) (by rw [hsame]) (by rw [hsame])
  · have hreplied : res.2.state = .replied := hreplied
    simp only
    rw [Talk.behind_eq_self (applyEvent_waiting hends (Or.inr hreplied))]
    have hkept (hsame : res.2 = x.conn) (hnothing : x.conn.hearing source kind = []) :
        ∃ handle chunk said, res.2.handle = some handle ∧ res.2.response = some chunk ∧
          x.talk ++ x.conn.hearing source kind = said ++ [.heard handle chunk] := by
      rw [hsame] at hreplied ⊢
      rw [hnothing, List.append_nil]
      exact h.answered hreplied
    rcases applyEvent_gives hends.gives with ⟨hhears, ⟨started, hafter⟩, -⟩ | ⟨hdeaf, hsame, -⟩
    · have hreplied' := hreplied
      rw [hafter] at hreplied'
      rcases after_replied hreplied' with ⟨chunk, hchunk, hresponse, hhandle⟩ | ⟨hnone, hsame⟩
      · obtain ⟨handle, hh⟩ := Option.isSome_iff_exists.1
          (hwired.held (by simp [hreplied]) (by simp [hreplied]))
        rw [← hafter] at hresponse hhandle
        refine ⟨handle, chunk, x.talk, hh, hresponse, ?_⟩
        rw [Talk.hearing_heard (hhandle ▸ hh) hchunk hhears]
      · exact hkept (hafter.trans hsame) (Talk.hearing_nothing hnone)
    · exact hkept hsame (Talk.hearing_deaf hdeaf)

/-- A step of the uploader. -/
theorem Sound.service (h : x.Sound) (hends : (x.uploader.service x.conn x.channels now).Ends t r) :
    Sound ⟨r.uploader, r.conn, r.channels, x.talk.behind t⟩ := by
  have hops := service_operated hends
  have hclauses :
      (r.conn.Waiting → (x.talk.behind t).Unwritten ∨
        ∃ b, r.uploader.batch = some b ∧ (x.talk.behind t).Posts b r.conn) ∧
      (r.conn.state = .replied → ∃ handle chunk said, r.conn.handle = some handle ∧
        r.conn.response = some chunk ∧ x.talk.behind t = said ++ [.heard handle chunk]) := by
    by_cases hs : x.conn.state = .sending
    · obtain ⟨hcalls, hconn, huploader⟩ := service_rests hs hends
      rw [Talk.behind_eq_self hcalls, hconn, huploader]
      exact ⟨h.posted, h.answered⟩
    · have hspeaks := service_speaks hs hends
      refine ⟨fun hwaits => ?_, fun hreplied => absurd hreplied hspeaks.unreplied⟩
      obtain ⟨b, calls, handle, endpoint, hb, hh, he, hcalls⟩ :=
        hspeaks.sends (hwaits.resolve_right hspeaks.unreplied)
      refine Or.inr ⟨b, hb, handle, endpoint, calls.foldl Talk.say x.talk, [], hh, he, ?_⟩
      rw [Talk.behind, hcalls, List.foldl_append]
      rfl
  exact ⟨hops.wired h.wired, h.untold.operated hops, hclauses.1, hclauses.2⟩

theorem Step.sound (hstep : Step x x') (h : x.Sound) : x'.Sound := by
  cases hstep with
  | push i s => exact ⟨h.wired, h.untold, h.posted, h.answered⟩
  | event source kind now hends => exact h.event hends
  | service now hends => exact h.service hends

theorem Reached.sound (h : Reached x) : x.Sound := by
  induction h with
  | start hfresh => exact hfresh.sound
  | step _ hstep ih => exact hstep.sound ih

/-- A step that delivers has found a reply, with which the talk on the socket of the connection
ends.  The request of the batch was written on that socket before the reply came if and only if
anything was written on it. -/
theorem Reached.delivered_after_post (h : Reached x) {n : Nat}
    (hends : (x.uploader.service x.conn x.channels now).Ends t r)
    (hp : r.progress = .delivered n) :
    ∃ b handle chunk said, x.uploader.batch = some b ∧ x.conn.handle = some handle ∧
      x.conn.response = some chunk ∧ Http.statusCode chunk = some 200 ∧
      x.talk = said ++ [.heard handle chunk] ∧ r.channels = acknowledgeBatch b x.channels ∧
      ((∃ endpoint before between, x.conn.endpoint = some endpoint ∧
          x.talk = before ++ .wrote handle (requestOf b x.conn endpoint) ::
            (between ++ [.heard handle chunk])) ↔
        ∃ other bytes, .wrote other bytes ∈ x.talk) := by
  have hsound := h.sound
  obtain ⟨b, hb, hreplied, hcode, -, hchannels⟩ := service_delivered hends.gives hp
  obtain ⟨handle, chunk, said, hh, hresponse, htalk⟩ := hsound.answered hreplied
  rw [hresponse, Option.getD_some] at hcode
  refine ⟨b, handle, chunk, said, hb, hh, hresponse, hcode, htalk, hchannels, ?_, ?_⟩
  · rintro ⟨endpoint, before, between, -, hposted⟩
    refine ⟨handle, requestOf b x.conn endpoint, ?_⟩
    rw [hposted]
    exact List.mem_append_right _ List.mem_cons_self
  · rintro ⟨other, bytes, hwrote⟩
    rcases hsound.posted (Or.inr hreplied) with hunwritten | ⟨b', hb', hposts⟩
    · exact absurd hwrote (hunwritten other bytes)
    · obtain ⟨handle', endpoint, before, rest, hh', he, hposted⟩ := hposts
      cases hb.symm.trans hb'
      cases hh.symm.trans hh'
      -- the talk ends with the reply, which is not the request
      have hlast := hposted.symm.trans htalk
      rcases List.eq_nil_or_concat rest with rfl | ⟨between, last, rfl⟩
      · cases (List.append_inj' hlast rfl).2
      · rw [List.concat_eq_append] at hlast hposted
        rw [← List.cons_append, ← List.append_assoc] at hlast
        cases (List.append_inj' hlast rfl).2
        exact ⟨endpoint, before, between, he, hposted⟩

/-! ## Runs on the bench -/

/-- Let it happen, with the answers of a bench. -/
def happen : Dialogue × Bench.World → Account.Happening → Dialogue × Bench.World
  | (x, w), .push i s => ({ x with channels := x.channels.modify i (·.push s) }, w)
  | (x, w), .event source kind now =>
      let p := x.conn.applyEvent source kind now
      let t := p.transcript (fun op w => Bench.World.answer w op) w
      let (res, w) := w.run p
      ({ x with conn := res.2, talk := x.talk.behind t ++ x.conn.hearing source kind }, w)
  | (x, w), .service now =>
      let p := x.uploader.service x.conn x.channels now
      let t := p.transcript (fun op w => Bench.World.answer w op) w
      let (r, w) := w.run p
      (⟨r.uploader, r.conn, r.channels, x.talk.behind t⟩, w)

/-- The dialogue after some happenings, on a bench that grants every call. -/
def play (x : Dialogue) (happenings : List Account.Happening) : Dialogue :=
  (happenings.foldl happen (x, {})).1

theorem happen_reached {xw : Dialogue × Bench.World} (h : Reached xw.1) (e : Account.Happening) :
    Reached (happen xw e).1 := by
  obtain ⟨x, w⟩ := xw
  cases e with
  | push i s => exact h.step (.push i s)
  | event source kind now => exact h.step (.event source kind now (Prog.run_ends _ _ w))
  | service now => exact h.step (.service now (Prog.run_ends _ _ w))

theorem play_reached (h : Reached x) (es : List Account.Happening) : Reached (x.play es) := by
  have hfold : ∀ xw : Dialogue × Bench.World, Reached xw.1 →
      Reached (es.foldl happen xw).1 := by
    induction es with
    | nil =>
      intro xw h
      exact h
    | cons e es ih =>
      intro xw h
      exact ih _ (happen_reached h e)
  exact hfold (x, {}) h

/-- One empty channel, whose samples go to a collector. -/
def single : Dialogue :=
  { uploader := Account.single.uploader
    conn := Account.single.conn
    channels := Account.single.channels }

theorem single_reached : Reached single := .start ⟨rfl, rfl, rfl⟩

/-- A sample was pushed, and its batch is connected for. -/
def connected : List Account.Happening :=
  Account.pushes 0 1 ++ [.service 0, .event (some ⟨1⟩) (.connected (.ok ())) 0]

/-- The batch is written, and the collector accepts it. -/
def answered : Dialogue :=
  single.play (connected ++ [.service 0, .event (some ⟨1⟩) (.received Account.acceptance) 0])

/-- The request of the batch stands before the reply that accepts it. -/
theorem delivered_after_post_of_one :
    ∃ t r, (answered.uploader.service answered.conn answered.channels 0).Ends t r ∧
      r.progress = .delivered 1 ∧
      ∃ b handle chunk endpoint before between, answered.uploader.batch = some b ∧
        answered.talk = before ++ .wrote handle (requestOf b answered.conn endpoint) ::
          (between ++ [.heard handle chunk]) := by
  have hends := Prog.run_ends (fun op w => Bench.World.answer w op)
    (answered.uploader.service answered.conn answered.channels 0) {}
  have hp : (Prog.run (fun op w => Bench.World.answer w op)
      (answered.uploader.service answered.conn answered.channels 0) {}).1.progress =
      .delivered 1 := by
    decide +kernel
  have hreached : Reached answered := play_reached single_reached _
  obtain ⟨b, handle, chunk, said, hb, -, -, -, -, -, hiff⟩ :=
    hreached.delivered_after_post hends hp
  have hwritten : ¬ answered.talk.Unwritten := by decide +kernel
  have hwrote : ∃ other bytes, .wrote other bytes ∈ answered.talk := by
    simpa [Talk.Unwritten] using hwritten
  obtain ⟨endpoint, before, between, -, htalk⟩ := hiff.2 hwrote
  exact ⟨_, _, hends, hp, b, handle, chunk, endpoint, before, between, hb, htalk⟩

/-- The collector speaks before the batch is written. -/
def unasked : Dialogue :=
  single.play (connected ++ [.event (some ⟨1⟩) (.received Account.acceptance) 0])

/-- A batch is delivered on bytes that came before anything was written. -/
theorem delivered_unwritten :
    Reached unasked ∧ unasked.talk.Unwritten ∧
      ∃ t r, (unasked.uploader.service unasked.conn unasked.channels 0).Ends t r ∧
        r.progress = .delivered 1 := by
  exact ⟨play_reached single_reached _, by decide +kernel, _, _,
    Prog.run_ends (fun op w => Bench.World.answer w op) _ {}, by decide +kernel⟩

end Dialogue

end MeterNode
