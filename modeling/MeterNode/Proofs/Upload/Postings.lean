import MeterNode.Proofs.Http.Framing
import MeterNode.Proofs.Text.Shown
import MeterNode.Proofs.Upload.Conservation
import MeterNode.Proofs.Upload.Dealings

/-!
# The requests of a batch

A batch may be written more than once: a full send buffer makes the uploader write it again, and so
does a connection that was lost.  A `Posting` keeps for one batch the state in which it was framed
and the requests that were handed to the transport for it, and `Account.Recorded` is the run of an
account with its postings.

* `Uploader.service_batch`: a step frames a batch, carries the one that is out on, or ends it, and
  what it writes is the request of the batch that it carries on.
* `Connection.Operated.alike`: no operation changes what a request says beside the batch.
* `Account.Recorded.kept`: every request that is written belongs to a posting, and is the one that
  carries the samples which were the oldest of their channel when the batch was framed.

What a request carries is said of its text.  `Batch.Frames` is the text that shows the samples of a
batch, and `Posting.Says` the text around it.
-/

namespace MeterNode

open MeterNode.Text

namespace Connection

variable {c d : Connection} {now : Instant} {t : Trace Node}

/-- The other side, and the headers that requests to it carry, are the same. -/
def Alike (c d : Connection) : Prop := d.role = c.role ∧ d.headers = c.headers

theorem Alike.refl (c : Connection) : c.Alike c := ⟨rfl, rfl⟩

theorem Alike.trans {e : Connection} (h : c.Alike d) (h' : d.Alike e) : c.Alike e :=
  ⟨h'.1.trans h.1, h'.2.trans h.2⟩

theorem Alike.endpoint (h : c.Alike d) : d.endpoint = c.endpoint := by
  simp only [Connection.endpoint, h.1]

theorem Alike.requestOf (h : c.Alike d) (b : Batch) (endpoint : Endpoint) :
    Uploader.requestOf b d endpoint = Uploader.requestOf b c endpoint := by
  simp only [Uploader.requestOf, h.2]

theorem released_alike (c : Connection) : c.Alike c.released := by
  simp only [released]
  split <;> exact .refl _

theorem after_alike {kind : EventKind} {started : Bool} : c.Alike (c.after kind now started) := by
  simp only [after, afterLookup]
  repeat' split
  all_goals first | exact ⟨rfl, rfl⟩ | exact released_alike c

theorem applyEvent_alike {source : Option Handle} {kind : EventKind}
    {r : EventOutcome × Connection} (h : (c.applyEvent source kind now).Gives r) :
    c.Alike r.2 := by
  rcases applyEvent_gives h with ⟨-, ⟨started, hafter⟩, -⟩ | ⟨-, hsame, -⟩
  · rw [hafter]
    exact after_alike
  · rw [hsame]
    exact .refl c

theorem Dialled.alike (h : Dialled c now d) : c.Alike d := by
  rw [h.kept]
  exact ⟨rfl, rfl⟩

theorem Posted.alike (h : Posted c now d) : c.Alike d := by
  cases h <;> exact ⟨rfl, rfl⟩

theorem act_alike {op : Operation} (h : (op.act c now).Gives d) : c.Alike d := by
  cases op with
  | connect =>
    rcases connect_gives h with rfl | ⟨-, hdialled⟩
    · exact .refl d
    · exact hdialled.alike
  | abandon reason =>
    rw [abandon_gives h]
    exact released_alike c
  | post resource payload => exact (post_gives_posted h).alike
  | resume =>
    obtain ⟨r, hr, h⟩ := Act.gives_bind.1 h
    rw [Act.gives_pure.1 h, resume_gives hr]
    split <;> exact ⟨rfl, rfl⟩
  | finishReply =>
    obtain ⟨r, hr, h⟩ := Act.gives_bind.1 h
    rw [Act.gives_pure.1 h]
    have hreply := finishReply_gives hr
    split at hreply
    next =>
      rw [hreply.2]
      exact released_alike c
    next =>
      rw [hreply]
      exact .refl c
  | checkTimeout =>
    obtain ⟨r, hr, h⟩ := Act.gives_bind.1 h
    rw [Act.gives_pure.1 h, checkTimeout_gives hr]
    exact after_alike
  | event source kind =>
    obtain ⟨r, hr, h⟩ := Act.gives_bind.1 h
    rw [Act.gives_pure.1 h]
    exact applyEvent_alike hr

/-- No operation changes the other side or the headers. -/
theorem Operated.alike (h : Operated now c t d) : c.Alike d :=
  h.induct Alike.refl (fun _ _ _ => Alike.trans) fun _ _ _ => act_alike

end Connection

/-! ## Steps -/

namespace Uploader

variable {u : Uploader} {conn : Connection} {channels : List MeterChannel} {now : Instant}
  {r : Serviced} {t : Trace Node}

/-- What a step does with batches. -/
inductive Carries (u : Uploader) (conn : Connection) (channels : List MeterChannel)
    (now : Instant) (t : Trace Node) (r : Serviced) : Prop where
  /-- There is none. -/
  | none : u.batch = none → r.uploader.batch = none → t.writes = [] →
      Carries u conn channels now t r
  /-- A batch is framed. -/
  | framed {b : Batch} (attempts : Nat) : u.batch = none →
      (u.framed now 0 channels).1 = some b → r.uploader.batch = some { b with attempts } →
      t.writes = [] ∨ Writes b conn t → Carries u conn channels now t r
  /-- The batch that is out stays out. -/
  | kept {b : Batch} (attempts : Nat) : u.batch = some b →
      r.uploader.batch = some { b with attempts } → t.writes = [] ∨ Writes b conn t →
      Carries u conn channels now t r
  /-- The batch that is out is delivered or given up. -/
  | ended {b : Batch} : u.batch = some b → r.uploader.batch = none → t.writes = [] →
      Carries u conn channels now t r

/-- A step that ends without a batch has written nothing. -/
theorem service_silent (h : (u.service conn channels now).Ends t r)
    (hr : r.uploader.batch = none) : t.writes = [] := by
  rcases service_writes h with hw | ⟨b, rest, -, -, attempts, hsome⟩
  · exact hw
  · rw [hr] at hsome
    cases hsome

/-- A step that goes on with a batch writes no other. -/
theorem service_writes_taken {b : Batch} {rest : List MeterChannel}
    (h : (u.service conn channels now).Ends t r) (hb : u.taken now channels = (some b, rest)) :
    t.writes = [] ∨ Writes b conn t := by
  rcases service_writes h with hw | ⟨b', rest', hb', hw, -⟩
  · exact Or.inl hw
  · rw [hb] at hb'
    cases hb'
    exact Or.inr hw

theorem service_batch (h : (u.service conn channels now).Ends t r) :
    Carries u conn channels now t r := by
  have hstep := service_gives h.gives
  generalize hu : r.uploader = u' at hstep
  generalize r.channels = rest at hstep
  generalize r.progress = p at hstep
  cases hstep with
  | rested hp =>
    cases hb : u.batch with
    | none =>
      have hnone : r.uploader.batch = none := by rw [hu, hb]
      exact .none hb hnone (service_silent h hnone)
    | some b =>
      have htaken : u.taken now channels = (some b, channels) := by simp only [taken, hb]
      exact .kept b.attempts hb (by rw [hu, hb]) (service_writes_taken h htaken)
  | idle htaken =>
    rcases taken_cases htaken with ⟨hsome, hnone, -⟩ | ⟨hb, -⟩
    · rw [hnone] at hsome
      cases hsome
    · have hnone : r.uploader.batch = none := by rw [hu, hb]
      exact .none hb hnone (service_silent h hnone)
  | carried attempts htaken hp =>
    have hw := service_writes_taken h htaken
    rcases taken_cases htaken with ⟨-, hb, -⟩ | ⟨hb, hframed⟩
    · exact .kept attempts hb (by rw [hu]) hw
    · exact .framed attempts hb (congrArg Prod.fst hframed) (by rw [hu]) hw
  | givenUp hb hp =>
    have hnone : r.uploader.batch = none := by rw [hu]
    exact .ended hb hnone (service_silent h hnone)
  | refused hb hs hcode =>
    have hnone : r.uploader.batch = none := by rw [hu]
    exact .ended hb hnone (service_silent h hnone)
  | delivered hb hs hcode =>
    have hnone : r.uploader.batch = none := by
      rw [hu]
      rfl
    exact .ended hb hnone (service_silent h hnone)

end Uploader

/-! ## Texts -/

namespace Batch

variable {precision : Nat} {s : Sample} {tuples : List Sample} {text : String}

/-- A sample is shown as its timestamp and its value. -/
def ShowsTuple (precision : Nat) (s : Sample) (text : String) : Prop :=
  ∃ value, ShowsValue precision s.value value ∧
    text = "[" ++ toString s.ts ++ "," ++ value ++ "]"

/-- Samples are framed as a list in brackets. -/
def Frames (precision : Nat) (tuples : List Sample) (text : String) : Prop :=
  ∃ listed, Listed (ShowsTuple precision) tuples listed ∧ text = "[" ++ listed ++ "]"

theorem showsTuple_iff : ShowsTuple precision s text ↔ text = tupleText precision s := by
  simp only [ShowsTuple, showsValue_iff, exists_eq_left]
  exact Iff.rfl

/-- Samples are framed by one text only. -/
theorem frames_iff : Frames precision tuples text ↔ text = payloadText precision tuples := by
  have hlisted (listed : String) : Listed (ShowsTuple precision) tuples listed ↔
      listed = ",".intercalate (tuples.map (tupleText precision)) :=
    listed_iff fun _ _ => showsTuple_iff
  simp only [Frames, hlisted, exists_eq_left]
  exact Iff.rfl

end Batch

/-! ## Postings -/

/-- A batch, the state in which it was framed, and the requests written for it. -/
structure Posting where
  origin : Account
  batch : Batch
  requests : List (Handle × Bytes)

namespace Posting

variable {p : Posting}

/-- A request posts the batch: it is the text of its lines, an empty line, and the payload. -/
def Says (p : Posting) (endpoint : Endpoint) (request : Bytes) : Prop :=
  text? request = some ("\r\n".intercalate (("POST " ++ p.batch.resource ++ " HTTP/1.1") ::
    ("Host: " ++ endpoint.hostHeader) :: (p.origin.conn.headers ++
      ["Content-Length: " ++ toString p.batch.payload.utf8ByteSize])) ++ "\r\n\r\n" ++
    p.batch.payload)

/-- The batch carries the oldest samples that its channel had when it was framed, repeats aside.
Its payload is the one text that frames them, and every request written for it posts this payload
to the place of its channel. -/
structure Faithful (p : Posting) (c : MeterChannel) : Prop where
  channel : p.origin.channels[p.batch.channel]? = some c
  tuples : p.batch.tuples =
    dropRepeats (p.origin.uploader.lastSentOf p.batch.channel) (c.pending.take batchMax)
  positive : 1 ≤ p.batch.tuples.length
  bound : p.batch.tuples.length ≤ 64
  resource : p.batch.resource = p.origin.uploader.basePath ++ "/data/" ++ c.uuid ++ ".json"
  payload : ∀ text, Batch.Frames c.precision p.batch.tuples text ↔ text = p.batch.payload
  requests : ∀ request ∈ p.requests, ∃ endpoint, p.origin.conn.endpoint = some endpoint ∧
    p.Says endpoint request.2

/-- The batch is the one of the posting; only its attempts are counted on. -/
def IsFor (p : Posting) (b : Batch) : Prop := ∃ attempts, b = { p.batch with attempts }

/-- Some more requests were written. -/
def write (p : Posting) (requests : List (Handle × Bytes)) : Posting :=
  { p with requests := p.requests ++ requests }

theorem says_iff {endpoint : Endpoint} {request : Bytes} : p.Says endpoint request ↔
    request = Uploader.requestOf p.batch p.origin.conn endpoint := by
  rw [Says, ← Http.post_eq_lines, text?_eq_some_iff]
  exact eq_comm

/-- The request of a batch on a connection that the origin still knows. -/
theorem says_of_writes {b : Batch} {conn : Connection} {t : Trace Node} (hb : p.IsFor b)
    (halike : p.origin.conn.Alike conn) (hw : t.writes = [] ∨ Uploader.Writes b conn t) :
    ∀ request ∈ t.writes, ∃ endpoint, p.origin.conn.endpoint = some endpoint ∧
      p.Says endpoint request.2 := by
  intro request hmem
  obtain ⟨attempts, rfl⟩ := hb
  rcases hw with hw | ⟨handle, endpoint, -, hendpoint, hw⟩
  · rw [hw] at hmem
    cases hmem
  · rw [hw, List.mem_singleton] at hmem
    refine ⟨endpoint, by rw [← halike.endpoint, hendpoint], says_iff.2 ?_⟩
    rw [hmem]
    exact halike.requestOf _ endpoint

theorem Faithful.write {c : MeterChannel} {b : Batch} {conn : Connection} {t : Trace Node}
    (h : p.Faithful c) (hb : p.IsFor b) (halike : p.origin.conn.Alike conn)
    (hw : t.writes = [] ∨ Uploader.Writes b conn t) : (p.write t.writes).Faithful c := by
  refine ⟨h.channel, h.tuples, h.positive, h.bound, h.resource, h.payload, ?_⟩
  intro request hmem
  rcases List.mem_append.1 hmem with hmem | hmem
  · exact h.requests request hmem
  · exact says_of_writes hb halike hw request hmem

end Posting

theorem length_dropRepeats_le (previous : Option Nat) (samples : List Sample) :
    (dropRepeats previous samples).length ≤ samples.length := by
  induction samples generalizing previous with
  | nil => exact Nat.le_refl 0
  | cons s rest ih =>
    simp only [dropRepeats]
    split
    · exact Nat.le_succ_of_le (ih previous)
    · exact Nat.succ_le_succ (ih (some s.ts))

namespace Account

variable {a a' : Account} {place : Nat} {ps : List Posting} {ws : List (Handle × Bytes)}

/-- A batch that was just framed, with what the step wrote for it. -/
theorem framed_faithful {b : Batch} {now : Instant} {t : Trace Node} (attempts : Nat)
    (hb : (a.uploader.framed now 0 a.channels).1 = some b)
    (hw : t.writes = [] ∨ Uploader.Writes b a.conn t) :
    ∃ c, Posting.Faithful ⟨a, { b with attempts }, t.writes⟩ c := by
  have hfor : Posting.IsFor ⟨a, { b with attempts }, t.writes⟩ b := ⟨b.attempts, rfl⟩
  have hrequests := Posting.says_of_writes hfor (.refl a.conn) hw
  obtain ⟨j, c, hj, rfl, hne, -⟩ := Uploader.framed_batch hb
  rw [Nat.zero_add] at *
  have hbound : (a.uploader.batchOf now j c).tuples.length ≤ 64 := by
    refine Nat.le_trans (length_dropRepeats_le _ _) ?_
    rw [List.length_take]
    exact Nat.min_le_left _ _
  exact ⟨c, hj, rfl, List.length_pos_iff.2 hne, hbound, rfl, fun _ => Batch.frames_iff, hrequests⟩

/-- Record a step: what it writes is written for the batch that is out, or for the one it frames. -/
def record (a : Account) (t : Trace Node) (r : Uploader.Serviced) :
    List Posting → List Posting
  | [] =>
      match r.uploader.batch with
      | some b => [⟨a, b, t.writes⟩]
      | none => []
  | p :: ps =>
      match a.uploader.batch, r.uploader.batch with
      | some _, _ => p.write t.writes :: ps
      | none, some b => ⟨a, b, t.writes⟩ :: p :: ps
      | none, none => p :: ps

/-- A run with the postings of its batches, the latest first, and with all that was written in
it. -/
inductive Recorded (place : Nat) : Account → List Posting → List (Handle × Bytes) → Prop where
  | start {a : Account} : a.Fresh → place < a.channels.length → Recorded place a [] []
  | push {a : Account} {ps : List Posting} {ws : List (Handle × Bytes)} (i : Nat) (s : Sample) :
      Recorded place a ps ws → i < a.channels.length → Recorded place (a.push place i s) ps ws
  | event {a : Account} {ps : List Posting} {ws : List (Handle × Bytes)}
      (source : Option Handle) (kind : EventKind) (now : Instant) {t : Trace Node}
      {r : EventOutcome × Connection} : Recorded place a ps ws →
      (a.conn.applyEvent source kind now).Ends t r →
      Recorded place { a with conn := r.2 } ps (ws ++ t.writes)
  | service {a : Account} {ps : List Posting} {ws : List (Handle × Bytes)} (now : Instant)
      {t : Trace Node} {r : Uploader.Serviced} : Recorded place a ps ws →
      (a.uploader.service a.conn a.channels now).Ends t r →
      Recorded place (a.settle place r) (a.record t r ps) (ws ++ t.writes)

theorem Recorded.reached (h : Recorded place a ps ws) : Reached place a := by
  induction h with
  | start hfresh hplace => exact .start hfresh hplace
  | push i s _ hi ih => exact ih.step (.push i s hi)
  | event source kind now _ hr ih => exact ih.step (.event source kind now hr.gives)
  | service now _ hr ih => exact ih.step (.service now hr.gives)

/-- Every run has its postings. -/
theorem Reached.recorded (h : Reached place a) : ∃ ps ws, Recorded place a ps ws := by
  induction h with
  | start hfresh hplace => exact ⟨[], [], .start hfresh hplace⟩
  | step _ hstep ih =>
    obtain ⟨ps, ws, ih⟩ := ih
    cases hstep with
    | push i s hi => exact ⟨ps, ws, .push i s ih hi⟩
    | event source kind now hr =>
      obtain ⟨t, ht⟩ := hr
      exact ⟨_, _, .event source kind now ih ht⟩
    | service now hr =>
      obtain ⟨t, ht⟩ := hr
      exact ⟨_, _, .service now ih ht⟩

/-! ## What every run keeps -/

/-- The postings account for everything that was written, and the latest one is that of the batch
that is out. -/
structure Kept (a : Account) (ps : List Posting) (ws : List (Handle × Bytes)) : Prop where
  faithful : ∀ p ∈ ps, ∃ c, p.Faithful c
  alike : ∀ p ∈ ps, p.origin.conn.Alike a.conn
  out : ∀ b, a.uploader.batch = some b → ∃ p rest, ps = p :: rest ∧ p.IsFor b
  written : ps.reverse.flatMap Posting.requests = ws

theorem Fresh.kept (h : a.Fresh) : a.Kept [] [] := by
  refine ⟨by simp, by simp, fun b hb => ?_, rfl⟩
  rw [h.1] at hb
  cases hb

theorem Kept.event (h : a.Kept ps ws) {source : Option Handle} {kind : EventKind} {now : Instant}
    {t : Trace Node} {r : EventOutcome × Connection}
    (hr : (a.conn.applyEvent source kind now).Ends t r) :
    Kept { a with conn := r.2 } ps (ws ++ t.writes) := by
  rw [hr.writes_eq_nil Connection.applyEvent_quiet, List.append_nil]
  have halike := Connection.applyEvent_alike hr.gives
  exact ⟨h.faithful, fun p hp => (h.alike p hp).trans halike, h.out, h.written⟩

/-- A step that writes nothing and leaves no batch behind. -/
theorem Kept.ended (h : a.Kept ps ws) {r : Uploader.Serviced}
    (halike : a.conn.Alike r.conn) (hb : r.uploader.batch = none) :
    (a.settle place r).Kept ps ws := by
  refine ⟨h.faithful, fun p hp => (h.alike p hp).trans halike, fun b hsome => ?_, h.written⟩
  rw [show (a.settle place r).uploader.batch = none from hb] at hsome
  cases hsome

theorem Kept.framed (h : a.Kept ps ws) {r : Uploader.Serviced} {t : Trace Node} {b : Batch}
    (halike : a.conn.Alike r.conn) (hb : r.uploader.batch = some b)
    (hfaithful : ∃ c, Posting.Faithful ⟨a, b, t.writes⟩ c) :
    (a.settle place r).Kept (⟨a, b, t.writes⟩ :: ps) (ws ++ t.writes) := by
  refine ⟨?_, ?_, ?_, ?_⟩
  · rintro p (_ | ⟨_, hp⟩)
    · exact hfaithful
    · exact h.faithful p hp
  · rintro p (_ | ⟨_, hp⟩)
    · exact halike
    · exact (h.alike p hp).trans halike
  · intro d hd
    rw [show (a.settle place r).uploader.batch = some b from hb] at hd
    cases hd
    exact ⟨_, ps, rfl, b.attempts, rfl⟩
  · simp [← h.written]

theorem Kept.carried {p : Posting} (h : a.Kept (p :: ps) ws) {r : Uploader.Serviced}
    {t : Trace Node} {b : Batch} (halike : a.conn.Alike r.conn) (hb : p.IsFor b)
    (hr : ∀ d, r.uploader.batch = some d → p.IsFor d)
    (hw : t.writes = [] ∨ Uploader.Writes b a.conn t) :
    (a.settle place r).Kept (p.write t.writes :: ps) (ws ++ t.writes) := by
  refine ⟨?_, ?_, ?_, ?_⟩
  · rintro q (_ | ⟨_, hq⟩)
    · obtain ⟨c, hc⟩ := h.faithful p List.mem_cons_self
      exact ⟨c, hc.write hb (h.alike p List.mem_cons_self) hw⟩
    · exact h.faithful q (List.mem_cons_of_mem p hq)
  · rintro q (_ | ⟨_, hq⟩)
    · exact (h.alike p List.mem_cons_self).trans halike
    · exact (h.alike q (List.mem_cons_of_mem p hq)).trans halike
  · intro d hd
    exact ⟨_, ps, rfl, hr d hd⟩
  · simp [← h.written, Posting.write]

theorem Kept.service (h : a.Kept ps ws) {now : Instant} {t : Trace Node} {r : Uploader.Serviced}
    (hr : (a.uploader.service a.conn a.channels now).Ends t r) :
    (a.settle place r).Kept (a.record t r ps) (ws ++ t.writes) := by
  have halike := (Uploader.service_operated hr).alike
  cases Uploader.service_batch hr with
  | none hb hnone hw =>
    have hrecord : a.record t r ps = ps := by cases ps <;> simp only [record, hb, hnone]
    rw [hrecord, hw, List.append_nil]
    exact h.ended halike hnone
  | @framed b attempts hb hframed hsome hw =>
    have hrecord : a.record t r ps = ⟨a, { b with attempts }, t.writes⟩ :: ps := by
      cases ps <;> simp only [record, hb, hsome]
    rw [hrecord]
    exact h.framed halike hsome (framed_faithful attempts hframed hw)
  | kept attempts hb hsome hw =>
    obtain ⟨p, rest, rfl, tried, rfl⟩ := h.out _ hb
    simp only [record, hb]
    refine h.carried halike ⟨tried, rfl⟩ (fun d hd => ?_) hw
    rw [hsome] at hd
    cases hd
    exact ⟨attempts, rfl⟩
  | ended hb hnone hw =>
    obtain ⟨p, rest, rfl, hfor⟩ := h.out _ hb
    simp only [record, hb]
    refine h.carried halike hfor (fun d hd => ?_) (Or.inl hw)
    rw [hnone] at hd
    cases hd

theorem Recorded.kept (h : Recorded place a ps ws) : a.Kept ps ws := by
  induction h with
  | start hfresh _ => exact hfresh.kept
  | push i s _ _ ih => exact ⟨ih.faithful, ih.alike, ih.out, ih.written⟩
  | event source kind now _ hr ih => exact ih.event hr
  | service now _ hr ih => exact ih.service hr

end Account

end MeterNode
