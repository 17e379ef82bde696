import MeterNode.Proofs.Connection.Deeds
import MeterNode.Proofs.Upload.Framing

/-!
# What a step does with its connection

An uploader deals with its connection only through the operations that a client connection has: it
connects and posts, resumes after a full send buffer, takes the reply, and abandons the connection
when it gives up.  It makes up no reports.  `Uploader.service_dealt` says so of every step: what is
true of all these operations, and can be chained, is true of all steps (`Connection.Dealing`).
-/

namespace MeterNode

/-- What the operations of the owner of a connection do, apart and one after the other, and what is
so while the connection is left alone. -/
structure Connection.Dealing (now : Instant)
    (P : Connection → Trace Node → Connection → Prop) : Prop where
  rest : ∀ {c : Connection} {t : Trace Node}, t.calls = [] → P c t c
  act : ∀ {c d : Connection} {t : Trace Node} (op : Connection.Operation), op.isReport = false →
    (op.act c now).Ends t d → P c t d
  append : ∀ {c d e : Connection} {t₁ t₂ : Trace Node}, P c t₁ d → P d t₂ e → P c (t₁ ++ t₂) e

namespace Uploader

open Connection

variable {u : Uploader} {b : Batch} {c conn : Connection} {channels : List MeterChannel}
  {now : Instant} {r : Serviced} {t : Trace Node}

section Dealings

variable {P : Connection → Trace Node → Connection → Prop}

theorem giveUp_dealt (hP : Dealing now P) {cause : UploadError}
    (h : (u.giveUp cause c channels).Ends t r) : P c t r.conn := by
  obtain ⟨_, h₁, rfl⟩ := Prog.ends_bind_pure.1 h
  exact hP.rest (h₁.calls_eq_nil (by simp))

theorem evaluate_dealt (hP : Dealing now P) {reply : Text.Bytes}
    (h : (u.evaluate b reply c channels now).Ends t r) : P c t r.conn := by
  have hcalls : t.calls = [] := by
    refine h.calls_eq_nil ?_
    simp only [evaluate]
    split <;> simp
  have hconn : r.conn = c := by
    have hr := h.gives
    simp only [evaluate] at hr
    split at hr
    all_goals
      simp only [Act.gives_bind, Act.gives_log, Act.gives_count, Act.gives_pure, true_and,
        exists_const] at hr
      rw [hr]
  rw [hconn]
  exact hP.rest hcalls

theorem complete_dealt (hP : Dealing now P) (h : (u.complete c channels now).Ends t r) :
    P c t r.conn := by
  obtain ⟨t₁, ⟨reply, d⟩, t₂, h₁, h₂, rfl⟩ := Prog.ends_bind.1 h
  refine hP.append (hP.act .finishReply rfl (Prog.ends_bind_pure.2 ⟨_, h₁, rfl⟩)) ?_
  cases hb : u.batch with
  | none =>
    simp only [hb] at h₂
    obtain ⟨t₃, _, t₄, h₃, h₄, rfl⟩ := Prog.ends_bind.1 h₂
    obtain ⟨rfl, rfl⟩ := Prog.ends_pure.1 h₄
    rw [List.append_nil]
    exact hP.rest (h₃.calls_eq_nil (by simp))
  | some b =>
    simp only [hb] at h₂
    exact evaluate_dealt hP h₂

theorem connectFor_dealt (hP : Dealing now P) (h : (u.connectFor b c channels now).Ends t r) :
    P c t r.conn := by
  simp only [connectFor] at h
  split at h
  next =>
    obtain ⟨t₁, _, t₂, h₁, h₂, rfl⟩ := Prog.ends_bind.1 h
    exact hP.append (hP.rest (h₁.calls_eq_nil (by simp))) (giveUp_dealt hP h₂)
  next =>
    obtain ⟨t₁, d, t₂, h₁, h₂, rfl⟩ := Prog.ends_bind.1 h
    obtain ⟨rfl, rfl⟩ := Prog.ends_pure.1 h₂
    rw [List.append_nil]
    exact hP.act .connect rfl h₁

theorem write_dealt (hP : Dealing now P) (h : (u.write b c channels now).Ends t r) :
    P c t r.conn := by
  obtain ⟨t₁, d, t₂, h₁, h₂, rfl⟩ := Prog.ends_bind.1 h
  refine hP.append (hP.act (.post b.resource b.payload) rfl h₁) ?_
  split at h₂
  next => exact giveUp_dealt hP h₂
  next =>
    obtain ⟨rfl, rfl⟩ := Prog.ends_pure.1 h₂
    exact hP.rest rfl

theorem writeAgain_dealt (hP : Dealing now P) (h : (u.writeAgain b c channels now).Ends t r) :
    P c t r.conn := by
  simp only [writeAgain] at h
  split at h
  next =>
    obtain ⟨t₁, d, t₂, h₁, h₂, rfl⟩ := Prog.ends_bind.1 h
    exact hP.append (hP.act (.abandon "backpressure") rfl h₁) (giveUp_dealt hP h₂)
  next =>
    obtain ⟨t₁, ⟨resumed, d⟩, t₂, h₁, h₂, rfl⟩ := Prog.ends_bind.1 h
    exact hP.append (hP.act .resume rfl (Prog.ends_bind_pure.2 ⟨_, h₁, rfl⟩)) (write_dealt hP h₂)

theorem proceed_dealt (hP : Dealing now P) (h : (u.proceed b c channels now).Ends t r) :
    P c t r.conn := by
  simp only [proceed] at h
  split at h
  next => exact connectFor_dealt hP h
  next => exact write_dealt hP h
  next => exact writeAgain_dealt hP h
  next =>
    obtain ⟨rfl, rfl⟩ := Prog.ends_pure.1 h
    exact hP.rest rfl

@[simp] theorem frame_offline {i : Nat} : Prog.Asks Effect.Offline (u.frame now i channels) := by
  induction channels generalizing i with
  | nil => exact Act.asks_pure
  | cons c rest ih =>
    simp only [frame]
    split
    · simp [ih]
    · split <;> simp [ih]

theorem advance_dealt (hP : Dealing now P) (h : (u.advance c channels now).Ends t r) :
    P c t r.conn := by
  simp only [advance] at h
  split at h
  next => exact proceed_dealt hP h
  next =>
    obtain ⟨t₁, ⟨found, rest⟩, t₂, h₁, h₂, rfl⟩ := Prog.ends_bind.1 h
    refine hP.append (hP.rest (h₁.calls_eq_nil frame_offline)) ?_
    cases found with
    | some b => exact proceed_dealt hP h₂
    | none =>
      obtain ⟨rfl, rfl⟩ := Prog.ends_pure.1 h₂
      exact hP.rest rfl

/-- A step puts its connection through operations of its own and does nothing else to it. -/
theorem service_dealt (hP : Dealing now P) (h : (u.service conn channels now).Ends t r) :
    P conn t r.conn := by
  cases hs : conn.state with
  | init | ready | retry =>
    simp only [service, hs] at h
    exact advance_dealt hP h
  | error =>
    simp only [service, hs] at h
    obtain ⟨t₁, c, t₂, h₁, h₂, rfl⟩ := Prog.ends_bind.1 h
    exact hP.append (hP.act (.abandon "upload_recover") rfl h₁) (advance_dealt hP h₂)
  | server | dns | connecting | sending =>
    simp only [service, hs] at h
    obtain ⟨rfl, rfl⟩ := Prog.ends_pure.1 h
    exact hP.rest rfl
  | replied =>
    simp only [service, hs] at h
    exact complete_dealt hP h

end Dealings

/-- A step is a sequence of operations. -/
theorem service_operated (h : (u.service conn channels now).Ends t r) :
    Operated now conn t r.conn :=
  service_dealt ⟨.rest, fun op _ => .one op, .append⟩ h

/-- The calls of a step are about the socket of its connection. -/
theorem service_moves (h : (u.service conn channels now).Ends t r) :
    Moves conn.id conn.handle t.calls r.conn.handle := by
  have hdealing : Dealing now fun c t d => d.id = c.id ∧ Moves c.id c.handle t.calls d.handle := by
    refine ⟨fun hcalls => ⟨rfl, .stay hcalls rfl⟩, fun op hown hact => ⟨act_id hact.gives, ?_⟩, ?_⟩
    · refine act_moves hact fun source kind hop => ?_
      rw [hop] at hown
      cases hown
    · rintro c d e t₁ t₂ ⟨hcd, hmoves₁⟩ ⟨hde, hmoves₂⟩
      rw [Trace.calls_append]
      exact ⟨hde.trans hcd, hmoves₁.append (hcd ▸ hmoves₂)⟩
  exact (service_dealt hdealing h).2

end Uploader

end MeterNode
