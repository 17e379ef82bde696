import MeterNode.Proofs.Power.Default
import MeterNode.Proofs.Schedule.Stamps

/-!
# Reading at the default frequency

Some sources cannot be read while the processor is slow.  A tick goes to the default frequency ahead
of their reads, unless it takes the processor to be there already, and what it takes for that is
right (`Scheduler.Told`).  So if the processor accepts its default frequency, it runs at it from the
first operation of such a read to the last, however many entries have had their turns before
(`tick_at_default`).

What a tick reports of the processor is right as well, whatever the processor has refused.
-/

namespace MeterNode

namespace Scheduler

variable {s : Scheduler} {mhz : Nat} {now : Instant} {atDefault keep : Bool} {x : Sampling}
  {t before behind : Trace Node} {p p₀ p₁ : Pace}

/-- A read in a trace happens at a frequency: the processor runs at it ahead of the read and behind
each of its operations. -/
def ReadAt (mhz : Nat) (p : Pace) (supply : Option SupplyReading) (t : Trace Node) (x : Sampling) :
    Prop :=
  ∃ before reading behind outcome, t = before ++ (reading ++ behind) ∧ before.length = x.ahead ∧
    (x.source.read supply readingsPerRead x.utcMs).Ends reading outcome ∧
    ∀ n, ∃ q, p.follow (before ++ reading.take n) = some q ∧ q.mhz = mhz

/-- The read of a source that needs the default frequency, in some turns. -/
theorem Located.readAt (h : Located now keep atDefault s before.length t x)
    (hneeds : x.source.needsDefaultClock = true) (htold : Told mhz p atDefault s)
    (hbefore : p₀.follow before = some p) (hp : p.follow t = some p₁)
    (hgrants : Trace.Grants mhz t) : ReadAt mhz p₀ s.supply (before ++ (t ++ behind)) x := by
  cases h with
  | @intro _ _ _ s₁ _ outcome ts raise bus reading rest hturns hraise hbus _ hread hahead =>
    obtain ⟨res, hraise⟩ := hraise hneeds
    obtain ⟨p₂, hp₂, hq₂⟩ := Pace.follow_append.1 hp
    obtain ⟨p₃, hp₃, hq₃⟩ := Pace.follow_append.1 hq₂
    obtain ⟨p₄, hp₄, hq₄⟩ := Pace.follow_append.1 hq₃
    obtain ⟨p₅, hp₅, -⟩ := Pace.follow_append.1 hq₄
    have hturned := htold.turns hturns hp₂
    have hraised := hturned.raiseClock hraise hp₃
    have hdefault : res.1 = true := by
      refine raiseClock_granted hraise ?_
      rw [hturned.default]
      exact (Trace.grants_append.1 (Trace.grants_append.1 hgrants).2).1
    have hbus : p₄ = p₃ := Pace.follow_of hbus (by decide) hp₄
    have hreading : Trace.Of [.note, .input] reading :=
      hread.of (Source.read_kinds (List.Subset.refl _))
    have hahead : (before ++ (ts.flatten ++ (raise ++ bus))).length = x.ahead := by
      rw [hahead, List.length_append]
    refine ⟨_, reading, rest ++ behind, outcome, by simp, hahead, hread, fun n => ?_⟩
    have hpause := Pace.follow_take hreading (by decide) hp₅ n
    refine ⟨p₄, Pace.follow_append.2 ⟨p₄, Pace.follow_append.2 ⟨p, hbefore, ?_⟩, hpause⟩, ?_⟩
    · exact Pace.follow_append.2 ⟨p₂, hp₂, Pace.follow_append.2 ⟨p₃, hp₃, hp₄⟩⟩
    · rw [hbus]
      exact hraised.flag.1 hdefault

/-- Whatever the processor refuses, the report of a tick says whether it runs at its default
frequency.  If it accepts its default frequency, it runs at it whenever a source is read that cannot
be read while it is slow. -/
theorem tick_at_default {res : TickReport × Scheduler} (h : s.tick.Ends t res)
    (hp : p₀.follow t = some p) :
    (∃ now xs, SampledTick s now t xs ∧ (Trace.Grants s.speed.defaultMhz t →
      ∀ x ∈ xs, x.source.needsDefaultClock = true → ReadAt s.speed.defaultMhz p₀ s.supply t x)) ∧
    res.2.speed.defaultMhz = s.speed.defaultMhz ∧
    (res.1.clockDefault = true ↔ p.mhz = res.2.speed.defaultMhz) ∧
    res.2.speed.isDefault.Ends [⟨.cpu .currentMhz, p.mhz⟩] res.1.clockDefault := by
  obtain ⟨now, turns, t', rfl, hpassed⟩ := tick_passed h
  have hp : p₀.follow t' = some p := hp
  obtain ⟨hdefault, hflag⟩ := hpassed.told hp
  rw [← hdefault] at hflag
  have hanswer : res.1.clockDefault = (p.mhz == res.2.speed.defaultMhz) :=
    Bool.eq_iff_iff.2 (hflag.trans beq_iff_eq.symm)
  refine ⟨?_, hdefault, hflag, Prog.ends_bind_pure.2 ⟨p.mhz, Prog.ends_perform.2 rfl, hanswer⟩⟩
  obtain ⟨opening, atDefault, s₁, behind, xs, rfl, hopened, hsampled, hlocated⟩ := hpassed.located
  refine ⟨now, xs, hsampled, fun hgrants x hx hneeds => ?_⟩
  obtain ⟨p₁, hp₁, hq₁⟩ := Pace.follow_append.1 hp
  obtain ⟨p₂, hp₂, -⟩ := Pace.follow_append.1 hq₁
  obtain ⟨-, hgrants⟩ := Trace.grants_append.1 (List.forall_mem_cons.1 hgrants).2
  obtain ⟨-, hsupply, -, -, -⟩ := hopened.keeps
  have hbegun : p₀.follow (⟨.now, now⟩ :: opening) = some p₁ := hp₁
  rw [← hsupply]
  exact (hlocated x hx).readAt hneeds (hopened.told hp₁) hbegun hp₂
    (Trace.grants_append.1 hgrants).1

/-! ## On the bench -/

/-- A node whose only meter cannot be read while the processor is slow. -/
def demanding : Scheduler :=
  { sharing with
    entries :=
      [{ metered "u" with
          source := .external ⟨0, "em", Instant.ofSeconds 60, true, false⟩
          isOpen := true }] }

/-- A bench whose processor has been slowed down. -/
def slowed : Bench.World := { bench (.ok .pending) with cpu := { mhz := 80 } }

/-- The processor goes from 80 megahertz to its default of 240, and then the meter is read. -/
theorem raised_for_a_read :
    ∃ t res, demanding.tick.Ends t res ∧ (Pace.mk 80 false).follow t = some ⟨240, false⟩ ∧
      Trace.Grants 240 t ∧ (t[9]?).any (fun step => readsFirst 0 step.1) = true ∧
      (∃ now xs, SampledTick demanding now t xs ∧ ∀ x ∈ xs,
        x.source.needsDefaultClock = true → ReadAt 240 ⟨80, false⟩ none t x) ∧
      res.1.clockDefault = true := by
  have hfacts : (Pace.mk 80 false).follow (traced slowed demanding.tick).1 = some ⟨240, false⟩ ∧
      Trace.Grants 240 (traced slowed demanding.tick).1 ∧
      ((traced slowed demanding.tick).1[9]?).any (fun step => readsFirst 0 step.1) = true := by
    decide +kernel
  obtain ⟨hp, hgrants, hread⟩ := hfacts
  have hends := traced_ends slowed demanding.tick
  obtain ⟨⟨now, xs, hsampled, hreads⟩, hdefault, hflag, -⟩ := tick_at_default hends hp
  exact ⟨_, _, hends, hp, hgrants, hread, ⟨now, xs, hsampled, hreads hgrants⟩,
    hflag.2 hdefault.symm⟩

end Scheduler

end MeterNode
