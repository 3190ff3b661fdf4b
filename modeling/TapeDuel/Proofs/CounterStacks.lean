import Mathlib.Data.List.Forall2
import TapeDuel.Proofs.OnePass

/-!
# What a bot has counted

The engine pushes a counter where it enters a counted loop, pops it where it
leaves the loop behind its last pass, and never asks which loop a counter
belongs to. For a bot of a sound program the answer can be read off the
pointer: `Program.loopsAround` lists the counted loops that a place is in,
innermost first, and the stack holds one counter for each of them.

`Agent.CountsItsLoops` says that without the list being computed, so that it
can be read by itself. It comes out of the balance of the counters, which every
turn keeps; nothing is left to show but which pairs of places the list holds
and in which order.
-/

namespace TapeDuel

namespace Program

/-- The other end of the loop that starts at `s`. -/
def stop (p : Program) (s : Nat) : Nat :=
  match p[s]? with
  | some i => i.target.toNat
  | none => 0

theorem Spans.stop_eq {p : Program} {op : Op} {s e : Nat} (h : p.Spans op s e) :
    p.stop s = e := by
  obtain ⟨i, hi, -, ht⟩ := h.opens
  rw [stop, hi]
  simp only [ht, Int.toNat_natCast]

/-- A loop that was not yet passed often enough has an end that says so. -/
theorem exists_stop_of_lt_passes {p : Program} {s count : Nat}
    (h : (count : Int) < p.passes s) :
    ∃ i, p[p.stop s]? = some i ∧ (count : Int) < i.iterations := by
  rw [passes] at h
  split at h
  · next i hi =>
      split at h
      · next j hj =>
          obtain ⟨e, ht, hje⟩ := exists_of_at?_eq_some hj
          refine ⟨j, ?_, h⟩
          rw [stop, hi]
          simpa only [ht, Int.toNat_natCast] using hje
      · omega
  · omega

/-- The ends of the counted loops that a place is in, innermost first. -/
def loopsAround (p : Program) (k : Nat) : List (Nat × Nat) :=
  (p.around k).map fun s => (s, p.stop s)

theorem mem_loopsAround {p : Program} (hv : p.validate = .ok ()) {s e k : Nat} :
    (s, e) ∈ p.loopsAround k ↔ p.Spans .repeatStart s e ∧ s < k ∧ k ≤ e := by
  simp only [loopsAround, List.mem_map, Prod.mk.injEq]
  constructor
  · rintro ⟨s', hs', rfl, rfl⟩
    obtain ⟨hlt, e, hspan, hle⟩ := (mem_around hv).mp hs'
    rw [hspan.stop_eq]
    exact ⟨hspan, hlt, hle⟩
  · rintro ⟨hspan, hlt, hle⟩
    exact ⟨s, (mem_around hv).mpr ⟨hlt, e, hspan, hle⟩, rfl, hspan.stop_eq⟩

/-- Of two counted loops around a place, the one that starts later ends
earlier. -/
theorem Sound.pairwise_loopsAround {p : Program} (hp : p.Sound) (k : Nat) :
    (p.loopsAround k).Pairwise fun inner outer =>
      outer.1 < inner.1 ∧ inner.2 < outer.2 := by
  refine List.pairwise_map.mpr ((p.pairwise_around k).imp_of_mem ?_)
  intro s s' hs hs' hlt
  obtain ⟨hsk, e, hspan, -⟩ := (mem_around hp.valid).mp hs
  obtain ⟨-, e', hspan', hke'⟩ := (mem_around hp.valid).mp hs'
  rw [hspan.stop_eq, hspan'.stop_eq]
  exact ⟨hlt, hp.nest.stop_inside hspan' hspan hlt (by omega)⟩

/-- Behind the program there is no loop left. -/
theorem around_size {p : Program} (hv : p.validate = .ok ()) :
    p.around p.size = [] := by
  refine List.eq_nil_iff_forall_not_mem.mpr fun s hs => ?_
  obtain ⟨-, e, hspan, hle⟩ := (mem_around hv).mp hs
  exact Nat.not_lt_of_le hle hspan.stop_lt_size

end Program

namespace Agent

/-- The counters of a bot are those of the counted loops that its pointer is in,
in the body or at the end, and none of these is skipped. -/
structure CountsItsLoops (a : Agent) : Prop where
  pointer : 0 ≤ a.pointer ∧ a.pointer ≤ a.program.size
  /-- The pointer is inside of no loop that is marked to be skipped. -/
  outside : ∀ s e, a.program.Spans .repeatStart s e → a.inert.getD s false = true →
    ¬ ((s : Int) < a.pointer ∧ a.pointer ≤ e)
  /-- One counter for each loop, innermost first, that is less than what the
  end of the loop asks for. -/
  counters : ∃ loops : List (Nat × Nat),
    (∀ s e, (s, e) ∈ loops ↔
      a.program.Spans .repeatStart s e ∧ a.inert.getD s false = false ∧
        (s : Int) < a.pointer ∧ a.pointer ≤ e) ∧
    (loops.Pairwise fun inner outer => outer.1 < inner.1 ∧ inner.2 < outer.2) ∧
    List.Forall₂ (fun (count : Nat) loop =>
      ∃ i, a.program[loop.2]? = some i ∧ (count : Int) < i.iterations)
      a.counters loops
  /-- A program that is over leaves no counter. -/
  ended : a.ended = true → a.counters = []

theorem Sound.countsItsLoops {a : Agent} {k : Nat} (ha : a.Sound k) :
    a.CountsItsLoops := by
  have hv := ha.valid
  have hle := ha.le
  refine ⟨?_, ?_, ⟨a.program.loopsAround k, ?_, ?_, ?_⟩, ?_⟩
  · rw [ha.pointer]
    omega
  · rintro s e hspan hinert ⟨hlt, hke⟩
    rw [ha.pointer] at hlt hke
    rw [ha.inert] at hinert
    have hlive := ha.balanced.live s
      ((Program.mem_around hv).mpr ⟨by omega, e, hspan, by omega⟩)
    rw [Program.inertAt, hinert] at hlive
    cases hlive
  · intro s e
    rw [Program.mem_loopsAround hv, ha.pointer, ha.inert, Int.ofNat_lt, Int.ofNat_le]
    refine and_congr_right fun hspan => ⟨fun hin => ⟨?_, hin⟩, And.right⟩
    exact ha.balanced.live s ((Program.mem_around hv).mpr ⟨hin.1, e, hspan, hin.2⟩)
  · exact ha.program.pairwise_loopsAround k
  · -- The balance speaks of starts; where a loop ends its passes are written.
    rw [Program.loopsAround, List.forall₂_map_right_iff]
    exact ha.balanced.2.imp fun count s h => Program.exists_stop_of_lt_passes h.2
  · intro hended
    rw [ended, decide_eq_true_iff, ha.pointer] at hended
    obtain rfl : k = a.program.size := by omega
    have hall := ha.balanced.2
    rw [Program.around_size hv] at hall
    exact List.forall₂_nil_right_iff.mp hall

end Agent

/-- The bot of a compiled program counts its loops, and only those, behind any
sequence of turns and whatever cells it meets. -/
theorem compiled_bots_count_their_loops {source : Source} {p : Program}
    (h : source.compile = .ok p) (length : Int64) (orientation : Orientation)
    (polarity : Polarity) (bits : List Bool) :
    ∃ a, (Agent.new p length orientation polarity).run bits = .ok a ∧
      a.program = p ∧ a.inert = p.inert ∧ a.CountsItsLoops := by
  have hnew := Agent.sound_new (Source.sound_of_compile h) length orientation polarity
  obtain ⟨a, k, hrun, hprogram, ha⟩ := hnew.run bits
  exact ⟨a, hrun, hprogram, by rw [ha.inert, hprogram]; rfl, ha.countsItsLoops⟩

/-- The theorem in the second pass of a loop, behind a loop that is skipped and
behind one jump over the conditional loop. The bot stands at the end of the
loop in that one, which has one of its three passes behind it. -/
theorem compiled_bots_count_their_loops_nested :
    ∃ (p : Program) (a : Agent),
      (⟨"", "((-)*0+[(.)*3>])*2"⟩ : Source).compile = .ok p ∧
      (Agent.new p 10 .normal .normal).run [true, true, true, false, true, true] =
        .ok a ∧
      a.pointer = 8 ∧ a.counters = [1, 1] ∧ a.CountsItsLoops := by
  have hparse : (⟨"", "((-)*0+[(.)*3>])*2"⟩ : Source).parse =
      .ok (.times (.times (.act .decrement .done) 0 (.act .increment
        (.loop (.times (.act .rest .done) 3 (.act .forward .done)) .done))) 2
        .done) := by
    cbv
  have hcompile := Source.compile_eq_ok_iff.mpr ⟨_, hparse, rfl⟩
  obtain ⟨a, hrun, -, -, hcounts⟩ := compiled_bots_count_their_loops hcompile 10
    .normal .normal [true, true, true, false, true, true]
  have hspot : (Except.ok a : Except Fault Agent).map
      (fun a => (a.pointer, a.counters)) = .ok (8, [1, 1]) := by
    rw [← hrun]
    cbv
  obtain ⟨hpointer, hcounters⟩ := Prod.mk.inj (Except.ok.inj hspot)
  exact ⟨_, a, hcompile, hrun, hpointer, hcounters, hcounts⟩

end TapeDuel
