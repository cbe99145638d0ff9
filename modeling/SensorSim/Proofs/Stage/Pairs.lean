import Mathlib
import SensorSim.Proofs.Random.Draw
import SensorSim.Proofs.Stage.Charge

/-!
# Deposits by pair

Every pair of an event has its place: the position that is set, plus an offset made of the three
draws that are the pair's own (`Deposition.place`). The loop over the pairs draws from one stream,
also for a pair that it drops, so that it comes to each pair with the stream at that pair's draws
(`deposits_streamAt`). What is deposited is therefore a matter of the settings, the sensor and the
number of the event alone (`run_deposition`).
-/

namespace SensorSim.Stage.Deposition

open Bus
open SensorSim.Random
open Config (Section Reading)
open SensorSim.Geometry (Point3 Vec3)
open Sensor (Detector Model)
open Files (FileSystem)

/-! ## Settings -/

/-- The settings of a stage are read from a section, those that it does not give being the old ones,
and they pass the checks: there are pairs, the spread is not negative, and the position lies in the
sensor. -/
structure Settles (c : Section) (model : Model) (old new : Deposition) : Prop where
  detector : new.detector = old.detector
  pairs : c.getOr (Reading.natural .unsigned32) "number_of_charges" old.pairs = .ok new.pairs
  position : c.getOr Reading.point3 "position" old.position = .ok new.position
  spread : c.getOr Reading.number "spread" old.spread = .ok new.spread
  seed : c.getOr (Reading.natural .unsigned64) "seed" old.seed = .ok new.seed
  positive : new.pairs ≠ 0
  nonneg : ¬ new.spread < 0.0
  inside : model.holds new.position = true

section

variable {i : StageId} {files : FileSystem} {ctx : SetupContext} {w w' : Workbench} {bench : Detector}
  {old new : Deposition}

/-- A setup whose settings pass the checks comes to publish. -/
lemma exec_setUp (h : Settles ctx.config bench.model old new) (here : w.detector = some bench) :
    exec (SetupQuestion.answer i files) old w (Deposition.setUp ctx) =
      exec (SetupQuestion.answer i files) new w (SetupM.publish .deposited) := by
  obtain ⟨detector, pairs, position, spread, seed⟩ := new
  obtain ⟨rfl, read_pairs, read_position, read_spread, read_seed, positive, nonneg, inside⟩ := h
  rw [Deposition.setUp, exec_bind_ok (exec_get ..), exec_ofConfig _ read_pairs, exec_bind_ok (exec_modify ..)]
  rw [exec_bind_ok (exec_get ..), exec_ofConfig _ read_position, exec_bind_ok (exec_modify ..)]
  rw [exec_bind_ok (exec_get ..), exec_ofConfig _ read_spread, exec_bind_ok (exec_modify ..)]
  rw [exec_bind_ok (exec_get ..), exec_ofConfig _ read_seed, exec_bind_ok (exec_modify ..)]
  dsimp only at positive nonneg inside ⊢
  rw [if_neg positive, if_neg nonneg, exec_bind_ok (exec_detector _ here), inside]
  rfl

/-- To publish changes nothing of the stage. -/
lemma exec_publish_stage {μ : Type} {m m' : μ} {k : Kind}
    (h : exec (SetupQuestion.answer i files) m w (SetupM.publish k) = ((.ok (), m'), w')) : m' = m := by
  simp only [SetupM.publish, SetupM.ownScope, exec_bind, exec_setup_ask, exec_pure, SetupQuestion.answer] at h
  cases answer : w.bus.publish ⟨i, k, .own (w.detector.map Detector.name)⟩ with
  | ok b =>
    rw [answer] at h
    cases h
    rfl
  | error e =>
    rw [answer] at h
    cases h

/-- A setup that succeeds has settings that pass the checks. -/
lemma settles_of_exec_setUp
    (h : exec (SetupQuestion.answer i files) old w (Deposition.setUp ctx) = ((.ok (), new), w')) :
    ∃ bench, w.detector = some bench ∧ Settles ctx.config bench.model old new := by
  rw [Deposition.setUp, exec_bind_ok (exec_get ..)] at h
  obtain ⟨pairs, read_pairs, h⟩ := exec_ofConfig_eq_ok h
  rw [exec_bind_ok (exec_modify ..), exec_bind_ok (exec_get ..)] at h
  dsimp only at h
  obtain ⟨position, read_position, h⟩ := exec_ofConfig_eq_ok h
  rw [exec_bind_ok (exec_modify ..), exec_bind_ok (exec_get ..)] at h
  dsimp only at h
  obtain ⟨spread, read_spread, h⟩ := exec_ofConfig_eq_ok h
  rw [exec_bind_ok (exec_modify ..), exec_bind_ok (exec_get ..)] at h
  dsimp only at h
  obtain ⟨seed, read_seed, h⟩ := exec_ofConfig_eq_ok h
  rw [exec_bind_ok (exec_modify ..)] at h
  dsimp only at h
  by_cases positive : pairs = 0
  · rw [if_pos positive] at h
    cases h
  by_cases nonneg : spread < 0.0
  · rw [if_neg positive, if_pos nonneg] at h
    cases h
  rw [if_neg positive, if_neg nonneg] at h
  obtain ⟨bench, _, _, got, last⟩ := exec_bind_eq_ok h
  obtain ⟨here, rfl, rfl⟩ := exec_detector_eq_ok got
  cases inside : bench.model.holds position with
  | false =>
    rw [inside] at last
    cases last
  | true =>
    rw [inside] at last
    cases exec_publish_stage last
    exact ⟨bench, here, rfl, read_pairs, read_position, read_spread, read_seed, positive, nonneg, inside⟩

end

/-! ## Pairs -/

/-- The offset of a pair in an event: none without a spread, and otherwise made of three draws that
are the pair's. -/
def offset (d : Deposition) (event k : Nat) : Vec3 :=
  if d.spread == 0.0 then .zero
  else
    let coordinate (n : Nat) : Float := (draw (UInt64.ofNat (d.seed ^^^ event)) n * 2.0 - 1.0) * d.spread
    ⟨coordinate (3 * k), coordinate (3 * k + 1), coordinate (3 * k + 2)⟩

/-- Where a pair of an event is set free, if it is. -/
def place (d : Deposition) (event k : Nat) : Point3 :=
  d.position + d.offset event k

/-- The stream of an event when it comes to a pair: without a spread nothing was drawn so far, and
otherwise three numbers of two words for every pair before. -/
def streamAt (d : Deposition) (event k : Nat) : Stream :=
  .upTo (keyOfSeed (UInt64.ofNat (d.seed ^^^ event))) (if d.spread == 0.0 then 0 else 2 * (3 * k))

variable (d : Deposition) (event : Nat)

/-- The stream of an event starts at the first pair. -/
lemma stream_eq : d.stream event = d.streamAt event 0 := by
  rw [stream, Stream.ofSeed_eq_upTo, streamAt, Nat.mul_zero, ite_self]

/-- A pair takes its own draws and leaves the stream at those of the next pair. -/
lemma drawOffset_streamAt (k : Nat) :
    d.drawOffset (d.streamAt event k) = (d.offset event k, d.streamAt event (k + 1)) := by
  rw [drawOffset, offset, streamAt, streamAt]
  cases d.spread == 0.0 with
  | true => rfl
  | false =>
    simp only [Bool.false_eq_true, if_false, Stream.unit_upTo]
    rfl

/-- The deposits of a pair: both carriers where the sensor has the place, and none elsewhere. -/
def pairIn (m : Model) (k : Nat) : List Deposit :=
  if m.holds (d.place event k) then pairAt (d.place event k) else []

/-- The pairs that are still to come are deposited each at its place, whether or not others are
dropped. -/
lemma deposits_streamAt (m : Model) (n k : Nat) :
    d.deposits m n (d.streamAt event k) = (List.range' k n).flatMap (d.pairIn event m) := by
  induction n generalizing k with
  | zero => rfl
  | succ n ih =>
    rw [deposits, drawOffset_streamAt]
    dsimp only
    rw [ih, List.range'_succ, List.flatMap_cons]
    rfl

/-- The deposits of an event are those of its pairs in order. -/
lemma deposits_stream (m : Model) (n : Nat) :
    d.deposits m n (d.stream event) = (List.range n).flatMap (d.pairIn event m) := by
  rw [stream_eq, deposits_streamAt, List.range_eq_range']

/-- Deposits come in twos. -/
lemma even_length_pairs (m : Model) (n : Nat) : Even ((List.range n).flatMap (d.pairIn event m)).length := by
  rw [List.length_flatMap, even_iff_two_dvd]
  refine List.dvd_sum fun length h => ?_
  obtain ⟨k, -, rfl⟩ := List.mem_map.1 h
  rw [pairIn]
  split
  · exact ⟨1, rfl⟩
  · exact ⟨0, rfl⟩

/-- A sensor drops the pairs whose places it does not have, and does nothing else to them. -/
lemma flatMap_pairIn (m : Model) (l : List Nat) :
    l.flatMap (d.pairIn event m) =
      (l.flatMap fun k => pairAt (d.place event k)).filter fun x => m.holds x.position := by
  rw [List.filter_flatMap]
  refine List.flatMap_congr fun k _ => ?_
  rw [pairIn, pairAt]
  cases inside : m.holds (d.place event k) <;> simp [inside]

/-! ## Whole events -/

section

variable {i : StageId} {ctx : RunContext} {b : Bus} {d} {det : Detector}

/-- On a detector the stage hands over the deposits of its pairs. -/
lemma run_eq (here : ctx.detector = some det) : Program.run (RunQuestion.answer i) (Stage.run ctx d) b =
    handOver i det.name d b (.deposited ((List.range d.pairs).flatMap (d.pairIn ctx.event det.model))) := by
  show exec (RunQuestion.answer i) d b (Deposition.run ctx) = _
  rw [Deposition.run, exec_bind_ok (exec_getDetector d here), exec_bind_ok (exec_get ..), deposits_stream]
  exact exec_handOver d here _

/-- An event leaves the stage as it is. -/
lemma run_stage : (Program.run (RunQuestion.answer i) (Stage.run ctx d) b).1.2 = d := by
  cases here : ctx.detector with
  | some det =>
    rw [run_eq here, handOver]
    split <;> rfl
  | none =>
    show (exec (RunQuestion.answer i) d b (Deposition.run ctx)).1.2 = d
    rw [Deposition.run, RunContext.getDetector, here]
    rfl

/-- The stage after some events in which it has run, as whichever stage and on whichever bus. -/
def afterRuns (d : Deposition) (earlier : List (StageId × RunContext × Bus)) : Deposition :=
  earlier.foldl (fun d e => (Program.run (RunQuestion.answer e.1) (Stage.run e.2.1 d) e.2.2).1.2) d

/-- However often it has run, the stage is as it was set up. -/
lemma afterRuns_eq (earlier : List (StageId × RunContext × Bus)) : d.afterRuns earlier = d := by
  induction earlier with
  | nil => rfl
  | cons e rest ih =>
    rw [afterRuns, List.foldl_cons, run_stage]
    exact ih

end

/-- A stage that was set up has the settings of its configuration. In every event, whatever events
it ran in before, it deposits the pairs in their order, each as an electron and a hole at the pair's
place if the sensor has that place, and not at all otherwise; so the deposits are even in number,
and those of a smaller sensor are those of a larger one without the pairs that it drops. -/
theorem run_deposition {id : StageId} {files : FileSystem} {setup : SetupContext} {old d : Deposition}
    {w w' : Workbench}
    (accepted : Program.run (SetupQuestion.answer id files) (Stage.setUp setup old) w = ((.ok (), d), w')) :
    (∃ bench, w.detector = some bench ∧ Settles setup.config bench.model old d) ∧
    ∀ (earlier : List (StageId × RunContext × Bus)) (i : StageId) (ctx : RunContext) (b : Bus) (det : Detector),
      ctx.detector = some det → ∃ xs : List Deposit,
        Program.run (RunQuestion.answer i) (Stage.run ctx (d.afterRuns earlier)) b =
          handOver i det.name d b (.deposited xs) ∧
        xs = ((List.range d.pairs).flatMap fun k =>
          if det.model.holds (d.place ctx.event k) then
            [⟨d.place ctx.event k, 1, .electron, 0.0⟩, ⟨d.place ctx.event k, 1, .hole, 0.0⟩]
          else []) ∧
        Even xs.length ∧
        xs = ((List.range d.pairs).flatMap fun k =>
          [⟨d.place ctx.event k, 1, .electron, 0.0⟩, ⟨d.place ctx.event k, 1, .hole, 0.0⟩]).filter
            fun x => det.model.holds x.position := by
  refine ⟨settles_of_exec_setUp accepted, fun earlier i ctx b det here => ?_⟩
  rw [afterRuns_eq, run_eq here]
  exact ⟨_, rfl, rfl, even_length_pairs d ctx.event det.model d.pairs, flatMap_pairIn d ctx.event det.model _⟩

/-- A square of four pixels. -/
def square : Detector where
  name := "square"
  model :=
    { name := "square", columns := 2, rows := 2, pitch := ⟨1.0, 1.0⟩, implant := ⟨1.0, 1.0⟩, thickness := 2.0 }

/-- The configuration of two pairs in an event, which are spread over a cube that is larger than the
square. -/
def scatter : SetupContext where
  stage := 0
  config := .ofList "SimpleDeposition" [("number_of_charges", "2"), ("spread", "1.5"), ("seed", "7")]
  files := .empty

/-- The stage with these settings. -/
def scattered : Deposition where
  detector := "square"
  pairs := 2
  spread := 1.5
  seed := 7

/-- In its second event, and whatever it did in the fifth, the first pair falls beside the square
and the second is deposited where its own draws put it. -/
theorem run_deposition_scattered :
    (∃ w w',
      Program.run (SetupQuestion.answer 0 .empty) (Stage.setUp scatter ({ detector := "square" } : Deposition)) w =
      ((.ok (), scattered), w')) ∧
    Program.run (RunQuestion.answer 0) (Stage.run ⟨0, 2, some square⟩
      (scattered.afterRuns [(0, ⟨0, 5, some square⟩, { event := some 5 })])) { event := some 2 } =
      ((.ok (), scattered), { event := some 2, store := [⟨0,
        { records := .deposited [⟨scattered.place 2 1, 1, .electron, 0.0⟩, ⟨scattered.place 2 1, 1, .hole, 0.0⟩],
          detector := some "square", event := 2 }⟩] }) := by
  have settles : Settles scatter.config square.model { detector := "square" } scattered :=
    ⟨rfl, by decide +kernel, rfl, by decide +kernel, by decide +kernel, by decide +kernel, by decide +kernel,
      by decide +kernel⟩
  obtain ⟨w', published, -⟩ := exec_publish 0 .empty scattered
    (w := { bus := {}, tables := .ofLimit 0, detector := some square }) rfl .deposited
  have accepted := (exec_setUp settles rfl).trans published
  refine ⟨⟨_, w', accepted⟩, ?_⟩
  obtain ⟨-, events⟩ := run_deposition accepted
  obtain ⟨xs, run, pairs, -⟩ := events [(0, ⟨0, 5, some square⟩, { event := some 5 })] 0 ⟨0, 2, some square⟩
    { event := some 2 } square rfl
  have dropped : square.model.holds (scattered.place 2 0) = false := by decide +kernel
  have kept : square.model.holds (scattered.place 2 1) = true := by decide +kernel
  have two : List.range scattered.pairs = [0, 1] := rfl
  rw [two, List.flatMap_cons, List.flatMap_cons, dropped, kept] at pairs
  rw [run, pairs]
  exact handOver_of_free _ rfl nofun

end SensorSim.Stage.Deposition
