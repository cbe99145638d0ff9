import Mathlib
import SensorSim.Proofs.Stage.Charge

/-!
# Drifting to the readout side

Every deposit either arrives on the readout side or is lost, as the electric field takes it: those
that arrive do so in the order in which they were deposited, and no charge comes or goes on the way
(`Arrives`). Without an electric field no carriers can be moved, and that is an error as soon as
there are some (`run_projection`).
-/

namespace SensorSim.Stage.Projection

open Bus
open SensorSim.Geometry (Vec3)
open Sensor (Detector InstalledField)

/-! ## Deposits -/

/-- Carriers that have drifted are those of a deposit: they come from where it was, along the field
and on to the readout side. -/
structure Arrives (d : Detector) (f : InstalledField Vec3) (x : Deposit) (y : Drifted) : Prop where
  charge : y.charge = x.charge
  carrier : y.carrier = x.carrier
  time : y.time = x.time
  start : y.start = x.position
  readout : y.position.z = d.model.depth.greatest
  straight : y.position = landing d.model.depth.greatest x.position (driftIn d f x)

variable {d : Detector}

/-- The carriers of a deposit arrive where the field takes them. -/
lemma arrives_arrival (f : InstalledField Vec3) (x : Deposit) : Arrives d f x (arrival d f x) :=
  ⟨rfl, rfl, rfl, rfl, rfl, rfl⟩

/-- Carriers that arrive one for one have the charges of the deposits. -/
lemma charges_of_arrives {f : InstalledField Vec3} {xs : List Deposit} {ys : List Drifted}
    (h : List.Forall₂ (Arrives d f) xs ys) : ys.map Drifted.charge = xs.map Deposit.charge := by
  induction h with
  | nil => rfl
  | cons arrives _ ih => rw [List.map_cons, List.map_cons, ih, arrives.charge]

/-- The charges of the deposits that are left out and of those that are not add up to all
charges. -/
lemma sum_charges_filter (p : Deposit → Bool) (xs : List Deposit) :
    ((xs.filter (!p ·)).map Deposit.charge).sum + ((xs.filter p).map Deposit.charge).sum =
      (xs.map Deposit.charge).sum := by
  rw [Nat.add_comm, ← List.sum_append, ← List.map_append]
  exact ((List.filter_append_perm p xs).map Deposit.charge).sum_eq

/-- Without an electric field the first deposit is an error. -/
lemma projectAll_of_none (h : d.field = none) (xs : List Deposit) :
    projectAll d xs = if xs = [] then .ok [] else .error ⟨d.name, .electricField⟩ := by
  cases xs with
  | nil => rfl
  | cons x rest =>
    rw [if_neg (List.cons_ne_nil x rest), projectAll, project, drift, Detector.fieldAt, Detector.fieldOf, h]
    rfl

/-! ## Whole events -/

section

variable {i : StageId} {ctx : RunContext} {t : Projection} {b : Bus} {m : Message} {xs : List Deposit}

/-- Where deposits are fetched, the stage hands over what they become, or fails for want of a
field. -/
lemma run_eq (here : ctx.detector = some d) (fetched : b.fetch i .deposited d.name = .ok (some m))
    (deposits : m.deposits? = some xs) : Program.run (RunQuestion.answer i) (Stage.run ctx t) b =
      match projectAll d xs with
      | .ok moved => handOver i d.name t b (.drifted moved)
      | .error e => ((.error (.fieldQuery e), t), b) := by
  show exec (RunQuestion.answer i) t b (Projection.run ctx) = _
  rw [Projection.run, exec_bind_ok (exec_getDetector t here), exec_bind_ok (exec_fetch_of_eq t here fetched)]
  simp only [deposits]
  cases projectAll d xs with
  | error e => rfl
  | ok moved => exact exec_handOver t here (.drifted moved)

/-- In an electric field, the carriers that are dispatched are those of the deposits whose drift
does not lead away from the readout side, one for one and in the same order, and their charges and
those of the deposits that are left out add up to the charges of all deposits. Without a field,
nothing is dispatched and the stage fails when there is a deposit, and an empty list is dispatched
when there is none. -/
theorem run_projection (i : StageId) (ctx : RunContext) (t : Projection) (b : Bus) (here : ctx.detector = some d)
    (fetched : b.fetch i .deposited d.name = .ok (some m)) (deposits : m.deposits? = some xs) :
    (∀ f, d.field = some f → ∃ ys : List Drifted,
      Program.run (RunQuestion.answer i) (Stage.run ctx t) b = handOver i d.name t b (.drifted ys) ∧
      List.Forall₂ (Arrives d f) (xs.filter fun x => ¬ (driftIn d f x).z ≤ 0.0) ys ∧
      (ys.map Drifted.charge).sum + ((xs.filter fun x => (driftIn d f x).z ≤ 0.0).map Deposit.charge).sum =
        (xs.map Deposit.charge).sum) ∧
    (d.field = none → Program.run (RunQuestion.answer i) (Stage.run ctx t) b =
      if xs = [] then handOver i d.name t b (.drifted [])
      else ((.error (.fieldQuery ⟨d.name, .electricField⟩), t), b)) := by
  rw [run_eq here fetched deposits]
  refine ⟨fun f has => ?_, fun lacks => ?_⟩
  · have kept : (xs.filter fun x => ¬ (driftIn d f x).z ≤ 0.0) = xs.filter (!lost d f ·) :=
      List.filter_congr fun x _ => decide_not
    have arrive : List.Forall₂ (Arrives d f) (xs.filter (!lost d f ·))
        ((xs.filter (!lost d f ·)).map (arrival d f)) :=
      List.forall₂_map_right_iff.2 (List.forall₂_same.2 fun x _ => arrives_arrival f x)
    rw [projectAll_of_field has, kept]
    refine ⟨_, rfl, arrive, ?_⟩
    rw [charges_of_arrives arrive]
    exact sum_charges_filter (lost d f) xs
  · rw [projectAll_of_none lacks]
    by_cases empty : xs = []
    · rw [if_pos empty, if_pos empty]
    · rw [if_neg empty, if_neg empty]

end

/-- A pixel in which the field points up, more so at the top. -/
def upwards : Detector where
  name := "up"
  model := { name := "up", columns := 1, rows := 1, pitch := ⟨1.0, 1.0⟩, implant := ⟨1.0, 1.0⟩, thickness := 2.0 }
  field := some (.ofFunction (fun pos => ⟨0.0, 0.0, pos.z + 1.0⟩) ⟨-1.0, 1.0⟩ .custom)

/-- An electron and a hole in the middle, and a hole at the bottom, where there is no field. -/
def freed : List Deposit :=
  [⟨⟨0.0, 0.0, 0.0⟩, 2, .electron, 0.0⟩, ⟨⟨0.0, 0.0, 0.0⟩, 3, .hole, 0.5⟩, ⟨⟨0.0, 0.0, -1.0⟩, 5, .hole, 0.0⟩]

/-- The bus on which some deposits wait for the stage with the number zero. -/
def freedBus (xs : List Deposit) : Bus where
  subscriptions := [⟨0, .deposited, .detector "up", .required⟩]
  event := some 1
  store := [⟨1, { records := .deposited xs, detector := some "up", event := 1 }⟩]

/-- Only the hole in the middle arrives. On a detector without the field the stage fails, and
without deposits it gives an empty list there. -/
theorem run_projection_upwards :
    (∃ y : Drifted,
      Program.run (RunQuestion.answer 0) (Stage.run ⟨0, 1, some upwards⟩ (⟨"up"⟩ : Projection)) (freedBus freed) =
        ((.ok (), ⟨"up"⟩),
          (freedBus freed).withEntries [⟨0, { records := .drifted [y], detector := some "up", event := 1 }⟩]) ∧
      y.charge = 3 ∧ y.time = 0.5 ∧ y.start = ⟨0.0, 0.0, 0.0⟩ ∧ y.position.z = 1.0) ∧
    Program.run (RunQuestion.answer 0) (Stage.run ⟨0, 1, some { upwards with field := none }⟩ (⟨"up"⟩ : Projection))
      (freedBus freed) = ((.error (.fieldQuery ⟨"up", .electricField⟩), ⟨"up"⟩), freedBus freed) ∧
    Program.run (RunQuestion.answer 0) (Stage.run ⟨0, 1, some { upwards with field := none }⟩ (⟨"up"⟩ : Projection))
      (freedBus []) = ((.ok (), ⟨"up"⟩),
        (freedBus []).withEntries [⟨0, { records := .drifted [], detector := some "up", event := 1 }⟩]) := by
  have free : ∀ xs ys, ∀ e ∈ (freedBus xs).store,
      ¬ e.message.clashes { records := .drifted ys, detector := some "up" } := by
    intro xs ys e he clash
    rw [List.mem_singleton.1 he] at clash
    have kinds : Kind.deposited = .drifted := (Message.clashes_iff.1 clash).1
    cases kinds
  have kept : freed.filter (fun x => ¬ (driftIn upwards (.ofFunction (fun pos => ⟨0.0, 0.0, pos.z + 1.0⟩)
      ⟨-1.0, 1.0⟩ .custom) x).z ≤ 0.0) = [⟨⟨0.0, 0.0, 0.0⟩, 3, .hole, 0.5⟩] := by
    rw [freed, List.filter_cons_of_neg (by decide +kernel), List.filter_cons_of_pos (by decide +kernel),
      List.filter_cons_of_neg (by decide +kernel), List.filter_nil]
  obtain ⟨moves, -⟩ := @run_projection upwards _ freed 0 ⟨0, 1, some upwards⟩ ⟨"up"⟩ (freedBus freed) rfl rfl rfl
  obtain ⟨-, fails⟩ := @run_projection { upwards with field := none } _ freed 0
    ⟨0, 1, some { upwards with field := none }⟩ ⟨"up"⟩ (freedBus freed) rfl rfl rfl
  obtain ⟨-, empty⟩ := @run_projection { upwards with field := none } _ [] 0
    ⟨0, 1, some { upwards with field := none }⟩ ⟨"up"⟩ (freedBus []) rfl rfl rfl
  obtain ⟨ys, run, arrive, -⟩ := moves _ rfl
  rw [kept, List.forall₂_cons_left_iff] at arrive
  obtain ⟨y, _, arrives, rest, rfl⟩ := arrive
  cases rest
  refine ⟨⟨y, run.trans (handOver_of_free _ rfl (free _ _)), arrives.charge, arrives.time, arrives.start, ?_⟩,
    (fails rfl).trans (if_neg ?_), (empty rfl).trans (handOver_of_free _ rfl (free _ _))⟩
  · rw [arrives.readout]
    decide +kernel
  · exact List.cons_ne_nil _ _

end SensorSim.Stage.Projection
