import LoadSweep.Proofs.Campaign.Handover

/-!
# Campaigns that end early

A campaign that ends without a fault has handed over all its sweeps, or was told to stop.  A request
to stop that is seen between two points leaves the last series incomplete, and from that it can be
told (`unfinished_campaign`).  A request that comes during the last point of a sweep is seen only
before the next sweep: then every series is complete, and the series alone do not tell that sweeps
are missing (`late_stop_leaves_no_mark`).
-/

namespace LoadSweep

set_option autoImplicit false

/-- A course without a fault that leaves out sweeps ends with an incomplete series or with a request
to stop. -/
theorem Campaign.Course.unfinished {σ : Type} {campaign : Campaign σ} {endpoints : List Endpoint}
    {receive : Series → CampaignM σ Unit} {sweeps : List Sweep} {stage final : Stage σ}
    {deliveries : List (Delivery σ)} {rest : List Event} {torn : String} {fault : Option Fault}
    (course : Course campaign endpoints receive sweeps stage deliveries rest torn fault final)
    (well : fault = none) (fewer : deliveries.length < sweeps.length) :
    (∃ last, deliveries.getLast? = some last ∧ last.series.isComplete = false) ∨
      (∀ delivery ∈ deliveries, delivery.series.isComplete = true) ∧
        campaign.bench.stopRequested final.world = true := by
  induction course with
  | finished => exact absurd fewer (Nat.not_lt_zero _)
  | stopped _ _ _ stop => exact .inr ⟨fun _ absent => absurd absent List.not_mem_nil, stop⟩
  | failed | refused => cases well
  | interrupted delivery _ _ _ partly => exact .inl ⟨delivery, rfl, partly⟩
  | onward delivery _ deliveries _ _ _ _ _ _ whole _ _ ih =>
    rcases ih well (Nat.lt_of_succ_lt_succ fewer) with ⟨last, isLast, partly⟩ | ⟨all, stop⟩
    · refine .inl ⟨last, ?_, partly⟩
      rw [List.getLast?_cons, isLast]
      rfl
    · exact .inr ⟨List.forall_mem_cons.mpr ⟨whole, all⟩, stop⟩

/-- **An unfinished campaign was told to stop.** If a campaign ends without a fault and has fewer
series than sweeps, then its last series is incomplete, or all its series are complete and the
campaign was to stop before the next sweep. -/
theorem unfinished_campaign {σ : Type} (campaign : Campaign σ) (endpoints : List Endpoint)
    (receive : Series → CampaignM σ Unit) (sweeps : List Sweep) (stage final : Stage σ)
    (all : List Series) (ran : (campaign.runAll endpoints receive sweeps).run stage = .ok all final)
    (fewer : all.length < sweeps.length) :
    (∃ last, all.getLast? = some last ∧ last.isComplete = false) ∨
      (∀ series ∈ all, series.isComplete = true) ∧
        campaign.bench.stopRequested final.world = true := by
  obtain ⟨deliveries, rest, torn, fault, after, course, concluded⟩ :=
    campaign.course endpoints receive sweeps stage
  rw [concluded] at ran
  cases fault with
  | some fault => cases ran
  | none =>
    cases ran
    rw [List.length_map] at fewer
    rcases course.unfinished rfl fewer with ⟨last, isLast, partly⟩ | ⟨whole, stop⟩
    · refine .inl ⟨last.series, ?_, partly⟩
      rw [List.getLast?_map, isLast]
      rfl
    · exact .inr ⟨List.forall_mem_map.mpr whole, stop⟩

/-- A rehearsal that is told to stop during its first run. -/
def shortScript : Script where
  replies := [⟨"GET: 48000.55 requests per second, p50=0.479 msec\n", "", .exited 0⟩]
  stopAtCall := some 1

/-- The settings of a short rehearsal. -/
def shortSettings : Settings where
  endpoints := [⟨"redis", "127.0.0.1", 6378⟩]
  client := { warmup := false }
  output := { charts := false }

/-- The campaign of a short rehearsal. -/
def shortCampaign : Campaign Rehearsal :=
  .ofClient shortSettings.client shortScript.bench

/-- When the stop comes during the first of two points, the first sweep is seen to be incomplete. -/
theorem early_stop_leaves_mark :
    let sweeps := [rehearsedSweep, rehearsedSweep]
    ∃ all final,
      (shortCampaign.runAll shortSettings.endpoints shortScript.receive sweeps).run
          ⟨.fresh "log.txt" .empty, {}⟩ = .ok all final ∧
        all.length < sweeps.length ∧
        ∃ last, all.getLast? = some last ∧ last.isComplete = false := by
  intro sweeps
  have ends : (Campaign.yielded? ((shortCampaign.runAll shortSettings.endpoints shortScript.receive
      sweeps).run ⟨.fresh "log.txt" .empty, {}⟩)).map (List.map Series.isComplete) =
        some [false] := by
    decide +kernel
  obtain ⟨all, yielded, marks⟩ := Option.map_eq_some_iff.mp ends
  have ran := Campaign.eq_ok_of_yielded? yielded
  obtain ⟨series, rfl, partly⟩ := List.map_eq_singleton_iff.mp marks
  have fewer : [series].length < sweeps.length := Nat.one_lt_two
  refine ⟨[series], _, ran, fewer, ?_⟩
  rcases unfinished_campaign shortCampaign _ shortScript.receive sweeps _ _ _ ran fewer with
      marked | ⟨whole, -⟩
  · exact marked
  · rw [whole series (List.mem_singleton_self _)] at partly
    cases partly

/-- When the stop comes during the only point of the first of two sweeps, the second is left out,
the last series is complete, and the reported campaign ends well. -/
theorem late_stop_leaves_no_mark :
    let sweeps : List Sweep :=
      [⟨"client_get", "GET", .get, .clients, [⟨1, 1, 100⟩]⟩,
        ⟨"client_set", "SET", .set, .clients, [⟨1, 1, 100⟩]⟩]
    let reported : Campaign (Printing Rehearsal) := { shortCampaign with
      bench := shortScript.bench.printing }
    (∃ all final,
      (shortCampaign.runAll shortSettings.endpoints shortScript.receive sweeps).run
          ⟨.fresh "log.txt" .empty, {}⟩ = .ok all final ∧
        all.length < sweeps.length ∧
        ¬ ∃ last, all.getLast? = some last ∧ last.isComplete = false) ∧
      ∃ final,
        (reported.runReported shortSettings sweeps).run ⟨.fresh "log.txt" .empty, {}, ""⟩ =
          .ok () final := by
  intro sweeps reported
  constructor
  · have ends : (Campaign.yielded? ((shortCampaign.runAll shortSettings.endpoints
        shortScript.receive sweeps).run ⟨.fresh "log.txt" .empty, {}⟩)).map
          (List.map Series.isComplete) = some [true] := by
      decide +kernel
    obtain ⟨all, yielded, marks⟩ := Option.map_eq_some_iff.mp ends
    obtain ⟨series, rfl, whole⟩ := List.map_eq_singleton_iff.mp marks
    refine ⟨[series], _, Campaign.eq_ok_of_yielded? yielded, Nat.one_lt_two, ?_⟩
    rintro ⟨last, isLast, partly⟩
    obtain rfl : series = last := Option.some.inj isLast
    rw [whole] at partly
    cases partly
  · have ends : Campaign.yielded? ((reported.runReported shortSettings sweeps).run
        ⟨.fresh "log.txt" .empty, {}, ""⟩) = some () := by
      decide +kernel
    exact ⟨_, Campaign.eq_ok_of_yielded? ends⟩

end LoadSweep
