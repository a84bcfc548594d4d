import LoadSweep.Proofs.Campaign.Starting

/-!
# What a sweep measures

A sweep of points at endpoints is a grid, and measuring it makes the visits of its first rows: all
of them, or those before the first point at whose start the campaign is to stop.  Every visit leaves
one sample, whatever became of its run, at the place of the visit in the grid
(`sweep_measures_grid`).
-/

namespace LoadSweep

set_option autoImplicit false

namespace Bench

variable {σ : Type} {bench : Bench σ}

/-- An endpoint answers where all do. -/
theorem AllAnswer.at {world : σ} {before after : List Endpoint} {endpoint : Endpoint}
    (answer : bench.AllAnswer world (before ++ endpoint :: after)) :
    (bench.ping endpoint (bench.afterPings world before)).1 = .ok () := by
  induction before generalizing world with
  | nil => exact answer.1
  | cons first others ih => exact ih answer.2

/-- Where all answer, nobody is silent. -/
theorem AllAnswer.not_silent {world : σ} {endpoints answered : List Endpoint} {silent : Endpoint}
    {fault : Fault} (answer : bench.AllAnswer world endpoints) :
    ¬ bench.SilentAfter world endpoints answered silent fault := by
  rintro ⟨⟨rest, rfl⟩, -, silence⟩
  rw [List.append_assoc] at answer
  cases silence.symm.trans answer.at

end Bench

namespace Campaign

variable {σ : Type}

/-- The deeds of a sweep are its pings and then what was done behind the header. -/
theorem deeds_of_sweep (asked : List Endpoint) (path line : String) (events : List Event) :
    Event.deeds (asked.map .pinged ++ [.logged path line] ++ events) =
      asked.map .pinged ++ Event.deeds events := by
  have header : Event.deeds [.logged path line] = [] := rfl
  rw [Event.deeds_append, Event.deeds_append, Event.deeds_pings, header, List.append_nil]

/-- No gate holds a sweep back whose endpoints answer and whose log takes lines. -/
theorem Start.of_writable {campaign : Campaign σ} {sweep : Sweep} {endpoints : List Endpoint}
    {stage : Stage σ} {result : EStateM.Result Fault (Stage σ) Series}
    (starts : Start campaign sweep endpoints stage result) (points : sweep.points ≠ [])
    (valid : Endpoint.validate endpoints = .ok ())
    (answer : campaign.bench.AllAnswer stage.world endpoints)
    (idle : stage.notebook.current = none) (writable : stage.notebook.Writable) :
    ∃ series final, result = .ok series final := by
  cases starts with
  | pointless _ nothing => exact absurd nothing points
  | incomparable _ _ invalid => cases invalid.symm.trans valid
  | silent _ _ _ _ _ stops => exact absurd stops answer.not_silent
  | unheaded _ _ _ _ _ _ blocked =>
    obtain ⟨timestamp, blocked⟩ := blocked
    have taken : (campaign.pinged stage endpoints).notebook.Writable := writable.journal _
    obtain ⟨next, begun⟩ := Notebook.begin_of_writable taken idle timestamp sweep endpoints
    cases blocked.symm.trans begun
  | broken _ _ _ _ _ _ _ _ _ _ _ headed _ broken =>
    exact absurd (headed.reliable (Notebook.writable_iff.mp writable).1) broken.unreliable
  | measured => exact ⟨_, _, rfl⟩

end Campaign

/-- **A sweep measures its grid.** Behind the gates a sweep yields a series.  Up to the first point
at whose start the campaign is to stop, or to the end, the client is run once for every point and
endpoint in order, with one seed before each run if the settings ask for it; every sample is scraped
from the output of the run with its number; and the series is complete if no point was left out. -/
theorem sweep_measures_grid {σ : Type} (campaign : Campaign σ) (sweep : Sweep)
    (endpoints : List Endpoint) (stage : Stage σ) (points : sweep.points ≠ [])
    (valid : Endpoint.validate endpoints = .ok ())
    (answer : campaign.bench.AllAnswer stage.world endpoints)
    (idle : stage.notebook.current = none) (writable : stage.notebook.Writable) :
    let world := campaign.bench.afterPings stage.world endpoints
    ∃ count series final events,
      campaign.StopsAfter sweep.operation endpoints world sweep.points count ∧
      (campaign.runSweep sweep endpoints).run stage = .ok series final ∧
      final.notebook.journal = events.reverse ++ stage.notebook.journal ∧
      let visits := Visit.grid (sweep.points.take count) endpoints
      let runs := Event.executions events.reverse
      Event.deeds events =
        endpoints.map .pinged ++ visits.flatMap (campaign.visitEvents sweep.operation) ∧
      runs.length = count * endpoints.length ∧
      series.sweep = sweep ∧ series.endpoints = endpoints.map Endpoint.name ∧
      series.rows.length = count ∧ (∀ row ∈ series.rows, row.length = endpoints.length) ∧
      (∀ row column point endpoint, row < count → sweep.points[row]? = some point →
        endpoints[column]? = some endpoint →
        let number := row * endpoints.length + column
        runs[number]? = some (.forRun campaign.client endpoint sweep.operation point,
          campaign.limit) ∧
        series.sample? row column = some (.ofOutput (campaign.attend sweep.operation
          ⟨point, endpoint⟩
          (campaign.after sweep.operation world (visits.take number))).1.output)) ∧
      (series.isComplete = true ↔ count = sweep.points.length) := by
  intro world
  have starts := campaign.start sweep endpoints stage
  obtain ⟨series, final, ran⟩ := starts.of_writable points valid answer idle writable
  rw [ran] at starts
  cases starts with
  | measured begun _ count events _ _ _ start headed measured =>
    have all := headed.trans measured.extended
    have stops := measured.stops
    rw [start] at stops ran
    have within : (sweep.points.take count).length = count :=
      List.length_take_of_le stops.within
    have deeds := Campaign.deeds_of_sweep endpoints stage.notebook.logPath
      (sectionHeader (campaign.bench.timestamp begun.world) sweep.title endpoints) events
    rw [measured.deeds] at deeds
    have runs := Campaign.executions_of_deeds deeds
    refine ⟨count, _, final, _, stops, ran, all.journal, deeds, ?_, rfl, rfl, ?_, ?_, ?_, ?_⟩
    · rw [runs, List.length_map, Visit.length_grid, within]
    · exact (campaign.length_rows ..).trans within
    · exact campaign.width_rows sweep.operation endpoints world _
    · intro row column point endpoint before atRow atColumn number
      have kept : (sweep.points.take count)[row]? = some point := by
        rw [List.getElem?_take_of_lt before, atRow]
      constructor
      · rw [runs, List.getElem?_map, Visit.getElem?_grid kept atColumn]
        rfl
      · exact campaign.sample_of_rows sweep.operation kept atColumn _
    · rw [Series.isComplete, beq_iff_eq, Series.length, campaign.length_rows, within]
      rfl

/-- A new notebook can write to a file in the home directory. -/
theorem writable_in_home : (Notebook.fresh "log.txt" .empty).Writable := by
  have opens : (Notebook.openLog.run (.fresh "log.txt" .empty)) matches .ok .. := by
    decide +kernel
  split at opens
  · rename_i opened ran
    exact Notebook.writable_of_openable ⟨rfl, nofun⟩ (.inr ⟨opened, ran⟩)
  · cases opens

/-- A rehearsal that is told to stop during its second run measures one of two points. -/
theorem rehearsal_told_to_stop :
    let campaign : Campaign Rehearsal := .ofClient {} (Script.bench { stopAtCall := some 2 })
    let stage : Stage Rehearsal := ⟨.fresh "log.txt" .empty, {}⟩
    rehearsedSweep.points ≠ [] ∧ Endpoint.validate rehearsedPair = .ok () ∧
      campaign.bench.AllAnswer stage.world rehearsedPair ∧ stage.notebook.current = none ∧
      stage.notebook.Writable ∧
      ∃ series final,
        (campaign.runSweep rehearsedSweep rehearsedPair).run stage = .ok series final ∧
          series.rows.length = 1 ∧ series.isComplete = false := by
  intro campaign stage
  have points : rehearsedSweep.points ≠ [] := nofun
  have valid : Endpoint.validate rehearsedPair = .ok () := rfl
  have answer : campaign.bench.AllAnswer stage.world rehearsedPair := ⟨rfl, rfl, trivial⟩
  have writable : stage.notebook.Writable := writable_in_home
  obtain ⟨count, series, final, events, stops, ran, -, -, -, -, -, rows, -, -, complete⟩ :=
    sweep_measures_grid campaign rehearsedSweep rehearsedPair stage points valid answer rfl writable
  have one : count = 1 := by
    have within : count ≤ 2 := stops.within
    have some : count ≠ 0 := by
      rintro rfl
      exact absurd (stops.stops (Nat.zero_lt_two)) Bool.false_ne_true
    have few : count ≠ 2 := by
      rintro rfl
      exact absurd (stops.goesOn 1 Nat.one_lt_two).symm Bool.false_ne_true
    omega
  refine ⟨points, valid, answer, rfl, writable, series, final, ran, rows.trans one, ?_⟩
  rw [Bool.eq_false_iff, Ne, complete, one]
  decide

end LoadSweep
