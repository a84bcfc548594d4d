import LoadSweep.Proofs.Campaign.Grid
import LoadSweep.Proofs.Recording.Sections

/-!
# Deliveries

A delivery is a sweep that was measured, with the stage in which it was begun, the stage that it
left, and the events in between.  A sound delivery has pinged every endpoint and made its visits,
and has written one section of the log.  It has not handed over a series; that is done after it.

Whatever the state of its notebook, an attempt at a sweep leads to a sound delivery or to a failure
(`Campaign.attempt`).  A sweep may fail before it is begun, when nothing but pings was done, or when
the log has lost one of its lines; then the log has the header and the lines of the points before,
and a part of the line at most (`Campaign.Failure`).
-/

namespace LoadSweep

set_option autoImplicit false

/-- The series that a journal hands over that goes on are those before and those after. -/
theorem Event.handovers_after (events journal : List Event) :
    handovers (events.reverse ++ journal) = handovers journal ++ handovers events.reverse := by
  simp [handovers]

/-- A sweep that was measured, in the stages before and after. -/
structure Delivery (σ : Type) where
  sweep : Sweep
  begun : Stage σ
  series : Series
  ended : Stage σ
  /-- What measuring the sweep did to the outside, in order. -/
  events : List Event

namespace Delivery

variable {σ : Type}

/-- The stage in which the series is received. -/
def handed (delivery : Delivery σ) : Stage σ :=
  Campaign.mark delivery.ended [.handedOver delivery.series] delivery.ended.world

/-- What was done for a sweep: it was measured, and then handed over. -/
def trace (delivery : Delivery σ) : List Event :=
  delivery.events ++ [.handedOver delivery.series]

/-- The section of the log that a sweep has got; that of an incomplete one has a marker. -/
def written (campaign : Campaign σ) (endpoints : List Endpoint) (delivery : Delivery σ) : Section :=
  let timestamp :=
    campaign.bench.timestamp (campaign.bench.afterPings delivery.begun.world endpoints)
  ⟨⟨timestamp, delivery.sweep, endpoints⟩, delivery.series, !delivery.series.isComplete⟩

/-- The sweep was measured from the one stage to the other.  Its events are its pings and its
visits, with the lines of its section in between, and nothing else. -/
structure Sound (campaign : Campaign σ) (endpoints : List Endpoint) (delivery : Delivery σ) :
    Prop where
  measured : (campaign.runSweep delivery.sweep endpoints).run delivery.begun =
    .ok delivery.series delivery.ended
  extended : delivery.begun.notebook.Extends delivery.events delivery.ended.notebook
  deeds : Event.deeds delivery.events = endpoints.map .pinged ++
    (Visit.grid (delivery.sweep.points.take delivery.series.length) endpoints).flatMap
      (campaign.visitEvents delivery.sweep.operation)
  lines : Event.lines delivery.events = (delivery.written campaign endpoints).lines
  fits : (delivery.written campaign endpoints).Fits

variable {campaign : Campaign σ} {endpoints : List Endpoint} {delivery : Delivery σ}

/-- The log has gained the section. -/
theorem Sound.text (sound : delivery.Sound campaign endpoints) :
    delivery.ended.notebook.logText =
      delivery.begun.notebook.logText ++ (delivery.written campaign endpoints).text := by
  rw [sound.extended.text, Event.written_eq_lines, sound.lines]
  rfl

end Delivery

namespace Campaign

variable {σ : Type}

/-- No series is handed over while a sweep is measured. -/
theorem no_handover {campaign : Campaign σ} {operation : Operation} {asked : List Endpoint}
    {visits : List Visit} {events : List Event}
    (deeds : Event.deeds events =
      asked.map .pinged ++ visits.flatMap (campaign.visitEvents operation)) :
    Event.handovers events.reverse = [] := by
  rw [Event.handovers, List.reverse_reverse, ← Event.filterMap_deeds _ fun _ _ => rfl, deeds,
    List.filterMap_append, List.append_eq_nil_iff]
  constructor
  · simp
  · rw [List.filterMap_flatMap, List.flatMap_eq_nil_iff]
    intro visit _
    rw [visitEvents]
    cases campaign.client.warmup <;> rfl

/-! ## Attempts -/

/-- The lines of a sweep whose first points have rows are those of its section. -/
theorem lines_of_rows (timestamp : String) (sweep : Sweep) (endpoints : List Endpoint)
    {rows : List (List Sample)} (room : rows.length ≤ sweep.points.length) :
    let series : Series := ⟨sweep, endpoints.map Endpoint.name, rows⟩
    Section.lines ⟨⟨timestamp, sweep, endpoints⟩, series, !series.isComplete⟩ =
      sectionHeader timestamp sweep.title endpoints ::
        addedLines (.start sweep (endpoints.map Endpoint.name)) sweep.points rows := by
  intro series
  have complete : series.isComplete = true ↔ ¬ rows.length < sweep.points.length := by
    rw [Series.isComplete, beq_iff_eq, Nat.not_lt]
    exact ⟨fun all => Nat.le_of_eq all.symm, fun all => Nat.le_antisymm room all⟩
  by_cases short : rows.length < sweep.points.length
  · have partly : series.isComplete = false := by simpa [short] using complete
    simp [Section.lines, Section.pointLines, Section.marker, addedLines, rowLines, partly, short,
      Series.start, Series.length, Sweep.length, series]
  · have whole : series.isComplete = true := complete.mpr short
    simp [Section.lines, Section.pointLines, Section.marker, addedLines, rowLines, whole, short,
      Series.start, series]

/-- How a sweep fails, with what was done for it and the part that is left of a lost line. -/
inductive Failure (campaign : Campaign σ) (sweep : Sweep) (endpoints : List Endpoint)
    (stage : Stage σ) : List Event → String → Fault → Stage σ → Prop where
  /-- It was not begun: pings were made, and perhaps the log has lost the header. -/
  | unbegun (asked : List Endpoint) (torn : String) (fault : Fault) (after : Stage σ)
      (pings : Asked campaign.bench sweep endpoints stage.world asked)
      (tears : stage.notebook.Tears (asked.map .pinged) torn after.notebook)
      (cuts : stage.notebook.files.room.Cuts
        (sectionHeader
          (campaign.bench.timestamp (campaign.bench.afterPings stage.world endpoints))
          sweep.title endpoints ++ "\n") torn) :
      Failure campaign sweep endpoints stage (asked.map .pinged) torn fault after
  /-- It was begun where the room is limited, and the log has lost the line of a point or the
  marker. -/
  | broken (begun : Stage σ) (count visited : Nat) (events : List Event) (torn : String)
      (fault : Fault) (after : Stage σ)
      (answer : campaign.bench.AllAnswer stage.world endpoints)
      (world : begun.world = campaign.bench.afterPings stage.world endpoints)
      (headed : stage.notebook.Extends
        (endpoints.map .pinged ++ [.logged stage.notebook.logPath
          (sectionHeader (campaign.bench.timestamp begun.world) sweep.title endpoints)])
        begun.notebook)
      (limited : ∃ free, stage.notebook.files.room = some free ∧ 0 < free)
      (broken : Broken campaign sweep.operation endpoints begun
        (.start sweep (endpoints.map Endpoint.name)) sweep.points count visited events torn fault
        after) :
      Failure campaign sweep endpoints stage
        (endpoints.map .pinged ++ [.logged stage.notebook.logPath
          (sectionHeader (campaign.bench.timestamp begun.world) sweep.title endpoints)] ++ events)
        torn fault after

namespace Failure

variable {campaign : Campaign σ} {sweep : Sweep} {endpoints : List Endpoint} {stage after : Stage σ}
  {rest : List Event} {torn : String} {fault : Fault}

/-- What was done for a sweep that fails is in the journal, and the lines among it, with the part of
the line that was lost, are in the log. -/
theorem tears (failure : Failure campaign sweep endpoints stage rest torn fault after) :
    stage.notebook.Tears rest torn after.notebook := by
  cases failure with
  | unbegun _ _ _ _ _ tears => exact tears
  | broken _ _ _ _ _ _ _ _ _ headed _ broken => exact headed.tears broken.tears

/-- What was done for a sweep that fails are pings and its first visits. -/
theorem deeds (failure : Failure campaign sweep endpoints stage rest torn fault after) :
    ∃ (asked : List Endpoint) (visited : Nat), Event.deeds rest = asked.map .pinged ++
      (Visit.grid (sweep.points.take visited) endpoints).flatMap
        (campaign.visitEvents sweep.operation) := by
  cases failure with
  | unbegun asked =>
    refine ⟨asked, 0, ?_⟩
    rw [Event.deeds_pings, List.take_zero]
    exact (List.append_nil _).symm
  | broken _ _ visited _ _ _ _ _ _ _ _ broken =>
    exact ⟨endpoints, visited, by rw [deeds_of_sweep, broken.deeds]⟩

/-- In a reliable notebook a sweep that fails has written nothing. -/
theorem written_of_reliable
    (failure : Failure campaign sweep endpoints stage rest torn fault after)
    (reliable : stage.notebook.Reliable) : Event.written rest ++ torn = "" := by
  cases failure with
  | unbegun asked _ _ _ _ _ cuts =>
    rw [Event.written_pings, cuts.eq_nothing reliable.room, String.append_empty]
  | broken _ _ _ _ _ _ _ _ _ _ limited =>
    obtain ⟨free, limited, -⟩ := limited
    cases reliable.room.symm.trans limited

end Failure

/-- What an attempt at a sweep leads to, whatever the notebook: a failure, or a series. -/
inductive Attempt (campaign : Campaign σ) (sweep : Sweep) (endpoints : List Endpoint)
    (stage : Stage σ) : EStateM.Result Fault (Stage σ) Series → Prop where
  | failed (rest : List Event) (torn : String) (fault : Fault) (after : Stage σ)
      (failure : Failure campaign sweep endpoints stage rest torn fault after) :
      Attempt campaign sweep endpoints stage (.error fault after)
  | ended (series : Series) (final : Stage σ) (events : List Event)
      (sound : Delivery.Sound campaign endpoints ⟨sweep, stage, series, final, events⟩) :
      Attempt campaign sweep endpoints stage (.ok series final)

/-- A sweep that does not pass its gates, or that breaks off behind them, is a failure. -/
theorem Start.failure {campaign : Campaign σ} {sweep : Sweep} {endpoints : List Endpoint}
    {stage after : Stage σ} {fault : Fault}
    (starts : Start campaign sweep endpoints stage (.error fault after)) :
    ∃ rest torn, Failure campaign sweep endpoints stage rest torn fault after := by
  have nothing := stage.notebook.files.room.cuts_nothing
    (Notebook.newline_ne_nothing (sectionHeader
      (campaign.bench.timestamp (campaign.bench.afterPings stage.world endpoints)) sweep.title
      endpoints))
  cases starts with
  | pointless _ pointless =>
    exact ⟨_, "", .unbegun [] "" _ _ (.of_pointless pointless)
      ⟨rfl, rfl, by simp [Event.written]⟩ nothing⟩
  | incomparable _ _ invalid =>
    exact ⟨_, "", .unbegun [] "" _ _ (.of_incomparable invalid)
      ⟨rfl, rfl, by simp [Event.written]⟩ nothing⟩
  | silent answered silent _ points valid stops =>
    have asked := Asked.of_pings points valid (.inr ⟨answered, silent, fault, stops, rfl⟩)
    have pings := campaign.extends_pinged stage (answered ++ [silent])
    exact ⟨_, "", .unbegun _ "" _ _ asked
      ⟨pings.path, pings.journal, by rw [pings.text, String.append_empty]⟩ nothing⟩
  | unheaded _ files isOpen points valid answer _ unbegun =>
    have asked := Asked.of_pings points valid (.inl ⟨answer, rfl⟩)
    obtain ⟨torn, cuts, tears⟩ := unbegun.torn
    have all := (campaign.extends_pinged stage endpoints).tears tears
    rw [List.append_nil] at all
    exact ⟨_, torn, .unbegun endpoints torn _ _ asked all cuts⟩
  | broken begun _ count visited events torn _ _ _ answer world headed limited broken =>
    exact ⟨_, torn,
      .broken begun count visited events torn fault after answer world headed limited broken⟩

/-- A measured sweep can be handed over. -/
theorem Start.sound {campaign : Campaign σ} {sweep : Sweep} {endpoints : List Endpoint}
    {stage final : Stage σ} {series : Series}
    (starts : Start campaign sweep endpoints stage (.ok series final))
    (ran : (campaign.runSweep sweep endpoints).run stage = .ok series final) :
    ∃ events, Delivery.Sound campaign endpoints ⟨sweep, stage, series, final, events⟩ := by
  cases starts with
  | measured begun _ count events _ _ _ world headed measured lines =>
    have within : (sweep.points.take count).length = count :=
      List.length_take_of_le measured.stops.within
    have rows : (campaign.rows sweep.operation endpoints begun.world
        (sweep.points.take count)).length = count := (campaign.length_rows ..).trans within
    have room : (campaign.rows sweep.operation endpoints begun.world
        (sweep.points.take count)).length ≤ sweep.points.length := by
      rw [rows]
      exact measured.stops.within
    have width : ∀ row ∈ campaign.rows sweep.operation endpoints begun.world
        (sweep.points.take count), row.length = (endpoints.map Endpoint.name).length := by
      intro row member
      rw [campaign.width_rows sweep.operation endpoints begun.world _ row member, List.length_map]
    refine ⟨_, ran, headed.trans measured.extended, ?_, ?_, ?_⟩
    · rw [deeds_of_sweep, measured.deeds, Series.length, rows]
    · rw [Event.lines_append, lines, Event.lines_append, Event.lines_pings, Delivery.written,
        lines_of_rows _ _ _ room, world]
      rfl
    · exact ⟨rfl, rfl, room, width⟩

/-- An attempt at a sweep fails, or measures the sweep. -/
theorem attempt (campaign : Campaign σ) (sweep : Sweep) (endpoints : List Endpoint)
    (stage : Stage σ) :
    Attempt campaign sweep endpoints stage ((campaign.runSweep sweep endpoints).run stage) := by
  have starts := campaign.start sweep endpoints stage
  cases ran : (campaign.runSweep sweep endpoints).run stage with
  | error fault after =>
    rw [ran] at starts
    obtain ⟨rest, torn, failure⟩ := starts.failure
    exact .failed rest torn fault after failure
  | ok series final =>
    rw [ran] at starts
    obtain ⟨events, sound⟩ := starts.sound ran
    exact .ended series final events sound

end Campaign

end LoadSweep
