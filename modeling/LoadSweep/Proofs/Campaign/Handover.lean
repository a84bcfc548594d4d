import LoadSweep.Campaign.Rehearsal
import LoadSweep.Campaign.Reporting
import LoadSweep.Proofs.Campaign.Deliveries

/-!
# Sweeps handed over in turn

A campaign of several sweeps hands over every series as soon as its sweep has ended.  It goes on
until a request to stop is seen before a sweep, a sweep is left incomplete, a sweep fails, or a
series is not received (`Course`).  Between one sweep and the next there is the reception and
nothing else: each sweep begins in the stage which the reception of the one before has left
(`Chained`).

A reception may do what it likes to the outside, but it does not hold the notebook: all that it can
change of it are the files, which the notebook shares (`Aside`).  So in the journal what was done
for one sweep stands before what was done for the next, and ends with the handing over of its series
(`sweeps_are_handed_over_in_turn`).
-/

namespace LoadSweep

set_option autoImplicit false

namespace Campaign

variable {σ : Type}

/-! ## Receptions -/

/-- The stage that an action leaves, also one that fails. -/
def left {α : Type} : EStateM.Result Fault (Stage σ) α → Stage σ
  | .ok _ stage => stage
  | .error _ stage => stage

/-- What an action yields, unless it fails. -/
def yielded? {α : Type} : EStateM.Result Fault (Stage σ) α → Option α
  | .ok value _ => some value
  | .error .. => none

theorem eq_ok_of_yielded? {α : Type} {result : EStateM.Result Fault (Stage σ) α} {value : α}
    (yielded : yielded? result = some value) : result = .ok value (left result) := by
  cases result with
  | ok => cases yielded; rfl
  | error => cases yielded

/-- The action leaves the notebook alone, apart from the files, whether it fails or not. -/
def Aloof {α : Type} (action : CampaignM σ α) : Prop :=
  ∀ stage, ∃ files, (left (action.run stage)).notebook = { stage.notebook with files }

namespace Aloof

variable {α β : Type} {action : CampaignM σ α}

theorem journal (aloof : Aloof action) (stage : Stage σ) :
    (left (action.run stage)).notebook.journal = stage.notebook.journal := by
  obtain ⟨files, same⟩ := aloof stage
  rw [same]

theorem bind (aloof : Aloof action) {next : α → CampaignM σ β}
    (later : ∀ value, Aloof (next value)) : Aloof (action >>= next) := by
  intro stage
  obtain ⟨files, same⟩ := aloof stage
  rw [EStateM.run_bind]
  cases ran : action.run stage with
  | error fault after =>
    rw [ran] at same
    exact ⟨files, same⟩
  | ok value after =>
    rw [ran] at same
    obtain ⟨others, rest⟩ := later value after
    refine ⟨others, rest.trans ?_⟩
    rw [show after.notebook = { stage.notebook with files } from same]

theorem print (text : String) : Aloof (Campaign.print text : CampaignM (Printing σ) Unit) :=
  fun stage => ⟨stage.notebook.files, rfl⟩

theorem printSeries (series : Series) :
    Aloof (Campaign.printSeries series : CampaignM (Printing σ) Unit) :=
  (print _).bind fun _ => (print _).bind fun _ => print _

theorem writeReports (campaign : Campaign (Printing σ)) (output : OutputSettings)
    (series : Series) : Aloof (campaign.writeReports output series) := by
  intro stage
  simp only [Campaign.writeReports, EStateM.run_bind, run_timestamp, EStateM.run_get]
  cases series.writeReports? output (campaign.bench.timestamp stage.world)
      stage.notebook.files with
  | none => exact ⟨stage.notebook.files, rfl⟩
  | some written =>
    dsimp only
    rw [EStateM.run_bind]
    cases written.result <;> exact ⟨written.tree, rfl⟩

end Aloof

/-- A reception that does not hold the notebook.  All that it can change there are the files. -/
def Aside (receive : Series → CampaignM σ Unit) : Prop :=
  ∀ series, Aloof (receive series)

/-- The reports of a campaign are a reception of this kind. -/
theorem aside_reports (campaign : Campaign (Printing σ)) (output : OutputSettings) :
    Aside (fun series => do
      printSeries series
      campaign.writeReports output series) :=
  fun series => (Aloof.printSeries series).bind fun _ => .writeReports campaign output series

end Campaign

namespace Delivery

variable {σ : Type} {campaign : Campaign σ} {endpoints : List Endpoint}
  {receive : Series → CampaignM σ Unit} {delivery : Delivery σ}

/-- The reception of the series does not touch the log. -/
def KeepsLog (receive : Series → CampaignM σ Unit) (delivery : Delivery σ) : Prop :=
  (Campaign.left ((receive delivery.series).run delivery.handed)).notebook.logText =
    delivery.handed.notebook.logText

/-- A sweep that is measured and received leaves its trace. -/
theorem Sound.journal_received (sound : delivery.Sound campaign endpoints)
    (aside : Campaign.Aside receive) :
    (Campaign.left ((receive delivery.series).run delivery.handed)).notebook.journal =
      delivery.trace.reverse ++ delivery.begun.notebook.journal := by
  rw [(aside delivery.series).journal]
  simp [handed, Campaign.mark, trace, sound.extended.journal]

/-- Its series is all that is handed over. -/
theorem Sound.handovers_received (sound : delivery.Sound campaign endpoints)
    (aside : Campaign.Aside receive) :
    Event.handovers (Campaign.left ((receive delivery.series).run delivery.handed)).notebook.journal
      = Event.handovers delivery.begun.notebook.journal ++ [delivery.series] := by
  have none := Campaign.no_handover sound.deeds
  rw [sound.journal_received aside, Event.handovers_after, trace, List.reverse_append,
    Event.handovers_after, none]
  rfl

/-- A sweep that is measured and received leaves its section. -/
theorem Sound.text_received (sound : delivery.Sound campaign endpoints)
    (kept : delivery.KeepsLog receive) :
    (Campaign.left ((receive delivery.series).run delivery.handed)).notebook.logText =
      delivery.begun.notebook.logText ++ (delivery.written campaign endpoints).text := by
  rw [show _ = _ from kept]
  exact sound.text

end Delivery

/-! ## Courses -/

namespace Campaign

variable {σ : Type}

/-- How a campaign goes: the sweeps that are handed over, what is done after the last of them, the
part that is left of a lost line, the fault if there is one, and the stage at the end. -/
inductive Course (campaign : Campaign σ) (endpoints : List Endpoint)
    (receive : Series → CampaignM σ Unit) :
    List Sweep → Stage σ → List (Delivery σ) → List Event → String → Option Fault → Stage σ →
      Prop where
  | finished (stage : Stage σ) : Course campaign endpoints receive [] stage [] [] "" none stage
  | stopped (sweep : Sweep) (sweeps : List Sweep) (stage : Stage σ)
      (stop : campaign.bench.stopRequested stage.world = true) :
      Course campaign endpoints receive (sweep :: sweeps) stage [] [] "" none stage
  | failed (sweep : Sweep) (sweeps : List Sweep) (stage : Stage σ) (rest : List Event)
      (torn : String) (fault : Fault) (after : Stage σ)
      (ran : (campaign.runSweep sweep endpoints).run stage = .error fault after)
      (failure : Failure campaign sweep endpoints stage rest torn fault after) :
      Course campaign endpoints receive (sweep :: sweeps) stage [] rest torn (some fault) after
  | refused (delivery : Delivery σ) (sweeps : List Sweep) (fault : Fault) (after : Stage σ)
      (sound : delivery.Sound campaign endpoints)
      (reception : (receive delivery.series).run delivery.handed = .error fault after) :
      Course campaign endpoints receive (delivery.sweep :: sweeps) delivery.begun [delivery] [] ""
        (some fault) after
  | interrupted (delivery : Delivery σ) (sweeps : List Sweep) (after : Stage σ)
      (sound : delivery.Sound campaign endpoints)
      (partly : delivery.series.isComplete = false)
      (reception : (receive delivery.series).run delivery.handed = .ok () after) :
      Course campaign endpoints receive (delivery.sweep :: sweeps) delivery.begun [delivery] [] ""
        none after
  | onward (delivery : Delivery σ) (sweeps : List Sweep) (deliveries : List (Delivery σ))
      (rest : List Event) (torn : String) (fault : Option Fault) (after final : Stage σ)
      (sound : delivery.Sound campaign endpoints)
      (whole : delivery.series.isComplete = true)
      (reception : (receive delivery.series).run delivery.handed = .ok () after)
      (later : Course campaign endpoints receive sweeps after deliveries rest torn fault final) :
      Course campaign endpoints receive (delivery.sweep :: sweeps) delivery.begun
        (delivery :: deliveries) rest torn fault final

/-- What a campaign yields: the series that were handed over, unless there was a fault. -/
def conclusion (handed : List Series) (final : Stage σ) :
    Option Fault → EStateM.Result Fault (Stage σ) (List Series)
  | none => .ok handed final
  | some fault => .error fault final

theorem left_conclusion (handed : List Series) (final : Stage σ) (fault : Option Fault) :
    left (conclusion handed final fault) = final := by
  cases fault <;> rfl

theorem run_runAll_stopped (campaign : Campaign σ) (endpoints : List Endpoint)
    (receive : Series → CampaignM σ Unit) {stage : Stage σ}
    (stop : campaign.bench.stopRequested stage.world = true) (sweeps : List Sweep) :
    (campaign.runAll endpoints receive sweeps).run stage = .ok [] stage := by
  cases sweeps with
  | nil => rfl
  | cons sweep sweeps =>
    simp only [runAll, EStateM.run_bind, run_stopRequested, stop, if_true]
    rfl

theorem run_runAll_cons (campaign : Campaign σ) (endpoints : List Endpoint)
    (receive : Series → CampaignM σ Unit) {stage : Stage σ}
    (on : campaign.bench.stopRequested stage.world = false) (sweep : Sweep)
    (sweeps : List Sweep) :
    (campaign.runAll endpoints receive (sweep :: sweeps)).run stage =
      match (campaign.runSweep sweep endpoints).run stage with
      | .error fault after => .error fault after
      | .ok series ended =>
        match (receive series).run (mark ended [.handedOver series] ended.world) with
        | .error fault after => .error fault after
        | .ok _ after =>
          if series.isComplete then
            match (campaign.runAll endpoints receive sweeps).run after with
            | .error fault final => .error fault final
            | .ok all final => .ok (series :: all) final
          else .ok [series] after := by
  simp only [runAll, EStateM.run_bind, run_stopRequested, on, Bool.false_eq_true, if_false]
  cases (campaign.runSweep sweep endpoints).run stage with
  | error fault after => rfl
  | ok series ended =>
    have noted : (inNotebook (Notebook.note (.handedOver series))).run ended =
        .ok () (mark ended [.handedOver series] ended.world) := rfl
    simp only [noted]
    cases (receive series).run (mark ended [.handedOver series] ended.world) with
    | error fault after => rfl
    | ok _ after =>
      dsimp only
      split
      · rw [EStateM.run_bind]
        cases (campaign.runAll endpoints receive sweeps).run after <;> rfl
      · rfl

/-- Every campaign takes a course. -/
theorem course (campaign : Campaign σ) (endpoints : List Endpoint)
    (receive : Series → CampaignM σ Unit) (sweeps : List Sweep) (stage : Stage σ) :
    ∃ deliveries rest torn fault final,
      Course campaign endpoints receive sweeps stage deliveries rest torn fault final ∧
        (campaign.runAll endpoints receive sweeps).run stage =
          conclusion (deliveries.map Delivery.series) final fault := by
  induction sweeps generalizing stage with
  | nil => exact ⟨[], [], "", none, stage, .finished stage, rfl⟩
  | cons sweep sweeps ih =>
    cases stop : campaign.bench.stopRequested stage.world with
    | true =>
      exact ⟨[], [], "", none, stage, .stopped sweep sweeps stage stop,
        campaign.run_runAll_stopped endpoints receive stop _⟩
    | false =>
      rw [campaign.run_runAll_cons endpoints receive stop]
      have attempted := campaign.attempt sweep endpoints stage
      cases ran : (campaign.runSweep sweep endpoints).run stage with
      | error fault after =>
        rw [ran] at attempted
        cases attempted with
        | failed rest torn _ _ failure =>
          exact ⟨[], rest, torn, some fault, after,
            .failed sweep sweeps stage rest torn fault after ran failure, rfl⟩
      | ok series ended =>
        rw [ran] at attempted
        cases attempted with
        | ended _ _ events sound =>
          let delivery : Delivery σ := ⟨sweep, stage, series, ended, events⟩
          dsimp only
          cases reception : (receive series).run
              (mark ended [.handedOver series] ended.world) with
          | error fault after =>
            exact ⟨[delivery], [], "", some fault, after,
              .refused delivery sweeps fault after sound reception, rfl⟩
          | ok _ after =>
            dsimp only
            cases whole : series.isComplete with
            | false =>
              exact ⟨[delivery], [], "", none, after,
                .interrupted delivery sweeps after sound whole reception, rfl⟩
            | true =>
              obtain ⟨deliveries, rest, torn, fault, final, later, concluded⟩ := ih after
              refine ⟨delivery :: deliveries, rest, torn, fault, final,
                .onward delivery sweeps deliveries rest torn fault after final sound whole
                  reception later, ?_⟩
              rw [if_pos rfl, concluded]
              cases fault <;> rfl

/-- Deliveries one after the other: each begins in the stage that the reception of the one before
has left. -/
inductive Chained (receive : Series → CampaignM σ Unit) :
    Stage σ → List (Delivery σ) → Stage σ → Prop where
  | none (stage : Stage σ) : Chained receive stage [] stage
  | next (delivery : Delivery σ) (deliveries : List (Delivery σ)) (after final : Stage σ)
      (received : (receive delivery.series).run delivery.handed = .ok () after)
      (later : Chained receive after deliveries final) :
      Chained receive delivery.begun (delivery :: deliveries) final

/-- A single delivery leads from the stage in which it began to the one after its reception. -/
theorem Chained.single {receive : Series → CampaignM σ Unit} {stage final : Stage σ}
    {delivery : Delivery σ} (chained : Chained receive stage [delivery] final) :
    delivery.begun = stage ∧ (receive delivery.series).run delivery.handed = .ok () final := by
  cases chained with
  | next _ _ _ _ received later =>
    cases later
    exact ⟨rfl, received⟩

/-- The three ways to end: without a fault, with a series that is not received, and with a sweep
that fails. -/
inductive Ending (campaign : Campaign σ) (endpoints : List Endpoint)
    (receive : Series → CampaignM σ Unit) (sweeps : List Sweep) (stage : Stage σ)
    (deliveries : List (Delivery σ)) : List Event → String → Option Fault → Stage σ → Prop where
  | well (final : Stage σ) (chained : Chained receive stage deliveries final) :
      Ending campaign endpoints receive sweeps stage deliveries [] "" none final
  | refused (earlier : List (Delivery σ)) (last : Delivery σ) (fault : Fault) (final : Stage σ)
      (all : deliveries = earlier ++ [last]) (chained : Chained receive stage earlier last.begun)
      (reception : (receive last.series).run last.handed = .error fault final) :
      Ending campaign endpoints receive sweeps stage deliveries [] "" (some fault) final
  | failed (sweep : Sweep) (begun : Stage σ) (rest : List Event) (torn : String) (fault : Fault)
      (final : Stage σ) (next : deliveries.map Delivery.sweep ++ [sweep] <+: sweeps)
      (chained : Chained receive stage deliveries begun)
      (ran : (campaign.runSweep sweep endpoints).run begun = .error fault final)
      (failure : Failure campaign sweep endpoints begun rest torn fault final) :
      Ending campaign endpoints receive sweeps stage deliveries rest torn (some fault) final

namespace Course

variable {campaign : Campaign σ} {endpoints : List Endpoint} {receive : Series → CampaignM σ Unit}
  {sweeps : List Sweep} {stage final : Stage σ} {deliveries : List (Delivery σ)}
  {rest : List Event} {torn : String} {fault : Option Fault}

theorem ending
    (course : Course campaign endpoints receive sweeps stage deliveries rest torn fault final) :
    Ending campaign endpoints receive sweeps stage deliveries rest torn fault final := by
  induction course with
  | finished stage => exact .well stage (.none stage)
  | stopped sweep sweeps stage => exact .well stage (.none stage)
  | failed sweep sweeps stage rest torn fault after ran failure =>
    exact .failed sweep stage rest torn fault after ⟨sweeps, rfl⟩ (.none stage) ran failure
  | refused delivery sweeps fault after sound reception =>
    exact .refused [] delivery fault after rfl (.none _) reception
  | interrupted delivery sweeps after sound partly reception =>
    exact .well after (.next delivery [] after after reception (.none after))
  | onward delivery sweeps deliveries rest torn fault after final sound whole reception later ih =>
    cases ih with
    | well _ chained => exact .well final (.next delivery _ after final reception chained)
    | refused earlier last fault _ all chained refusal =>
      refine .refused (delivery :: earlier) last fault final ?_
        (.next delivery earlier after _ reception chained) refusal
      rw [all, List.cons_append]
    | failed sweep begun rest torn fault _ next chained ran failure =>
      exact .failed sweep begun rest torn fault final (List.cons_prefix_cons.mpr ⟨rfl, next⟩)
        (.next delivery _ after begun reception chained) ran failure

/-- The sweeps that are handed over are the first ones. -/
theorem prefix_sweeps
    (course : Course campaign endpoints receive sweeps stage deliveries rest torn fault final) :
    deliveries.map Delivery.sweep <+: sweeps := by
  induction course with
  | finished | stopped | failed => exact List.nil_prefix
  | refused | interrupted => exact List.cons_prefix_cons.mpr ⟨rfl, List.nil_prefix⟩
  | onward _ _ _ _ _ _ _ _ _ _ _ _ ih => exact List.cons_prefix_cons.mpr ⟨rfl, ih⟩

theorem sound
    (course : Course campaign endpoints receive sweeps stage deliveries rest torn fault final) :
    ∀ delivery ∈ deliveries, delivery.Sound campaign endpoints := by
  induction course with
  | finished | stopped | failed => exact fun _ absent => absurd absent List.not_mem_nil
  | refused _ _ _ _ sound | interrupted _ _ _ sound => exact List.forall_mem_singleton.mpr sound
  | onward _ _ _ _ _ _ _ _ sound _ _ _ ih => exact List.forall_mem_cons.mpr ⟨sound, ih⟩

/-- Nothing follows an incomplete sweep. -/
theorem complete_but_last
    (course : Course campaign endpoints receive sweeps stage deliveries rest torn fault final) :
    ∀ delivery ∈ deliveries.dropLast, delivery.series.isComplete = true := by
  induction course with
  | finished | stopped | failed | refused | interrupted =>
    exact fun _ absent => absurd absent List.not_mem_nil
  | onward delivery _ deliveries _ _ _ _ _ _ whole _ _ ih =>
    cases deliveries with
    | nil => exact fun _ absent => absurd absent List.not_mem_nil
    | cons => exact List.forall_mem_cons.mpr ⟨whole, ih⟩

/-- What is done for one sweep stands in the journal before what is done for the next. -/
theorem journal (aside : Aside receive)
    (course : Course campaign endpoints receive sweeps stage deliveries rest torn fault final) :
    final.notebook.journal =
      (deliveries.flatMap Delivery.trace ++ rest).reverse ++ stage.notebook.journal := by
  induction course with
  | finished | stopped => rfl
  | failed _ _ _ _ _ _ _ _ failure => exact failure.tears.journal
  | refused _ _ _ _ sound reception | interrupted _ _ _ sound _ reception =>
    have received := sound.journal_received aside
    rw [reception] at received
    simpa [left] using received
  | onward _ _ _ _ _ _ _ _ sound _ reception _ ih =>
    have received := sound.journal_received aside
    rw [reception, left] at received
    simp [ih, received]

/-- The log gains one section for each sweep that is handed over, and then what a sweep that fails
has written. -/
theorem text
    (course : Course campaign endpoints receive sweeps stage deliveries rest torn fault final)
    (kept : ∀ delivery ∈ deliveries, delivery.KeepsLog receive) :
    final.notebook.logText = stage.notebook.logText ++
      String.join (deliveries.map fun delivery => (delivery.written campaign endpoints).text) ++
      (Event.written rest ++ torn) := by
  induction course with
  | finished | stopped => simp [Event.written]
  | failed _ _ _ _ _ _ _ _ failure => simpa using failure.tears.text
  | refused _ _ _ _ sound reception | interrupted _ _ _ sound _ reception =>
    have received := sound.text_received (List.forall_mem_singleton.mp kept)
    rw [reception] at received
    simpa [left, Event.written] using received
  | onward _ _ _ _ _ _ _ _ sound _ reception _ ih =>
    obtain ⟨first, others⟩ := List.forall_mem_cons.mp kept
    have received := sound.text_received first
    rw [reception, left] at received
    simp [ih others, received, String.append_assoc]

/-- Exactly the deliveries are handed over. -/
theorem handovers (aside : Aside receive)
    (course : Course campaign endpoints receive sweeps stage deliveries rest torn fault final) :
    Event.handovers final.notebook.journal =
      Event.handovers stage.notebook.journal ++ deliveries.map Delivery.series := by
  induction course with
  | finished | stopped => simp
  | failed _ _ _ rest _ _ _ _ failure =>
    obtain ⟨asked, visited, deeds⟩ := failure.deeds
    rw [failure.tears.journal, Event.handovers_after, no_handover deeds]
    simp
  | refused _ _ _ _ sound reception | interrupted _ _ _ sound _ reception =>
    have received := sound.handovers_received aside
    rw [reception] at received
    simpa [left] using received
  | onward _ _ _ _ _ _ _ _ sound _ reception _ ih =>
    have received := sound.handovers_received aside
    rw [reception, left] at received
    simp [ih, received]

end Course

end Campaign

/-- **Sweeps are handed over in turn.** The series that are handed over are those of the first
sweeps in order, each measured as a whole before it is handed over and before anything is done for
the next, and all complete but perhaps the last.  A campaign without a fault yields just these
series.  After a fault nothing more is done, and the log holds the sections of all sweeps that were
handed over, if their receptions have left it alone; behind them are at most the lines that a sweep
has written before it failed, and a part of the one that was lost.  If the campaign is to stop from
the start, nothing is done at all. -/
theorem sweeps_are_handed_over_in_turn {σ : Type} (campaign : Campaign σ)
    (endpoints : List Endpoint) (receive : Series → CampaignM σ Unit)
    (aside : Campaign.Aside receive) (sweeps : List Sweep) (stage : Stage σ) :
    (campaign.bench.stopRequested stage.world = true →
      (campaign.runAll endpoints receive sweeps).run stage = .ok [] stage) ∧
    ∃ deliveries rest torn fault final,
      (campaign.runAll endpoints receive sweeps).run stage =
        Campaign.conclusion (deliveries.map Delivery.series) final fault ∧
      Campaign.Ending campaign endpoints receive sweeps stage deliveries rest torn fault final ∧
      deliveries.map Delivery.sweep <+: sweeps ∧
      (∀ delivery ∈ deliveries, delivery.Sound campaign endpoints) ∧
      (∀ delivery ∈ deliveries.dropLast, delivery.series.isComplete = true) ∧
      final.notebook.journal =
        (deliveries.flatMap Delivery.trace ++ rest).reverse ++ stage.notebook.journal ∧
      Event.handovers final.notebook.journal =
        Event.handovers stage.notebook.journal ++ deliveries.map Delivery.series ∧
      ((∀ delivery ∈ deliveries, delivery.KeepsLog receive) →
        final.notebook.logText = stage.notebook.logText ++
          String.join
            (deliveries.map fun delivery => (delivery.written campaign endpoints).text) ++
          (Event.written rest ++ torn)) := by
  refine ⟨fun stop => campaign.run_runAll_stopped endpoints receive stop sweeps, ?_⟩
  obtain ⟨deliveries, rest, torn, fault, final, course, ran⟩ :=
    campaign.course endpoints receive sweeps stage
  exact ⟨deliveries, rest, torn, fault, final, ran, course.ending, course.prefix_sweeps,
    course.sound, course.complete_but_last, course.journal aside, course.handovers aside, course.text⟩

/-- A rehearsed reception changes the bench only. -/
theorem Script.notebook_receive (script : Script) (series : Series) (stage : Stage Rehearsal) :
    (Campaign.left ((script.receive series).run stage)).notebook = stage.notebook := by
  have ends : (script.receive series).run stage =
      if script.receptionFailsAt == some (stage.world.receptions + 1) then
        .error (.storage "reports" "denied")
          { stage with world.receptions := stage.world.receptions + 1 }
      else .ok () { stage with world.receptions := stage.world.receptions + 1 } := rfl
  rw [ends]
  split <;> rfl

/-- A rehearsal in which nobody answers any more when the second of two sweeps begins. -/
def fadingScript : Script where
  healthyPings := some 2

/-- In a fading rehearsal the first sweep has been handed over, and is in the log, when the second
one fails. -/
theorem fading_rehearsal_hands_over :
    let campaign : Campaign Rehearsal := .ofClient {} fadingScript.bench
    let stage : Stage Rehearsal := ⟨.fresh "log.txt" .empty, {}⟩
    Campaign.Aside fadingScript.receive ∧
      ∃ (delivery : Delivery Rehearsal) (fault : Fault) (final : Stage Rehearsal),
        (campaign.runAll rehearsedPair fadingScript.receive
            [rehearsedSweep, rehearsedSweep]).run stage = .error fault final ∧
          delivery.Sound campaign rehearsedPair ∧ delivery.sweep = rehearsedSweep ∧
          Event.handovers final.notebook.journal = [delivery.series] ∧
          final.notebook.logText = (delivery.written campaign rehearsedPair).text := by
  intro campaign stage
  have aside : Campaign.Aside fadingScript.receive := fun series stage =>
    ⟨stage.notebook.files, fadingScript.notebook_receive series stage⟩
  obtain ⟨-, deliveries, rest, torn, fault, final, ran, ending, order, sound, -, -, handovers,
      text⟩ := sweeps_are_handed_over_in_turn campaign rehearsedPair fadingScript.receive aside
      [rehearsedSweep, rehearsedSweep] stage
  have fails : (Campaign.yielded? ((campaign.runAll rehearsedPair fadingScript.receive
      [rehearsedSweep, rehearsedSweep]).run stage)).isNone = true := by
    decide +kernel
  have one : (Event.handovers (Campaign.left ((campaign.runAll rehearsedPair fadingScript.receive
      [rehearsedSweep, rehearsedSweep]).run stage)).notebook.journal).length = 1 := by
    decide +kernel
  have before : Event.handovers stage.notebook.journal = [] := rfl
  rw [ran, Campaign.left_conclusion, handovers, before, List.nil_append, List.length_map] at one
  rw [ran] at fails
  cases fault with
  | none => cases fails
  | some fault =>
    obtain ⟨delivery, rfl⟩ := List.length_eq_one_iff.mp one
    have measured := sound delivery (List.mem_singleton_self _)
    have kept := text fun delivery _ =>
      congrArg Notebook.logText (fadingScript.notebook_receive delivery.series delivery.handed)
    have blank : stage.notebook.logText = "" := by decide
    have nothing : Event.written rest ++ torn = "" := by
      cases ending with
      | refused => simp [Event.written]
      | failed _ begun _ _ _ _ _ chained _ failure =>
        obtain ⟨start, received⟩ := chained.single
        have same := fadingScript.notebook_receive delivery.series delivery.handed
        rw [received] at same
        have ready : stage.notebook.Reliable := (Notebook.writable_iff.mp writable_in_home).1
        have ended := measured.extended.reliable (start ▸ ready)
        refine failure.written_of_reliable ?_
        rw [show begun.notebook = delivery.handed.notebook from same]
        exact ⟨ended.room, ended.ready⟩
    refine ⟨aside, delivery, fault, final, ran, measured, (List.cons_prefix_cons.mp order).1,
      handovers, kept.trans ?_⟩
    rw [blank, nothing]
    simp

/-- Where the room ends in the line of the second point, a part of this line is the last that the
log gets. -/
example :
    let campaign : Campaign Rehearsal := .ofClient {} (Script.bench {})
    let stage : Stage Rehearsal := ⟨.fresh "log.txt" { FileTree.empty with room := some 160 }, {}⟩
    (Campaign.left ((campaign.runAll rehearsedPair (Script.receive {})
        [rehearsedSweep]).run stage)).notebook.logText =
      "\n===  | GET sweep | redis=127.0.0.1:6378 valkey=127.0.0.1:6379 ===\n" ++
      "Client Sessions: 1 | redis: throughput=n/a p50=n/a | valkey: throughput=n/a p50=n/a\n" ++
      "Client Se" := by
  decide +kernel

end LoadSweep
