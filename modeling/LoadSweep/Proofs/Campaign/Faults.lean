import LoadSweep.Proofs.Campaign.Interruption
import LoadSweep.Proofs.Recording.Failures
import LoadSweep.Proofs.Settings.Validity

/-!
# Where the faults of a campaign come from

What is checked of settings when they are read is checked again in parts later: every sweep must
have points, the endpoints must be comparable, and the notebook must be idle and refuses what comes
out of order.  Behind valid settings none of these later checks can fail.  A sweep leaves its
notebook closed (`Campaign.closed_of_runSweep`), so each sweep of a campaign finds it idle again,
and what is left to go wrong is outside: a ping that is not answered, a log that loses a line, and a
series that is not received (`Campaign.Source`, `Campaign.Course.source`).

The main statement is `valid_settings_fail_outside_only`.
-/

namespace LoadSweep

set_option autoImplicit false

/-! ## Sources of faults -/

namespace Campaign

variable {σ : Type}

/-- Where a fault comes from, if not from a check of the campaign itself: an endpoint that does not
answer, the log, or the reception of a series. -/
inductive Source (campaign : Campaign σ) (endpoints : List Endpoint)
    (receive : Series → CampaignM σ Unit) (logPath : String) : Fault → Prop where
  | ping (world : σ) (answered : List Endpoint) (silent : Endpoint) (fault : Fault)
      (stops : campaign.bench.SilentAfter world endpoints answered silent fault) :
      Source campaign endpoints receive logPath fault
  | log (fault : Fault) (lost : LogFault logPath fault) :
      Source campaign endpoints receive logPath fault
  | reception (series : Series) (stage final : Stage σ) (fault : Fault)
      (refused : (receive series).run stage = .error fault final) :
      Source campaign endpoints receive logPath fault

/-- Where pings report nothing but unreachable endpoints, so does the campaign. -/
theorem Source.cases {campaign : Campaign σ} {endpoints : List Endpoint}
    {receive : Series → CampaignM σ Unit} {logPath : String} {fault : Fault}
    (source : campaign.Source endpoints receive logPath fault)
    (probing : ∀ endpoint world cause, (campaign.bench.ping endpoint world).1 = .error cause →
      cause.isUnreachable = true) :
    fault.isUnreachable = true ∨ LogFault logPath fault ∨
      ∃ series stage final, (receive series).run stage = .error fault final := by
  cases source with
  | ping world answered silent _ stops => exact .inl (probing silent _ fault stops.silence)
  | log _ lost => exact .inr (.inl lost)
  | reception series stage final _ refused => exact .inr (.inr ⟨series, stage, final, refused⟩)

/-- A sweep that was measured leaves its notebook closed. -/
theorem closed_of_runSweep {campaign : Campaign σ} {sweep : Sweep} {endpoints : List Endpoint}
    {stage final : Stage σ} {series : Series}
    (ran : (campaign.runSweep sweep endpoints).run stage = .ok series final) :
    final.notebook.Closed := by
  have starts := campaign.start sweep endpoints stage
  rw [ran] at starts
  cases starts with
  | measured _ _ _ _ _ _ _ _ _ measured => exact measured.closed

/-- A sweep with points, at comparable endpoints and in an idle notebook, fails only through a ping
or the log: the header may be lost, or a line behind it. -/
theorem source_of_runSweep {campaign : Campaign σ} {sweep : Sweep} {endpoints : List Endpoint}
    {stage final : Stage σ} {fault : Fault} (receive : Series → CampaignM σ Unit)
    (points : sweep.points ≠ []) (valid : Endpoint.validate endpoints = .ok ())
    (idle : stage.notebook.current = none)
    (ran : (campaign.runSweep sweep endpoints).run stage = .error fault final) :
    campaign.Source endpoints receive stage.notebook.logPath fault := by
  have starts := campaign.start sweep endpoints stage
  rw [ran] at starts
  cases starts with
  | pointless _ nothing => exact absurd nothing points
  | incomparable _ _ invalid => cases invalid.symm.trans valid
  | silent answered silent _ _ _ stops => exact .ping _ answered silent fault stops
  | unheaded _ _ _ _ _ _ blocked =>
    obtain ⟨timestamp, blocked⟩ := blocked
    have idle : (campaign.pinged stage endpoints).notebook.current = none := idle
    have lost := Notebook.logFault_of_begin idle blocked
    exact .log fault lost
  | broken _ _ _ _ _ _ _ _ _ _ _ headed _ broken =>
    have lost := broken.fault
    rw [headed.path] at lost
    exact .log fault lost

/-- What a reception finds after a sweep, and leaves to the next one: an idle notebook with the log
where it was. -/
theorem Aside.idle_received {campaign : Campaign σ} {endpoints : List Endpoint}
    {receive : Series → CampaignM σ Unit} (aside : Aside receive) {delivery : Delivery σ}
    {after : Stage σ} (sound : delivery.Sound campaign endpoints)
    (reception : (receive delivery.series).run delivery.handed = .ok () after) :
    after.notebook.current = none ∧ after.notebook.logPath = delivery.begun.notebook.logPath := by
  obtain ⟨files, same⟩ := aside delivery.series delivery.handed
  rw [reception] at same
  have closed := closed_of_runSweep sound.measured
  have path := sound.extended.path
  rw [show after.notebook = { delivery.handed.notebook with files } from same]
  exact ⟨closed.current, path⟩

/-- A campaign over sweeps with points, at comparable endpoints and from an idle notebook, has no
fault of its own. -/
theorem Course.source {campaign : Campaign σ} {endpoints : List Endpoint}
    {receive : Series → CampaignM σ Unit} {sweeps : List Sweep} {stage final : Stage σ}
    {deliveries : List (Delivery σ)} {rest : List Event} {torn : String} {fault : Option Fault}
    (course : Course campaign endpoints receive sweeps stage deliveries rest torn fault final)
    (aside : Aside receive) (points : ∀ sweep ∈ sweeps, sweep.points ≠ [])
    (valid : Endpoint.validate endpoints = .ok ()) (idle : stage.notebook.current = none) :
    ∀ cause, fault = some cause →
      campaign.Source endpoints receive stage.notebook.logPath cause := by
  induction course with
  | finished | stopped | interrupted => exact nofun
  | failed sweep sweeps stage _ _ fault after ran =>
    rintro _ ⟨⟩
    exact source_of_runSweep receive (points sweep List.mem_cons_self) valid idle ran
  | refused delivery sweeps fault after _ reception =>
    rintro _ ⟨⟩
    exact .reception delivery.series delivery.handed after fault reception
  | onward delivery sweeps deliveries _ _ fault after final sound _ reception later ih =>
    obtain ⟨still, path⟩ := aside.idle_received sound reception
    have others := ih (fun sweep member => points sweep (List.mem_cons_of_mem _ member)) still
    rwa [path] at others

end Campaign

/-- **Valid settings fail outside only.** A selection of known names from valid settings resolves to
some sweeps, and a campaign over them at the endpoints of the settings, from an idle notebook, has
no fault but that of an endpoint that does not answer a ping, of the log, or of a series that is not
received.  If pings report only that an endpoint is unreachable, so does the first of these. -/
theorem valid_settings_fail_outside_only {σ : Type} (settings : Settings)
    (valid : settings.validate = .ok ()) (selected : List String)
    (known : ∀ name ∈ selected, ∃ declaration ∈ settings.sweeps, declaration.name = name) :
    ∃ sweeps, settings.resolveSweeps selected = .ok sweeps ∧ sweeps ≠ [] ∧
      ∀ (campaign : Campaign σ) (receive : Series → CampaignM σ Unit) (stage : Stage σ),
        Campaign.Aside receive → stage.notebook.current = none →
        ∀ fault final,
          (campaign.runAll settings.endpoints receive sweeps).run stage = .error fault final →
          campaign.Source settings.endpoints receive stage.notebook.logPath fault ∧
          ((∀ endpoint world cause, (campaign.bench.ping endpoint world).1 = .error cause →
              cause.isUnreachable = true) →
            fault.isUnreachable = true ∨ LogFault stage.notebook.logPath fault ∨
              ∃ series stage final, (receive series).run stage = .error fault final) := by
  have all := Settings.validate_ok_iff.mp valid
  obtain ⟨sweeps, resolved, some, points⟩ := all.selected known
  refine ⟨sweeps, resolved, some, ?_⟩
  intro campaign receive stage aside idle fault final failed
  obtain ⟨deliveries, rest, torn, cause, after, course, ran⟩ :=
    campaign.course settings.endpoints receive sweeps stage
  rw [ran] at failed
  cases cause with
  | none => cases failed
  | some cause =>
    cases failed
    have source := course.source aside points all.endpoints idle fault rfl
    exact ⟨source, source.cases⟩

/-- Settings with two sweeps over the clients and two endpoints. -/
def pairedSettings : Settings where
  endpoints := rehearsedPair
  sweeps := [.overClients "client_get" .get, .overClients "client_set" .set]

/-- When nobody answers any more at the second of two selected sweeps, the fault is that of a
ping. -/
theorem fading_rehearsal_blames_endpoint :
    let selected := ["client_set", "client_get"]
    let campaign : Campaign Rehearsal := .ofClient pairedSettings.client fadingScript.bench
    let stage : Stage Rehearsal := ⟨.fresh "log.txt" .empty, {}⟩
    pairedSettings.validate = .ok () ∧
      (∀ name ∈ selected, ∃ declaration ∈ pairedSettings.sweeps, declaration.name = name) ∧
      ∃ sweeps fault final,
        pairedSettings.resolveSweeps selected = .ok sweeps ∧ sweeps.length = 2 ∧
          (campaign.runAll pairedSettings.endpoints fadingScript.receive sweeps).run stage =
            .error fault final ∧
          campaign.Source pairedSettings.endpoints fadingScript.receive "log.txt" fault ∧
          fault.isUnreachable = true := by
  intro selected campaign stage
  have valid : pairedSettings.validate = .ok () := by decide +kernel
  have known : ∀ name ∈ selected, ∃ declaration ∈ pairedSettings.sweeps,
      declaration.name = name := by decide +kernel
  obtain ⟨sweeps, resolved, -, outside⟩ :=
    valid_settings_fail_outside_only (σ := Rehearsal) pairedSettings valid selected known
  have aside : Campaign.Aside fadingScript.receive := fun series stage =>
    ⟨stage.notebook.files, fadingScript.notebook_receive series stage⟩
  have two : ((pairedSettings.resolveSweeps selected).toOption.getD []).length = 2 := by
    decide +kernel
  have unreachable : (match (campaign.runAll pairedSettings.endpoints fadingScript.receive
      ((pairedSettings.resolveSweeps selected).toOption.getD [])).run stage with
      | .ok .. => false
      | .error fault _ => fault.isUnreachable) = true := by
    decide +kernel
  simp only [resolved, Except.toOption, Option.getD_some] at two unreachable
  cases ran : (campaign.runAll pairedSettings.endpoints fadingScript.receive sweeps).run stage with
  | ok all final =>
    rw [ran] at unreachable
    cases unreachable
  | error fault final =>
    rw [ran] at unreachable
    have source := (outside campaign fadingScript.receive stage aside rfl fault final ran).1
    exact ⟨valid, known, sweeps, fault, final, resolved, two, ran, source, unreachable⟩

end LoadSweep
