import LoadSweep.Number.Decade
import LoadSweep.Report
import LoadSweep.Report.Cell
import LoadSweep.Report.Markup
import LoadSweep.Settings
import LoadSweep.Text.Blank

/-!
# Charts

A chart is a scalable drawing with a group of bars for each point and one bar in it for each
endpoint.  The scale starts at zero and ends at a rounded maximum.  A missing value is a bar without
height or no bar at all.
-/

namespace LoadSweep.Chart

open LoadSweep.Text LoadSweep.Number LoadSweep.Markup

set_option autoImplicit false

/-- The margin left of the plot. -/
def left : Float := 80.0

/-- The width of the plot: 900 less the margins 80 and 20. -/
def plotWidth : Float := 800.0

/-- The height of the plot: 480 less the margins 50 and 90. -/
def plotHeight : Float := 340.0

/-- The vertical position of the value zero. -/
def baseline : Float := 390.0

/-- The vertical position of the legend. -/
def legendLine : Float := 458.0

/-- The intervals between ticks. -/
def tickIntervals : Nat := 5

/-- The part of a group's band that its bars fill. -/
def groupFill : Float := 0.8

/-- The colours of the bars, used in turn. -/
def palette : List String :=
  ["#636efa", "#ef553b", "#00cc96", "#ab63fa", "#ffa15a", "#19d3f3"]

/-- The colour of the bars of an endpoint. -/
def colour (position : Nat) : String :=
  (palette[position % palette.length]?).getD ""

/-- A coordinate, with one decimal. -/
def coordinate (x : Float) : String :=
  fixed 1 x

/-- The text of a tick: without decimals from ten on, else with up to two. -/
def tickText (value : Float) : String :=
  if value == 0.0 || value.abs ≥ 10.0 then fixed 0 value
  else
    let digits := dropWhileEnd (· == '0') (fixed 2 value).toList
    String.ofList (dropWhileEnd (· == '.') digits)

/-- The grid line and the label of a tick. -/
def tick (top : Float) (position : Nat) : String :=
  let part := Float.ofNat position
  let count := Float.ofNat tickIntervals
  let value := top * part / count
  let y := baseline - plotHeight * part / count
  s!"<line x1=\"{coordinate left}\" y1=\"{coordinate y}\" x2=\"{coordinate (left + plotWidth)}\" "
    ++ s!"y2=\"{coordinate y}\" stroke=\"#e5e5e5\"/>\n"
    ++ s!"<text x=\"{coordinate (left - 6.0)}\" y=\"{coordinate (y + 4.0)}\" text-anchor=\"end\">"
    ++ s!"{tickText value}</text>\n"

/-- A number brought between zero and one. -/
def clampToUnit (x : Float) : Float :=
  if x < 0.0 then 0.0 else if 1.0 < x then 1.0 else x

/-- The height of the bar for a value, if there is a bar. -/
def barHeight? (top : Float) (missing : MissingPolicy) (value : Option Float) : Option Float :=
  match value, missing with
  | some shown, _ => some (plotHeight * clampToUnit (shown / top))
  | none, .flat => some 0.0
  | none, .gap => none

/-- The measures that the bars of a chart share. -/
structure Layout where
  /-- The value at the top of the scale. -/
  top : Float
  /-- The width of a group with the space around it. -/
  band : Float
  barWidth : Float

/-- The measures of a chart. -/
def Layout.ofReport (report : Report) : Layout :=
  let band := plotWidth / Float.ofNat (max report.categories.length 1)
  { top := niceCeiling (report.maximum?.getD 0.0)
    band := band
    barWidth := band * groupFill / Float.ofNat (max report.columns.length 1) }

/-- One bar, or nothing for a gap. -/
def bar (layout : Layout) (missing : MissingPolicy) (metric : Metric) (group : Nat)
    (category : String) (position : Nat) (column : ReportColumn) : String :=
  let value := column.value? group
  match barHeight? layout.top missing value with
  | none => ""
  | some height =>
    let start := left + layout.band * Float.ofNat group + layout.band * (1.0 - groupFill) / 2.0
    let x := start + layout.barWidth * Float.ofNat position
    s!"<rect class=\"bar\" x=\"{coordinate x}\" y=\"{coordinate (baseline - height)}\" "
      ++ s!"width=\"{coordinate layout.barWidth}\" height=\"{coordinate height}\" "
      ++ s!"fill=\"{colour position}\"><title>{escape column.endpoint} @ {escape category}: "
      ++ s!"{cell metric value}</title></rect>\n"

/-- The bars of a group, from a position on. -/
def barsFrom (layout : Layout) (missing : MissingPolicy) (metric : Metric) (group : Nat)
    (category : String) (position : Nat) : List ReportColumn → String
  | [] => ""
  | column :: columns =>
    bar layout missing metric group category position column
      ++ barsFrom layout missing metric group category (position + 1) columns

/-- The label under a group. -/
def groupLabel (layout : Layout) (group : Nat) (category : String) : String :=
  let x := left + layout.band * (Float.ofNat group + 0.5)
  s!"<text x=\"{coordinate x}\" y=\"{coordinate (baseline + 18.0)}\" text-anchor=\"middle\">"
    ++ s!"{escape category}</text>\n"

/-- The groups, from a position on. -/
def groupsFrom (layout : Layout) (missing : MissingPolicy) (report : Report) (group : Nat) :
    List String → String
  | [] => ""
  | category :: categories =>
    barsFrom layout missing report.metric group category 0 report.columns
      ++ groupLabel layout group category
      ++ groupsFrom layout missing report (group + 1) categories

/-- The legend, from a position on. -/
def legendFrom (position : Nat) : List ReportColumn → String
  | [] => ""
  | column :: columns =>
    let x := left + 120.0 * Float.ofNat position
    s!"<rect x=\"{coordinate x}\" y=\"{coordinate (legendLine - 10.0)}\" width=\"12\" "
      ++ s!"height=\"12\" fill=\"{colour position}\"/>\n"
      ++ s!"<text x=\"{coordinate (x + 18.0)}\" y=\"{coordinate legendLine}\">"
      ++ s!"{escape column.endpoint}</text>\n"
      ++ legendFrom (position + 1) columns

/-- The frame and the title. -/
def opening (report : Report) : String :=
  "<svg xmlns=\"http://www.w3.org/2000/svg\" width=\"900\" height=\"480\" viewBox=\"0 0 900 480\" "
    ++ "font-family=\"sans-serif\" font-size=\"12\">\n"
    ++ "<rect width=\"100%\" height=\"100%\" fill=\"#ffffff\"/>\n"
    ++ "<text x=\"450\" y=\"28\" text-anchor=\"middle\" font-size=\"16\">"
    ++ s!"{escape report.title}</text>\n"

/-- The horizontal axis and the labels of both axes. -/
def axes (report : Report) : String :=
  s!"<line x1=\"{coordinate left}\" y1=\"{coordinate baseline}\" "
    ++ s!"x2=\"{coordinate (left + plotWidth)}\" y2=\"{coordinate baseline}\" stroke=\"#444\"/>\n"
    ++ s!"<text x=\"{coordinate (left + plotWidth / 2.0)}\" y=\"{coordinate (baseline + 40.0)}\" "
    ++ s!"text-anchor=\"middle\">{escape report.axisLabel}</text>\n"
    ++ s!"<text transform=\"translate(18 {coordinate (baseline - plotHeight / 2.0)}) rotate(-90)\" "
    ++ s!"text-anchor=\"middle\">{escape report.valueLabel}</text>\n"

end LoadSweep.Chart

namespace LoadSweep

/-- The chart of a report. -/
def Report.chart (report : Report) (missing : MissingPolicy) : String :=
  let layout := Chart.Layout.ofReport report
  Chart.opening report
    ++ String.join ((List.range (Chart.tickIntervals + 1)).map (Chart.tick layout.top))
    ++ Chart.groupsFrom layout missing report 0 report.categories
    ++ Chart.axes report
    ++ Chart.legendFrom 0 report.columns
    ++ "</svg>\n"

end LoadSweep
