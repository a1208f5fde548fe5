import BannerMatch.Failure
import BannerMatch.Probe.Line
import BannerMatch.Text.Utf8

/-!
# Importing probe files

The rules of a probe file in the order of its lines, with a report on the lines that were not, or
not fully, understood. A faulty line is skipped and affects no other line.

`importText` reads a text. `importSource` reads bytes line by line, and fails if its source does.
-/

namespace BannerMatch.Probe

/-- A remark on a line. -/
structure Remark where
  /-- The number of the line, from `1`. -/
  lineNumber : Nat
  /-- The line without white space at its ends. -/
  line : List Char
  fault : Fault
deriving DecidableEq, Repr

/-- The remark in one line. -/
def Remark.display (r : Remark) : String :=
  "line " ++ toString r.lineNumber ++ ": " ++ r.fault.message

/-- What came of reading a probe file. -/
structure Report where
  rules : List Rule := []
  /-- The lines that were skipped. -/
  skipped : List Remark := []
  /-- The lines whose rule was kept though its version information is faulty. -/
  warnings : List Remark := []
  /-- The names of the probes. -/
  probes : List (List Char) := []
  /-- The number of lines that start with a word that means nothing here. -/
  ignoredLines : Nat := 0
  linesRead : Nat := 0
deriving DecidableEq, Repr

/-- Whether no line was skipped. -/
def Report.isClean (r : Report) : Bool := r.skipped.isEmpty

/-- All remarks, those on skipped lines first. -/
def Report.remarks (r : Report) : List Remark := r.skipped ++ r.warnings

/-- Where in a file a line stands. -/
structure Place where
  /-- The number of lines before it. -/
  lines : Nat := 0
  /-- The number of rules before it. -/
  rules : Nat := 0
  /-- The name on the last probe line before it. -/
  probe : Option (List Char) := none
deriving DecidableEq, Repr

/-- The place after a line with a given outcome. -/
def Place.after (p : Place) : Outcome → Place
  | .probe name => { p with lines := p.lines + 1, probe := some name }
  | .entry _ => { p with lines := p.lines + 1, rules := p.rules + 1 }
  | _ => { p with lines := p.lines + 1 }

/-- Puts what a line says in front of a report on the lines after it. -/
def Report.note (r : Report) (options : Options) (p : Place) (line : List Char) :
    Outcome → Report
  | .blank => { r with linesRead := r.linesRead + 1 }
  | .ignored => { r with linesRead := r.linesRead + 1, ignoredLines := r.ignoredLines + 1 }
  | .probe name => { r with linesRead := r.linesRead + 1, probes := name :: r.probes }
  | .faulty f =>
      { r with linesRead := r.linesRead + 1, skipped := ⟨p.lines + 1, line, f⟩ :: r.skipped }
  | .entry e =>
      { r with
        linesRead := r.linesRead + 1
        rules := e.rule options (p.rules + 1) p.probe :: r.rules
        warnings := match e.info.fault? with
          | some f => ⟨p.lines + 1, line, f⟩ :: r.warnings
          | none => r.warnings }

/-- Reads lines from a place on. -/
def importFrom (options : Options) (p : Place) : List (List Char) → Report
  | [] => {}
  | raw :: rest =>
      let line := Text.trim raw
      let outcome := Outcome.ofLine line
      (importFrom options (p.after outcome) rest).note options p line outcome

/-- Reads a probe file. -/
def importText (options : Options) (text : List Char) : Report :=
  importFrom options {} (Text.lines text)

/-- Where bytes come from: after them comes the end, or a failure for some reason. -/
structure Source where
  bytes : List UInt8
  failure? : Option String := none
deriving DecidableEq, Repr

/-- What is read from a source: a line with its line feed, or that the source has failed. -/
abbrev Reading := Except Failure (List UInt8)

/-- What is read line by line; `line` holds, last byte first, what has come of the first line. If
the source fails within a line, nothing of that line is read. -/
def readingsFrom (failure? : Option String) (line : List UInt8) : List UInt8 → List Reading
  | [] => match failure? with
      | some reason => [.error (.unreadable reason)]
      | none => if line.isEmpty then [] else [.ok line.reverse]
  | b :: rest =>
      if b == 0x0A then .ok (b :: line).reverse :: readingsFrom failure? [] rest
      else readingsFrom failure? (b :: line) rest

/-- What is read from a source, line by line. -/
def Source.readings (source : Source) : List Reading := readingsFrom source.failure? [] source.bytes

/-- Reads lines from a place on, until there are no more or the source fails; broken characters are
replaced line by line. -/
def importReadings (options : Options) (p : Place) : List Reading → Except Failure Report
  | [] => .ok {}
  | .error f :: _ => .error f
  | .ok bytes :: rest =>
      let line := Text.trim (Text.decode bytes)
      let outcome := Outcome.ofLine line
      (importReadings options (p.after outcome) rest).map fun r => r.note options p line outcome

/-- Reads a probe file from a source. -/
def importSource (options : Options) (source : Source) : Except Failure Report :=
  importReadings options {} source.readings

end BannerMatch.Probe
