import BannerMatch.Probe.Import
import BannerMatch.Proofs.Text.Lines

/-!
# Reading probe files from sources

A source that can be read gives the lines of its bytes, each one decoded by itself
(`importReadings_ok`). An import looks at its lines without white space at their ends
(`importFrom_congr`), so it does not matter whether the marks of the lines have been taken off, and
by `Text.markedLines_decode` it does not matter that a text is decoded as a whole.

A source that fails ends in a failure wherever it does so (`exists_readingsFrom_some`), and that is
all that comes of it (`importReadings_error`).
-/

namespace BannerMatch.Probe

variable (options : Options)

/-! ### What is read -/

theorem readingsFrom_none (line bytes : List UInt8) :
    readingsFrom none line bytes = (Text.markedLinesFrom (· == 0x0A) line bytes).map .ok := by
  induction bytes generalizing line with
  | nil =>
    simp only [readingsFrom, Text.markedLinesFrom]
    split <;> rfl
  | cons b rest ih =>
    simp only [readingsFrom, Text.markedLinesFrom]
    split
    · rw [ih, List.map_cons]
    · exact ih _

/-- A source that fails gives some lines before that. -/
theorem exists_readingsFrom_some (reason : String) (line bytes : List UInt8) :
    ∃ ls : List (List UInt8),
      readingsFrom (some reason) line bytes = ls.map .ok ++ [.error (.unreadable reason)] := by
  induction bytes generalizing line with
  | nil => exact ⟨[], rfl⟩
  | cons b rest ih =>
    simp only [readingsFrom]
    split
    · obtain ⟨ls, hls⟩ := ih []
      exact ⟨(b :: line).reverse :: ls, by rw [hls, List.map_cons, List.cons_append]⟩
    · exact ih _

/-! ### What comes of it -/

/-- Lines that are all read are imported. -/
theorem importReadings_ok (p : Place) (ls : List (List UInt8)) :
    importReadings options p (ls.map .ok) = .ok (importFrom options p (ls.map Text.decode)) := by
  induction ls generalizing p with
  | nil => rfl
  | cons line ls ih =>
    simp only [List.map_cons, importReadings, importFrom, ih]
    rfl

/-- **After a failure there is no report**, whatever has been read before it. -/
theorem importReadings_error (p : Place) (ls : List (List UInt8)) (f : Failure)
    (rest : List Reading) :
    importReadings options p (ls.map .ok ++ .error f :: rest) = .error f := by
  induction ls generalizing p with
  | nil => rfl
  | cons line ls ih =>
    simp only [List.map_cons, List.cons_append, importReadings, ih]
    rfl

/-- An import does not look at white space at the ends of its lines. -/
theorem importFrom_congr (p : Place) {ls ls' : List (List Char)}
    (h : ls.map Text.trim = ls'.map Text.trim) :
    importFrom options p ls = importFrom options p ls' := by
  induction ls generalizing p ls' with
  | nil => rw [List.map_eq_nil_iff.mp h.symm]
  | cons line ls ih =>
    obtain ⟨line', ls', rfl, hline, hls⟩ := List.map_eq_cons_iff.mp h.symm
    simp only [importFrom, hline, ih _ hls.symm]

/-! ### Sources -/

/-- The marks of the lines do not count, since they are white space. -/
theorem importFrom_byteLines (bytes : List UInt8) :
    importFrom options {} ((Text.byteLines bytes).map Text.decode) =
      importFrom options {} ((Text.markedLinesFrom (· == 0x0A) [] bytes).map Text.decode) := by
  refine importFrom_congr options {} ?_
  rw [Text.byteLines, List.map_map, List.map_map, List.map_map]
  exact List.map_congr_left fun line _ => Text.trim_decode_unmarked line

/-- What comes of the text of a source. -/
theorem importText_decode (bytes : List UInt8) :
    importText options (Text.decode bytes) =
      importFrom options {} ((Text.byteLines bytes).map Text.decode) := by
  rw [importText, Text.lines, Text.markedLines_decode, importFrom_byteLines]
  refine importFrom_congr options {} ?_
  rw [List.map_map]
  exact List.map_congr_left fun line _ => Text.trim_unmarked line

/-- What comes of a source that can be read. -/
theorem importSource_of_readable (bytes : List UInt8) :
    importSource options { bytes := bytes } =
      .ok (importFrom options {} ((Text.byteLines bytes).map Text.decode)) := by
  rw [importSource, Source.readings, readingsFrom_none, importReadings_ok, importFrom_byteLines]

theorem importSource_of_failing (bytes : List UInt8) (reason : String) :
    importSource options { bytes := bytes, failure? := some reason } =
      .error (.unreadable reason) := by
  obtain ⟨ls, hls⟩ := exists_readingsFrom_some reason [] bytes
  rw [importSource, Source.readings, hls, importReadings_error]

/-- A report is that of the lines, and the source has not failed. -/
theorem eq_importFrom_of_importSource {source : Source} {report : Report}
    (h : importSource options source = .ok report) :
    source.failure? = none ∧
      report = importFrom options {} ((Text.byteLines source.bytes).map Text.decode) := by
  obtain ⟨bytes, failure?⟩ := source
  cases failure? with
  | none =>
    rw [importSource_of_readable] at h
    exact ⟨rfl, (Except.ok.inj h).symm⟩
  | some reason =>
    rw [importSource_of_failing] at h
    cases h

/-- **A source and its text give the same report**, with every rule and remark the same; a source
that fails, after whatever bytes, gives its failure and no report. -/
theorem importSource_eq_importText (bytes : List UInt8) :
    importSource options { bytes := bytes } = .ok (importText options (Text.decode bytes)) ∧
      ∀ reason, importSource options { bytes := bytes, failure? := some reason } =
        .error (.unreadable reason) := by
  refine ⟨?_, importSource_of_failing options bytes⟩
  rw [importSource_of_readable, importText_decode]

end BannerMatch.Probe
