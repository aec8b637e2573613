import Tabular.Proofs.Calendar.Reading
import Tabular.Proofs.Expr.Values

/-!
# Strict parsing of times

A column of text is parsed in two passes: one looks whether every row names a time in the format,
the other reads the times and takes their days or ticks (`Series.parsed?`). Strict parsing fails if
a row does not pass the first, and the second turns a time into a null where the declared type
cannot count its ticks.

A time that is read is one of the calendar (`Calendar.parse?_isValid`). Days and ticks down to
microseconds count all of these times (`Calendar.DateTime.IsValid.isSome_inType?`); nanoseconds in
64 bits do not. So strict parsing does what it has to (`ParsesStrictly`) but for nanoseconds, where
it invents nulls (`Expr.parsesStrictly_iff`, `Expr.not_parsesStrictly`).
-/

namespace Tabular

/-- The value of a time in a type of days or of ticks. -/
def Calendar.DateTime.inType? (t : DateTime) : (d : DataType) → Option d.Value
  | .date32 => FixedInt.ofInt? .int32 t.days
  | .timestamp unit _ => ticksOf? unit t
  | _ => none

/-- Types that text is parsed into. -/
def DataType.IsTime (d : DataType) : Prop := d = .date32 ∨ ∃ unit zone, d = .timestamp unit zone

namespace Calendar.DateTime

variable {t : DateTime} {d : DataType}

/-- Days, and ticks of more than a nanosecond, count all times of the calendar. -/
theorem IsValid.isSome_inType? (h : t.IsValid) (hd : d.IsTime)
    (hnano : ∀ zone, d ≠ .timestamp .nanosecond zone) : (t.inType? d).isSome = true := by
  obtain ⟨hmin, hmax⟩ := dateInRange_iff.1 h.date
  have hseconds := h.seconds
  have hnanos := h.nanos
  rcases hd with rfl | ⟨unit, zone, rfl⟩
  · refine FixedInt.isSome_ofInt?.2 ?_
    have hmin32 : IntType.int32.min = -2147483648 := by decide
    have hmax32 : IntType.int32.max = 2147483647 := by decide
    omega
  · refine FixedInt.isSome_ofInt?.2 ?_
    have hmin64 : IntType.int64.min = -9223372036854775808 := by decide
    have hmax64 : IntType.int64.max = 9223372036854775807 := by decide
    rw [hmin64, hmax64, toTicks, timestamp]
    dsimp only [secondsPerDay]
    cases unit with
    | nanosecond => exact absurd rfl (hnano zone)
    | _ =>
      simp only [TimeUnit.perSecond]
      norm_num
      omega

/-- Nanoseconds count the times whose ticks are in 64 bits. -/
theorem isSome_inType?_nanosecond {zone : Option String} :
    (t.inType? (.timestamp .nanosecond zone)).isSome = true ↔
      IntType.int64.min ≤ t.toTicks 1000000000 ∧ t.toTicks 1000000000 ≤ IntType.int64.max :=
  FixedInt.isSome_ofInt?

end Calendar.DateTime

/-- The value that a text names in a format and a type. -/
def Series.parsed? (format : String) (d : DataType) (text : String) : Option d.Value :=
  (Calendar.parse? format text).bind (Calendar.DateTime.inType? · d)

/-- Some text of the rows names no time in the format. -/
def NamesNoTime (format : String) (rows : List (Option String)) : Prop :=
  ∃ text, some text ∈ rows ∧ Calendar.parse? format text = none

/-- What strict parsing into the type `d` has to do with rows of text: what it gives is null where
the text is, and a text without a value in the type makes it fail. -/
structure ParsesStrictly (format : String) (d : DataType) (rows : List (Option String))
    (result : Outcome Series) : Prop where
  nulls : ∀ t, result = .ok t → t.rows.map Option.isNone = rows.map Option.isNone
  refuses : ∀ text, some text ∈ rows → Series.parsed? format d text = none →
    result = .error .unparsedRow

/-- Texts that all have values are parsed strictly. -/
theorem ParsesStrictly.of_parsed {format : String} {d : DataType} {rows : List (Option String)}
    (h : ∀ text, some text ∈ rows → (Series.parsed? format d text).isSome = true) :
    ParsesStrictly format d rows (.ok ⟨d, rows.map (·.bind (Series.parsed? format d))⟩) where
  nulls t ht := by
    cases ht
    rw [List.map_map]
    refine List.map_congr_left fun row hrow ↦ ?_
    cases row with
    | none => rfl
    | some text =>
      obtain ⟨v, hv⟩ := Option.isSome_iff_exists.1 (h text hrow)
      simp [hv]
  refuses text htext hnone := by
    have hsome := h text htext
    rw [hnone] at hsome
    cases hsome

namespace Series

variable {s : Series} {format : String} {rows : List (Option String)} {d : DataType}

/-- The rows are read and then take the type. -/
theorem toTime_eq (hrows : s.textRows = .ok rows) (hd : d.IsTime) :
    s.toTime format d = .ok ⟨d, rows.map (·.bind (parsed? format d))⟩ := by
  rw [toTime, parsedRows, hrows]
  have hjoin {β : Type} (f : Calendar.DateTime → Option β) :
      ((rows.map (Option.map (Calendar.parse? format))).map Option.join).map (·.bind f) =
        rows.map (·.bind fun text ↦ (Calendar.parse? format text).bind f) := by
    simp only [List.map_map]
    exact List.map_congr_left fun row _ ↦ by cases row <;> rfl
  rcases hd with rfl | ⟨unit, zone, rfl⟩
  · exact congrArg (fun rows ↦ Except.ok (⟨.date32, rows⟩ : Series)) (hjoin _)
  · exact congrArg (fun rows ↦ Except.ok (⟨.timestamp unit zone, rows⟩ : Series)) (hjoin _)

/-- A text that names no time is found by the first pass. -/
theorem mem_isTime_iff (hrows : s.textRows = .ok rows) :
    ∃ flags, s.isTime format = .ok flags ∧
      (flags.contains (some false) = true ↔ NamesNoTime format rows) := by
  refine ⟨_, by rw [isTime, parsedRows, hrows]; rfl, ?_⟩
  simp only [List.contains_iff_mem, List.mem_map, NamesNoTime]
  constructor
  · rintro ⟨_, ⟨row, hrow, rfl⟩, hflag⟩
    cases row with
    | none => cases hflag
    | some text =>
      refine ⟨text, hrow, ?_⟩
      simpa using hflag
  · rintro ⟨text, htext, hparse⟩
    exact ⟨_, ⟨_, htext, rfl⟩, by simp [hparse]⟩

/-- The first pass fails on a text that names no time. -/
theorem checkParsed_of_namesNoTime (hrows : s.textRows = .ok rows) (h : NamesNoTime format rows) :
    StringFunction.checkParsed true format s = .error .unparsedRow := by
  obtain ⟨flags, hflags, hmem⟩ := mem_isTime_iff hrows
  rw [StringFunction.checkParsed, if_pos rfl, hflags, Outcome.ok_bind, if_pos (hmem.2 h)]

/-- It succeeds if there is none. -/
theorem checkParsed_of_not_namesNoTime (hrows : s.textRows = .ok rows)
    (h : ¬NamesNoTime format rows) : StringFunction.checkParsed true format s = .ok () := by
  obtain ⟨flags, hflags, hmem⟩ := mem_isTime_iff hrows
  rw [StringFunction.checkParsed, if_pos rfl, hflags, Outcome.ok_bind, if_neg (mt hmem.1 h)]

end Series

namespace Expr

variable {fr : Frame} {context : Context} {known : Mapping} {format : String} {exact cache : Bool}
  {d : DataType} {x : Expr} {s : Series} {rows : List (Option String)}

/-- The node that parses text strictly. -/
def strptime (format : String) (exact cache : Bool) (d : DataType) (x : Expr) : Expr :=
  node d (.stringFunction (.strptime (some format) true exact cache)) [x]

/-- What the node gives is the first pass, and then the second. -/
theorem values_strptime (hfind : known.find? (x.strptime format exact cache d) = none)
    (hx : x.values fr context known = .ok s) (hrows : s.textRows = .ok rows) (hd : d.IsTime) :
    (x.strptime format exact cache d).values fr context known =
      StringFunction.checkParsed true format s >>= fun _ ↦
        .ok ⟨d, rows.map (·.bind (Series.parsed? format d))⟩ := by
  obtain ⟨c, hc, rfl⟩ := values_eq_ok.1 hx
  have hnull : d ≠ .null := by rcases hd with rfl | ⟨_, _, rfl⟩ <;> exact nofun
  rw [strptime, values_node hfind, List.map_cons, hc]
  show (((StringFunction.checkParsed true format c.series >>= fun _ ↦ c.series.toTime format d) >>=
    fun t ↦ if d = .null then .ok t else t.cast d) >>= fun t ↦ .ok { series := t }).map
      Column.series = _
  rw [Series.toTime_eq hrows hd]
  cases StringFunction.checkParsed true format c.series with
  | error e => rfl
  | ok u =>
    have hcast (rows : List (Option d.Value)) : (⟨d, rows⟩ : Series).cast d = .ok ⟨d, rows⟩ :=
      if_pos rfl
    simp only [Outcome.ok_bind, if_neg hnull, hcast]
    rfl

/-- **Strict parsing invents nulls for nanoseconds alone.** It fails if a text names no time, and
otherwise gives the times that the texts name. So it does what it has to for days and for ticks of
more than a nanosecond; for nanoseconds it does so if a text names no time, or the ticks of all the
times fit in 64 bits. -/
theorem parsesStrictly_iff (hfind : known.find? (x.strptime format exact cache d) = none)
    (hx : x.values fr context known = .ok s) (hrows : s.textRows = .ok rows) (hd : d.IsTime) :
    (NamesNoTime format rows →
      (x.strptime format exact cache d).values fr context known = .error .unparsedRow) ∧
    (¬NamesNoTime format rows → (x.strptime format exact cache d).values fr context known =
      .ok ⟨d, rows.map (·.bind (Series.parsed? format d))⟩) ∧
    (ParsesStrictly format d rows ((x.strptime format exact cache d).values fr context known) ↔
      ∀ zone, d = .timestamp .nanosecond zone → NamesNoTime format rows ∨
        ∀ text t, some text ∈ rows → Calendar.parse? format text = some t →
          IntType.int64.min ≤ t.toTicks 1000000000 ∧ t.toTicks 1000000000 ≤ IntType.int64.max) := by
  have hfails (h : NamesNoTime format rows) :
      (x.strptime format exact cache d).values fr context known = .error .unparsedRow := by
    rw [values_strptime hfind hx hrows hd, Series.checkParsed_of_namesNoTime hrows h]
    rfl
  have hparses (h : ¬NamesNoTime format rows) :
      (x.strptime format exact cache d).values fr context known =
        .ok ⟨d, rows.map (·.bind (Series.parsed? format d))⟩ := by
    rw [values_strptime hfind hx hrows hd, Series.checkParsed_of_not_namesNoTime hrows h]
    rfl
  refine ⟨hfails, hparses, fun h zone hzone ↦ ?_, fun h ↦ ?_⟩
  · subst hzone
    by_cases hno : NamesNoTime format rows
    · exact .inl hno
    · refine .inr fun text t htext hparse ↦ ?_
      -- A row that names a time outside the type is null in the result, where strictness asks for
      -- an error.
      by_contra hrange
      have hnone : Series.parsed? format (.timestamp .nanosecond zone) text = none := by
        rw [Series.parsed?, hparse, Option.bind_some, ← Option.not_isSome_iff_eq_none,
          Calendar.DateTime.isSome_inType?_nanosecond]
        exact hrange
      have hrefused := h.refuses text htext hnone
      rw [hparses hno] at hrefused
      cases hrefused
  · by_cases hno : NamesNoTime format rows
    · rw [hfails hno]
      exact ⟨nofun, fun _ _ _ ↦ rfl⟩
    · rw [hparses hno]
      refine .of_parsed fun text htext ↦ ?_
      obtain ⟨t, hparse⟩ : ∃ t, Calendar.parse? format text = some t :=
        Option.ne_none_iff_exists'.1 fun hparse ↦ hno ⟨text, htext, hparse⟩
      rw [Series.parsed?, hparse, Option.bind_some]
      -- Of all types only nanoseconds leave some times of the calendar out.
      by_cases hnano : ∃ zone, d = .timestamp .nanosecond zone
      · obtain ⟨zone, rfl⟩ := hnano
        exact Calendar.DateTime.isSome_inType?_nanosecond.2
          (((h zone rfl).resolve_left hno) text t htext hparse)
      · have hvalid := Calendar.parse?_isValid hparse
        exact hvalid.isSome_inType? hd fun zone hzone ↦ hnano ⟨zone, hzone⟩

/-- A frame of departures, one of which is not known. -/
def departuresFrame : Frame :=
  ⟨[⟨"departure", { series := ⟨.utf8, [some "2024-02-29", none]⟩ }⟩], rfl⟩

/-- The column of the departures. -/
def departureColumn : Expr := node .utf8 (.col "departure") []

/-- Departures within the nanoseconds are parsed strictly. -/
theorem parsesStrictly_iff_departures :
    ParsesStrictly "%Y-%m-%d" (.timestamp .nanosecond none) [some "2024-02-29", none]
      ((departureColumn.strptime "%Y-%m-%d" true false (.timestamp .nanosecond none)).values
        departuresFrame .frame .empty) := by
  obtain ⟨-, -, hstrict⟩ := @parsesStrictly_iff departuresFrame .frame .empty "%Y-%m-%d" true false
    (.timestamp .nanosecond none) departureColumn _ _ rfl rfl rfl (.inr ⟨_, _, rfl⟩)
  refine hstrict.2 fun _ _ ↦ .inr fun text t htext hparse ↦ ?_
  obtain rfl : text = "2024-02-29" := by simpa using htext
  have hday : Calendar.parse? "%Y-%m-%d" "2024-02-29" = some ⟨19782, 0, 0⟩ := by decide
  rw [hday] at hparse
  cases hparse
  decide

/-- A frame of one date, beyond what nanoseconds count. -/
def distantFrame : Frame :=
  ⟨[⟨"departure", { series := ⟨.utf8, [some "3000-01-01"]⟩ }⟩], rfl⟩

/-- A date that becomes a null where it is parsed strictly. -/
theorem not_parsesStrictly :
    ¬∀ (fr : Frame) (format : String) (exact cache : Bool) (d : DataType) (x : Expr) (s : Series)
      (rows : List (Option String)), (x.strptime format exact cache d).WellFormed →
        fr.Declares (x.strptime format exact cache d) → d.IsTime →
          x.values fr .frame .empty = .ok s → s.textRows = .ok rows →
            ParsesStrictly format d rows
              ((x.strptime format exact cache d).values fr .frame .empty) := by
  intro h
  have hd : (DataType.timestamp .nanosecond none).IsTime := .inr ⟨_, _, rfl⟩
  have hstrict := h distantFrame "%Y-%m-%d" true false _ departureColumn _ _ (by decide)
    (by decide) hd rfl rfl
  have hrefused := hstrict.refuses "3000-01-01" List.mem_cons_self (by decide)
  have hnamed : ¬NamesNoTime "%Y-%m-%d" [some "3000-01-01"] := by
    rintro ⟨text, htext, hparse⟩
    obtain rfl : text = "3000-01-01" := by simpa using htext
    exact absurd hparse (by decide)
  rw [values_strptime rfl rfl rfl hd, Series.checkParsed_of_not_namesNoTime rfl hnamed] at hrefused
  cases hrefused

end Expr

end Tabular
