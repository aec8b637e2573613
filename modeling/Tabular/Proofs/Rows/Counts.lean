import Tabular.Proofs.Failures.Functions
import Tabular.Proofs.Failures.Lengths
import Tabular.Proofs.Rows.Locality

/-!
# Numbers of rows

The functions of one input that work along its rows (`Kind.mapsRows`), one row at a time or with a
running total, give as many rows as they get. It does not matter where the rows come from: the child
of the node may be a filter, a single value, or anything else whose rows are not those of the frame.

Two functions are an exception. Whether a value is finite or infinite is settled by the declared
type of the child, unless that is floating point. The answer is then a constant, and the child is
not looked at (`Kind.readsRows`), so that there is a row for every row of the frame instead
(`Expr.length_evaluate_eq_iff`). Of the two rows that a filter leaves, three are said to be finite
(`Expr.not_length_evaluate_eq`).

Functions of several steps keep the number of rows because each step does. The steps are gone
through one by one, and none of them has more to it than a map or a traversal of the rows.
-/

namespace Tabular

/-! ### Series -/

namespace Series

variable {d out : DataType} {s l r t : Series}

/-- A conversion gives a row for a row. -/
theorem length_convert (h : s.convert d = .ok t) : t.length = s.length := by
  obtain ⟨rows, hrows, h⟩ := Outcome.bind_eq_ok.1 h
  injection h with h
  exact h ▸ length_of_convertRows hrows

theorem length_cast (h : s.cast d = .ok t) : t.length = s.length := by
  unfold cast at h
  split at h
  · injection h with h
    exact h ▸ rfl
  · split at h
    · exact length_convert h
    · cases h

/-- A function of numbers works on each row. -/
theorem length_math {op : MathOp} (h : s.math op = .ok t) : t.length = s.length := by
  obtain ⟨d, rows⟩ := s
  cases d <;> simp only [math] at h <;> first
    | (split at h <;> first | (injection h with h; exact h ▸ List.length_map _) | cases h)
    | cases h

theorem length_round {decimals : Nat} (h : s.round decimals = .ok t) : t.length = s.length := by
  obtain ⟨d, rows⟩ := s
  cases d with
  | integer t =>
    injection h with h
    exact h ▸ rfl
  | float t =>
    simp only [round] at h
    split at h
    · injection h with h
      exact h ▸ List.length_map _
    · cases h
  | _ => cases h

/-- A running total is noted at every row. -/
@[simp]
theorem length_scanRows {α : Type} (f : α → α → α) (total : Option α) (rows : List (Option α)) :
    (scanRows f total rows).length = rows.length := by
  induction rows generalizing total with
  | nil => cases total <;> rfl
  | cons row rows ih =>
    cases row with
    | none => cases total <;> exact congrArg (· + 1) (ih _)
    | some v => cases total <;> exact congrArg (· + 1) (ih _)

theorem length_scan {op : Scan} (h : s.scan op = .ok t) : t.length = s.length := by
  obtain ⟨d, rows⟩ := s
  cases d with
  | integer t =>
    injection h with h
    exact h ▸ length_scanRows _ _ _
  | float t =>
    simp only [scan] at h
    split at h
    · injection h with h
      exact h ▸ length_scanRows _ _ _
    · cases h
  | _ => cases h

/-- Every row of text is one text. -/
theorem length_textRows {rows : List (Option String)} (h : s.textRows = .ok rows) :
    rows.length = s.length := by
  obtain ⟨d, as⟩ := s
  cases d with
  | text layout =>
    injection h with h
    exact h ▸ rfl
  | null =>
    injection h with h
    exact h ▸ List.length_map _
  | _ => cases h

/-- What is made of texts is made of each. -/
theorem length_mapText {f : String → String} (h : s.mapText f = .ok t) : t.length = s.length := by
  obtain ⟨rows, hrows, h⟩ := Outcome.bind_eq_ok.1 h
  injection h with h
  exact h ▸ (List.length_map _).trans (length_textRows hrows)

/-- Replacing one target works on each text. -/
theorem length_replace {target replacement : String} {count : Int}
    (h : s.replace target replacement count = .ok t) : t.length = s.length := by
  unfold replace at h
  split at h
  · cases h
  · exact length_mapText h

theorem length_replaceMany {targets replacements : List String}
    (h : s.replaceMany targets replacements = .ok t) : t.length = s.length := by
  unfold replaceMany at h
  split at h
  · cases h
  · split at h
    · exact length_mapText h
    · split at h
      · exact length_mapText h
      · cases h

/-- Every row of times is one time. -/
theorem length_times? {times : List (Option Calendar.DateTime)} (h : s.times? = some times) :
    times.length = s.length := by
  obtain ⟨d, rows⟩ := s
  cases d with
  | date32 | date64 | timestamp unit zone =>
    injection h with h
    exact h ▸ List.length_map _
  | _ => cases h

/-- A component is read off each row. -/
theorem length_component {part : DateComponent} (h : s.component part = .ok t) :
    t.length = s.length := by
  unfold component at h
  split at h
  · cases h
  · next htimes _ _ =>
    injection h with h
    exact h ▸ (List.length_map _).trans (length_times? htimes)
  · cases h

/-- A single row on the right stands for as many as there are on the left. -/
theorem length_combine_single {op : BinaryOp} (hr : r.length = 1) (hop : op.spreads out = false)
    (h : l.combine op out r = .ok t) : t.length = l.length := by
  obtain ⟨e, rows⟩ := r
  obtain ⟨x, rfl⟩ : ∃ x, rows = [x] := List.length_eq_one_iff.1 hr
  have hsupports : op.supports out l.dtype e = true := by
    by_contra hno
    rw [combine, if_neg hno] at h
    cases h
  rw [combine_single_right hsupports, if_neg (by simp [hop])] at h
  exact length_combine List.length_replicate.symm h

end Series

/-! ### Functions -/

/-- Sums of multiples have as many rows as what is summed up; the factors are single rows. -/
theorem TemporalFunction.length_total {n : Nat} {ps : List (Series × Series)} {t : Series}
    (hps : ∀ p ∈ ps, p.1.length = n ∧ p.2.length = 1) (h : total ps = .ok t) : t.length = n := by
  have hscale (p : Series × Series) (hp : p ∈ ps) {u : Series}
      (hu : p.1.combine (.arithmetic .mul) .int64 p.2 = .ok u) : u.length = n :=
    (Series.length_combine_single (hps p hp).2 rfl hu).trans (hps p hp).1
  match ps with
  | [] => cases h
  | p :: ps =>
    obtain ⟨start, hstart, h⟩ := Outcome.bind_eq_ok.1 h
    refine Outcome.foldlM_induction (I := fun s ↦ s.length = n) h
      (hscale p List.mem_cons_self hstart) fun q hq s u hs hstep ↦ ?_
    obtain ⟨scaled, hscaled, hstep⟩ := Outcome.bind_eq_ok.1 hstep
    have hlen := hscale q (List.mem_cons_of_mem _ hq) hscaled
    exact (Series.length_combine (hs.trans hlen.symm) hstep).trans hs

/-- One component or several give a row for a row. -/
theorem TemporalFunction.length_onSeries {f : TemporalFunction} {s t : Series}
    (h : f.onSeries s = .ok t) : t.length = s.length := by
  by_cases hparts : f.parts.length = 1
  · obtain ⟨⟨part, scale⟩, hpart⟩ := List.length_eq_one_iff.1 hparts
    unfold onSeries at h
    rw [hpart] at h
    exact Series.length_component h
  · rw [onSeries_eq hparts] at h
    obtain ⟨ss, hss, h⟩ := Outcome.bind_eq_ok.1 h
    refine length_total (fun p hp ↦ ?_) h
    obtain ⟨hleft, hright⟩ := List.of_mem_zip hp
    constructor
    · obtain ⟨q, -, hq⟩ := Outcome.exists_of_mem_result hss hleft
      obtain ⟨u, hu, hq⟩ := Outcome.bind_eq_ok.1 hq
      exact (Series.length_cast hq).trans (Series.length_component hu)
    · obtain ⟨q, -, hq⟩ := List.mem_map.1 hright
      exact hq ▸ rfl

namespace Column

variable {c : Column} {flags : List (Option Bool)}

/-- There is a truth value for each row. -/
theorem length_flags (h : c.flags = .ok flags) : flags.length = c.length := by
  obtain ⟨⟨d, rows⟩, sorted⟩ := c
  by_cases hd : d = .boolean
  · subst hd
    injection h with h
    exact h ▸ rfl
  · have hnone : (⟨d, rows⟩ : Series).rowsAs? .boolean = none := dif_neg hd
    simp only [Column.flags, hnone] at h
    cases h

/-- There is an answer for each row, be it a number or not. -/
@[simp]
theorem length_nans (c : Column) : c.nans.length = c.length := by
  obtain ⟨⟨d, rows⟩, sorted⟩ := c
  cases d with
  | float t =>
    cases ht : t.hasArithmetic <;>
      simp [nans, nanMask?, ht, Series.marked, length, Series.length]
  | _ => simp [nans, nanMask?, Series.marked, length, Series.length]

/-- A test gives an answer for each row. -/
theorem length_test {p : Binary .double → Bool} (h : c.test p = .ok flags) :
    flags.length = c.length := by
  obtain ⟨rows, hrows, h⟩ := Outcome.bind_eq_ok.1 h
  injection h with h
  exact h ▸ (List.length_map _).trans (Series.length_of_convertRows hrows)

/-- There is a flag for each row, kept or not. -/
@[simp]
theorem length_distinctFlags (c : Column) (keep : Keep) (value : Bool) :
    (c.distinctFlags keep value).length = c.length := by
  simp [distinctFlags, Series.scatterFlags]

end Column

namespace BooleanFunction

/-- Whether the function gives a flag for each row of one column: a test of the row, or of the rows
that are equal to it. -/
def flagsRows : BooleanFunction → Bool
  | isFirstDistinct | isLastDistinct | isUnique | isDuplicated => true
  | g => g.isTest

/-- A function that gives flags gives one for each row. -/
theorem length_onColumns {g : BooleanFunction} (hg : g.flagsRows = true) {c : Column} {s : Series}
    (h : g.onColumns [c] = .ok s) : s.length = c.length := by
  cases g with
  | isNull | isNotNull =>
    injection h with h
    exact h ▸ List.length_map _
  | isNan =>
    injection h with h
    exact h ▸ c.length_nans
  | isNotNan =>
    injection h with h
    exact h ▸ (List.length_map _).trans c.length_nans
  | isFinite | isInfinite =>
    obtain ⟨flags, hflags, h⟩ := Outcome.bind_eq_ok.1 h
    injection h with h
    exact h ▸ Column.length_test hflags
  | isFirstDistinct | isLastDistinct | isUnique | isDuplicated =>
    injection h with h
    exact h ▸ c.length_distinctFlags _ _
  | not =>
    obtain ⟨flags, hflags, h⟩ := Outcome.bind_eq_ok.1 h
    injection h with h
    exact h ▸ (List.length_map _).trans (Column.length_flags hflags)
  | _ => cases hg

end BooleanFunction

namespace StringFunction

/-- Whether the function edits the text of each row. -/
def editsRows : StringFunction → Bool
  | lowercase | uppercase | replace _ _ | replaceMany _ | slice => true
  | stripChars | stripCharsStart | stripCharsEnd => true
  | _ => false

variable {g : StringFunction} {d : DataType} {cs : List Expr}

/-- A function that edits text edits each row. -/
theorem length_onSeries (hg : g.editsRows = true) {s t : Series}
    (h : g.onSeries d cs s = .ok t) : t.length = s.length := by
  cases g with
  | lowercase | uppercase | stripChars | stripCharsStart | stripCharsEnd =>
    exact Series.length_mapText h
  | replace n literal =>
    simp only [onSeries] at h
    split at h
    · exact Series.length_replace h
    · cases h
  | replaceMany ignoreCase =>
    simp only [onSeries] at h
    split at h
    · exact Series.length_replaceMany h
    · cases h
  | slice =>
    simp only [onSeries] at h
    split at h
    · exact Series.length_mapText h
    · cases h
  | _ => cases hg

theorem length_onColumns (hg : g.editsRows = true) {c : Column} {columns : List (Outcome Column)}
    {t : Series} (h : g.onColumns d cs (.ok c :: columns) = .ok t) : t.length = c.length := by
  have hkind : g.matchKind? = none := by cases g <;> first | rfl | cases hg
  simp only [onColumns, hkind, Outcome.ok_bind] at h
  obtain ⟨s, hs, h⟩ := Outcome.bind_eq_ok.1 h
  have hlen := length_onSeries hg hs
  split at h
  · injection h with h
    exact h ▸ hlen
  · exact (Series.length_cast h).trans hlen

end StringFunction

namespace UnaryFunction

/-- Whether the function keeps the rows of its column apart: what it gives for a row depends on that
row, or on the rows up to it. -/
def keepsRows : UnaryFunction → Bool
  | math _ | maskNans | round _ | setSorted _ => true
  | g => g.scan?.isSome

variable {g : UnaryFunction} {d : DataType} {cs : List Expr} {columns : List (Outcome Column)}

/-- Running totals are cast, totalled and cast back, row by row. -/
theorem length_running {op : Scan} {c r : Column} (h : onColumn.running d op c = .ok r) :
    r.length = c.length := by
  obtain ⟨input, hinput, h⟩ := Outcome.bind_eq_ok.1 h
  obtain ⟨total, htotal, h⟩ := Outcome.bind_eq_ok.1 h
  obtain ⟨s, hs, h⟩ := Outcome.bind_eq_ok.1 h
  injection h with h
  subst h
  calc s.length = total.length := Series.length_cast hs
    _ = input.length := Series.length_scan htotal
    _ = c.length := Series.length_cast hinput

/-- A function that keeps rows apart gives one for each. -/
theorem length_onColumn (hg : g.keepsRows = true) {c r : Column}
    (h : g.onColumn d cs columns c = .ok r) : r.length = c.length := by
  cases g with
  | math op =>
    obtain ⟨input, hinput, h⟩ := Outcome.bind_eq_ok.1 h
    obtain ⟨s, hs, h⟩ := Outcome.bind_eq_ok.1 h
    injection h with h
    exact h ▸ (Series.length_math hs).trans (Series.length_cast hinput)
  | maskNans =>
    injection h with h
    subst h
    rw [Column.length, Column.series_maskNans]
    exact Series.length_maskNans _
  | round decimals =>
    obtain ⟨s, hs, h⟩ := Outcome.bind_eq_ok.1 h
    injection h with h
    exact h ▸ Series.length_round hs
  | setSorted descending =>
    injection h with h
    exact h ▸ rfl
  | cumMin | cumMax | cumProd | cumSum => exact length_running h
  | _ => cases hg

end UnaryFunction

/-! ### Nodes -/

namespace Kind

/-- The functions of one input along its rows. -/
def mapsRows : Kind → Bool
  | booleanFunction g => g.flagsRows
  | stringFunction g => g.editsRows
  | temporalFunction _ => true
  | unaryFunction g => g.keepsRows
  | _ => false

/-- Whether a function looks at its first child, which is declared to have type `d`. -/
def readsRows (k : Kind) (d : DataType) : Bool :=
  match k with
  | booleanFunction g => g.readsChild d
  | _ => true

end Kind

namespace Expr

variable {fr : Frame} {context : Context} {m : Mapping} {d : DataType} {k : Kind} {x : Expr}
  {cs : List Expr} {c r : Column}

/-- A function along the rows of one input gives the rows of its child if it looks at it, and those
of the frame if it does not. -/
theorem length_of_evaluate (hk : k.mapsRows = true) (hcheck : k.check d (x :: cs) = .ok ())
    (hfind : m.find? (node d k (x :: cs)) = none) (hx : x.evaluate fr context m = .ok c)
    (hr : (node d k (x :: cs)).evaluate fr context m = .ok r) :
    (k.readsRows x.dtype = true → r.length = c.length) ∧
      (k.readsRows x.dtype = false → r.length = fr.rows) := by
  rw [evaluate, hfind, evaluateAll_eq_map, List.map_cons, hx] at hr
  cases k with
  -- Only a boolean function can do without its child's rows, and then it answers for every row of
  -- the frame.
  | booleanFunction g =>
    have harity : g.arity? = some 1 := by cases g <;> first | rfl | cases hk
    obtain rfl : cs = [] := by simpa using g.length_of_check harity hcheck
    simp only [evaluateNode, List.all_cons, List.all_nil, Bool.and_true] at hr
    simp only [Kind.readsRows]
    constructor
    · intro hread
      rw [if_pos hread] at hr
      have hr : (g.onColumns [c] >>= fun s ↦ .ok { series := s }) = .ok r := hr
      obtain ⟨s, hs, hr⟩ := Outcome.bind_eq_ok.1 hr
      injection hr with hr
      exact hr ▸ g.length_onColumns hk hs
    · intro hread
      rw [if_neg (Bool.eq_false_iff.1 hread)] at hr
      injection hr with hr
      exact hr ▸ List.length_replicate
  | stringFunction g =>
    refine ⟨fun _ ↦ ?_, fun h ↦ absurd h.symm Bool.false_ne_true⟩
    obtain ⟨s, hs, hr⟩ := Outcome.bind_eq_ok.1 hr
    injection hr with hr
    exact hr ▸ g.length_onColumns hk hs
  | temporalFunction g =>
    refine ⟨fun _ ↦ ?_, fun h ↦ absurd h.symm Bool.false_ne_true⟩
    -- By the check a temporal function has no further children.
    obtain ⟨_, harity, -⟩ := Outcome.bind_eq_ok.1 hcheck
    obtain rfl : cs = [] := by simpa using checkArity_eq_ok.1 harity
    have hr : Kind.onColumns (.temporalFunction g) d [c] = .ok r := hr
    obtain ⟨s, hs, hr⟩ := Outcome.bind_eq_ok.1 hr
    obtain ⟨t, ht, hr⟩ := Outcome.bind_eq_ok.1 hr
    injection hr with hr
    exact hr ▸ (Series.length_cast ht).trans (g.length_onSeries hs)
  | unaryFunction g =>
    exact ⟨fun _ ↦ g.length_onColumn hk hr, fun h ↦ absurd h.symm Bool.false_ne_true⟩
  | _ => cases hk

/-- **Functions along the rows of one input keep the number of rows** exactly if they look at their
child, or if it has as many rows as the frame. -/
theorem length_evaluate_eq_iff (hk : k.mapsRows = true) (hnode : (node d k (x :: cs)).WellFormed)
    (hfind : m.find? (node d k (x :: cs)) = none) (hx : x.evaluate fr context m = .ok c)
    (hr : (node d k (x :: cs)).evaluate fr context m = .ok r) :
    (k.readsRows x.dtype = true → r.length = c.length) ∧
      (k.readsRows x.dtype = false → r.length = fr.rows) ∧
      (r.length = c.length ↔ k.readsRows x.dtype = true ∨ c.length = fr.rows) := by
  obtain ⟨-, -, hcheck⟩ := hnode
  obtain ⟨hread, hskip⟩ := length_of_evaluate hk hcheck hfind hx hr
  refine ⟨hread, hskip, ?_⟩
  cases hreads : k.readsRows x.dtype with
  | true => exact iff_of_true (hread hreads) (.inl rfl)
  | false => rw [hskip hreads, eq_comm, or_iff_right Bool.false_ne_true]

/-- A frame of parcels, the last of which was not sent. -/
def parcelsFrame : Frame :=
  ⟨[⟨"weight", { series := ⟨.int64, [3, 4, 5].map fun i ↦ some (FixedInt.wrap _ i)⟩ }⟩,
    ⟨"sent", { series := .ofFlags [some true, some true, some false] }⟩], rfl⟩

/-- The weights of the parcels that were sent. -/
def sentWeights : Expr :=
  node .int64 .filter [node .int64 (.col "weight") [], node .boolean (.col "sent") []]

/-- Of the two weights that were sent, two are told to be numbers. -/
theorem length_evaluate_eq_iff_sentWeights :
    (node .boolean (.booleanFunction .isNan) [sentWeights]).WellFormed ∧
      ∃ c r, sentWeights.evaluate parcelsFrame .frame .empty = .ok c ∧
        (node .boolean (.booleanFunction .isNan) [sentWeights]).evaluate
          parcelsFrame .frame .empty = .ok r ∧ c.length = 2 ∧ r.length = c.length := by
  have hnode : (node .boolean (.booleanFunction .isNan) [sentWeights]).WellFormed := by decide
  obtain ⟨c, hc⟩ : ∃ c, sentWeights.evaluate parcelsFrame .frame .empty = .ok c := ⟨_, rfl⟩
  obtain ⟨r, hr⟩ : ∃ r, (node .boolean (.booleanFunction .isNan) [sentWeights]).evaluate
    parcelsFrame .frame .empty = .ok r := ⟨_, rfl⟩
  obtain ⟨hread, -, -⟩ := length_evaluate_eq_iff rfl hnode (Mapping.find?_empty _) hc hr
  refine ⟨hnode, c, r, hc, hr, ?_, hread rfl⟩
  injection hc with hc
  exact hc ▸ rfl

/-- Of two weights that are whole numbers, three are said to be finite. -/
theorem not_length_evaluate_eq :
    ¬∀ (fr : Frame) (d : DataType) (k : Kind) (x : Expr) (cs : List Expr) (c r : Column),
      k.mapsRows = true → (node d k (x :: cs)).WellFormed →
        x.evaluate fr .frame .empty = .ok c →
          (node d k (x :: cs)).evaluate fr .frame .empty = .ok r → r.length = c.length := by
  intro h
  have hlen := h parcelsFrame .boolean (.booleanFunction .isFinite) sentWeights [] _ _ rfl
    (by decide) rfl rfl
  exact absurd hlen (by decide)

end Expr

end Tabular
