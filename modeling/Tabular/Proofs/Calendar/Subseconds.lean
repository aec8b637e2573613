import Tabular.Proofs.Calendar.Zone
import Tabular.Proofs.Order.Casts
import Tabular.Proofs.Rows.Division
import Tabular.Proofs.Rows.Filling
import Tabular.Proofs.Rows.Locality

/-!
# Fractions of a second

The components of the fraction of a second are numbers of 32 bits that are each less than a
thousand: milliseconds, what is left of them in microseconds, and what is left of those in
nanoseconds. The functions that count a whole fraction put it together again
(`TemporalFunction.onSeries_eq_counts`). They multiply and add in 64 bits, where nothing wraps
around since each component is small.

Ticks are divided toward negative infinity, so that before 1970 too a fraction counts from the start
of its second. The zone does not matter to it, since offsets are whole seconds
(`Calendar.nanos_zonedTime?`); but there has to be an offset, and a zone that is none is an error
for any rows.

Together they give the fraction in ticks of the unit that is asked for, rounded down if these are
coarser than the timestamp's own and exact otherwise (`CountsFraction`, `Expr.values_subseconds`).
-/

namespace Tabular

open FixedInt (wrap)

/-! ### Sums of components -/

namespace Series

/-- A number for every time, nulls for times that there are none of. -/
def counts (times : List (Option Calendar.DateTime)) (f : Calendar.DateTime → Int) : Series :=
  ⟨.int64, times.map (Option.map fun t ↦ wrap .int64 (f t))⟩

/-- A row for each time is a series of numbers, if it is null for a missing time. -/
theorem eq_counts {times : List (Option Calendar.DateTime)} {f : Calendar.DateTime → Int}
    {row : Option Calendar.DateTime → Option (FixedInt .int64)} (hnone : row none = none)
    (hsome : ∀ t, some t ∈ times → row (some t) = some (wrap .int64 (f t))) :
    (⟨.int64, times.map row⟩ : Series) = counts times f := by
  refine congrArg (Series.mk .int64) (List.map_congr_left fun time htime ↦ ?_)
  cases time with
  | none => exact hnone
  | some t => exact hsome t htime

/-- Numbers are multiplied row by row by a single one. -/
theorem combine_mul_counts (times : List (Option Calendar.DateTime)) (f : Calendar.DateTime → Int)
    (scale : Int) : (counts times f).combine (.arithmetic .mul) .int64 (ofInt scale) =
      .ok (counts times fun t ↦ f t * scale) := by
  refine (combine_integers_of_not_spreads rfl (by decide) (pairRows_single_right _ _)).trans ?_
  rw [List.map_map, List.map_map]
  exact congrArg Except.ok (eq_counts rfl fun t _ ↦
    congrArg some (FixedInt.wrap_mul_wrap .int64 (f t) scale))

/-- Numbers of the same times are added row by row. -/
theorem combine_add_counts (times : List (Option Calendar.DateTime))
    (f g : Calendar.DateTime → Int) :
    (counts times f).combine (.arithmetic .add) .int64 (counts times g) =
      .ok (counts times fun t ↦ f t + g t) := by
  have hpairs : pairRows (times.map (Option.map fun t ↦ wrap .int64 (f t)))
      (times.map (Option.map fun t ↦ wrap .int64 (g t))) =
      .ok (times.map fun time ↦
        (time.map fun t ↦ wrap .int64 (f t), time.map fun t ↦ wrap .int64 (g t))) := by
    rw [pairRows_of_length_eq (by rw [List.length_map, List.length_map]), List.zip_map']
  refine (combine_integers_of_not_spreads rfl (by decide) hpairs).trans ?_
  rw [List.map_map]
  exact congrArg Except.ok (eq_counts rfl fun t _ ↦
    congrArg some (FixedInt.wrap_add_wrap .int64 (f t) (g t)))

/-- A component that fits 32 bits is not changed by a cast to 64. -/
theorem component_cast {s : Series} {part : DateComponent}
    {times : List (Option Calendar.DateTime)} (htimes : s.times? = some times)
    (hzone : Calendar.unknownZone? s.dtype.zone? = none)
    (hpart : s.dtype.hasComponent part = true)
    (hfits : ∀ t, some t ∈ times → 0 ≤ part.read t ∧ part.read t < 1000) :
    (s.component part >>= fun t ↦ t.cast .int64) = .ok (counts times part.read) := by
  have hcomponent : s.component part = .ok ⟨.integer .int32,
      times.map (·.bind fun t ↦ FixedInt.ofInt? .int32 (part.read t))⟩ := by
    simp only [component, htimes, hpart, hzone]
  have hconvert (row : Option (FixedInt .int32)) : convertRow (.integer .int32) .int64 row =
    .ok (row.bind fun i ↦ FixedInt.ofInt? .int64 i.toInt) := rfl
  have hcast (rows : List (Option (FixedInt .int32))) : cast ⟨.integer .int32, rows⟩ .int64 =
      .ok ⟨.int64, rows.map (·.bind fun i ↦ FixedInt.ofInt? .int64 i.toInt)⟩ := by
    have hrows := convertRows_eq_map (d := .integer .int32) (e := .int64) hconvert rows
    have hne : DataType.integer .int32 ≠ .int64 := by decide
    have hcan : (DataType.integer .int32).canCast .int64 = true := by decide
    rw [cast, if_neg hne, if_pos hcan, convert, hrows, Outcome.ok_bind]
  rw [hcomponent, Outcome.ok_bind, hcast, List.map_map]
  refine congrArg Except.ok (eq_counts rfl fun t ht ↦ ?_)
  -- Components are below 1000, so that neither the narrow nor the wide type loses them.
  obtain ⟨hlo, hhi⟩ := hfits t ht
  have hmin : IntType.int32.min = -2147483648 := rfl
  have hmax : IntType.int32.max = 2147483647 := rfl
  have hmin' := Conversion.int64_min
  have hmax' := Conversion.int64_max
  have hwiden := FixedInt.ofInt?_eq_bind_iff (p := .int32) (q := .int64) (i := part.read t)
  exact (hwiden.2 fun _ ↦ by omega).symm.trans
    (FixedInt.ofInt?_eq_some_wrap (by omega) (by omega))

end Series

namespace TemporalFunction

variable {s : Series} {times : List (Option Calendar.DateTime)}

/-- What components add up to, each of them multiplied. -/
def sum (ps : List (DateComponent × Nat)) (t : Calendar.DateTime) : Int :=
  (ps.map fun p ↦ p.1.read t * (p.2 : Int)).sum

/-- Multiples are added to what there is. -/
theorem foldlM_counts (times : List (Option Calendar.DateTime)) (ps : List (DateComponent × Nat))
    (f : Calendar.DateTime → Int) :
    (ps.map fun p ↦ (Series.counts times p.1.read, Series.ofInt p.2)).foldlM (fun total part ↦ do
        total.combine (.arithmetic .add) .int64
          (← part.1.combine (.arithmetic .mul) .int64 part.2)) (Series.counts times f) =
      .ok (Series.counts times fun t ↦ f t + sum ps t) := by
  induction ps generalizing f with
  | nil =>
    have hzero : (fun t ↦ f t + sum [] t) = f := funext fun t ↦ Int.add_zero _
    rw [hzero]
    rfl
  | cons p ps ih =>
    rw [List.map_cons, List.foldlM_cons, Series.combine_mul_counts, Outcome.ok_bind,
      Series.combine_add_counts, Outcome.ok_bind, ih]
    simp only [sum, List.map_cons, List.sum_cons, Int.add_assoc]

/-- The sum of multiples starts with the first of them. -/
theorem total_counts (times : List (Option Calendar.DateTime)) {ps : List (DateComponent × Nat)}
    (hne : ps ≠ []) :
    total (ps.map fun p ↦ (Series.counts times p.1.read, Series.ofInt p.2)) =
      .ok (Series.counts times (sum ps)) := by
  obtain ⟨p, ps, rfl⟩ := List.exists_cons_of_ne_nil hne
  rw [List.map_cons, total, Series.combine_mul_counts, Outcome.ok_bind]
  exact foldlM_counts times ps fun t ↦ p.1.read t * p.2

/-- **A function of components is what they add up to**, in every row. -/
theorem onSeries_eq_counts {f : TemporalFunction} (htimes : s.times? = some times)
    (hzone : Calendar.unknownZone? s.dtype.zone? = none)
    (hparts : ∀ p ∈ f.parts, s.dtype.hasComponent p.1 = true)
    (hfits : ∀ p ∈ f.parts, ∀ t, some t ∈ times → 0 ≤ p.1.read t ∧ p.1.read t < 1000) :
    (f.onSeries s >>= fun t ↦ t.cast .int64) = .ok (Series.counts times (sum f.parts)) := by
  have hread (p) (hp : p ∈ f.parts) := Series.component_cast htimes hzone (hparts p hp) (hfits p hp)
  -- A single component is not scaled; several are summed.
  by_cases hone : f.parts.length = 1
  · obtain ⟨⟨part, scale⟩, hpart⟩ := List.length_eq_one_iff.1 hone
    have hscale : scale = 1 := by cases f <;> cases hpart <;> rfl
    have hsum : sum f.parts = part.read := by
      funext t
      rw [hpart, hscale]
      simp [sum]
    rw [hsum]
    unfold onSeries
    rw [hpart] at hread ⊢
    exact hread _ List.mem_cons_self
  · have hne : f.parts ≠ [] := by cases f <;> exact List.cons_ne_nil _ _
    have hcomponents : f.parts.mapM (fun p ↦ s.component p.1 >>= fun t ↦ t.cast .int64) =
        .ok (f.parts.map fun p ↦ Series.counts times p.1.read) :=
      Outcome.mapM_eq_ok.2 (List.forall₂_map_right_iff.2 (List.forall₂_same.2 hread))
    rw [onSeries_eq hone, hcomponents, Outcome.ok_bind, List.zip_map', total_counts times hne,
      Outcome.ok_bind]
    exact Series.cast_self _

/-- Without an offset for the zone no component is known. -/
theorem onSeries_of_unknownZone {f : TemporalFunction} {zone : String}
    (htimes : s.times? = some times) (hzone : Calendar.unknownZone? s.dtype.zone? = some zone)
    (hparts : ∀ p ∈ f.parts, s.dtype.hasComponent p.1 = true) :
    f.onSeries s = kernelFault (.unknownZone zone) := by
  have hcomponent (p) (hp : p ∈ f.parts) : s.component p.1 = kernelFault (.unknownZone zone) := by
    simp only [Series.component, htimes, hparts p hp, hzone]
  obtain ⟨p, ps, hps⟩ : ∃ p ps, f.parts = p :: ps :=
    List.exists_cons_of_ne_nil (by cases f <;> exact List.cons_ne_nil _ _)
  have hfirst := hcomponent p (hps ▸ List.mem_cons_self)
  by_cases hone : f.parts.length = 1
  · obtain rfl : ps = [] := by simpa [hps] using hone
    unfold onSeries
    rw [hps]
    exact hfirst
  · rw [onSeries_eq hone, hps, List.mapM_cons, hfirst]
    rfl

/-! ### Fractions -/

/-- The unit in which the function counts the fraction of a second, if it does. -/
def fractionUnit? : TemporalFunction → Option TimeUnit
  | millisecond => some .millisecond
  | microsecond => some .microsecond
  | nanosecond => some .nanosecond
  | _ => none

variable {f : TemporalFunction} {u : TimeUnit}

/-- The components of a fraction add up to the fraction in the unit of the function. -/
theorem sum_parts (h : f.fractionUnit? = some u) (t : Calendar.DateTime) :
    sum f.parts t = (t.nanos / (1000000000 / u.perSecond) : Nat) := by
  cases f with
  | millisecond | microsecond | nanosecond =>
    cases h
    simp only [sum, parts, DateComponent.read, TimeUnit.perSecond, List.map_cons, List.map_nil,
      List.sum_cons, List.sum_nil]
    omega
  | _ => cases h

/-- The components of a fraction are each less than a thousand. -/
theorem read_parts (h : f.fractionUnit? = some u) {t : Calendar.DateTime}
    (ht : t.nanos < 1000000000) : ∀ p ∈ f.parts, 0 ≤ p.1.read t ∧ p.1.read t < 1000 := by
  have hparts : ∀ p ∈ f.parts,
      p.1 = .millisecond ∨ p.1 = .microsecond ∨ p.1 = .nanosecond := by
    cases f <;> cases h <;> decide
  intro p hp
  rcases hparts p hp with hpart | hpart | hpart <;> rw [hpart] <;>
    simp only [DateComponent.read] <;> omega

end TemporalFunction

namespace Calendar

/-- The nanoseconds of a timestamp are its ticks in the second, whatever the zone. -/
theorem nanos_zonedTime? {unit : TimeUnit} {zone : Option String} {ticks : Int} {t : DateTime}
    (h : zonedTime? unit zone ticks = some t) :
    (t.nanos : Int) = ticks % unit.perSecond * (1000000000 / unit.perSecond : Nat) := by
  have hofTicks {t : DateTime} (h : DateTime.ofTicks? unit.perSecond ticks = some t) :
      (t.nanos : Int) = ticks % unit.perSecond * (1000000000 / unit.perSecond : Nat) := by
    have hpos : (0 : Int) < unit.perSecond := by exact_mod_cast unit.perSecond_pos
    have hrest := Int.emod_def ticks unit.perSecond
    have hnonneg := Int.emod_nonneg ticks hpos.ne'
    simp only [DateTime.ofTicks?, Option.ite_none_right_eq_some, Option.some.injEq] at h
    obtain ⟨-, rfl⟩ := h
    rw [Int.fdiv_eq_ediv_of_nonneg _ hpos.le, Int.mul_comm (_ / _), ← hrest]
    exact Int.toNat_of_nonneg (Int.mul_nonneg hnonneg (Int.natCast_nonneg _))
  cases zone with
  | none => exact hofTicks h
  | some zone =>
    obtain ⟨offset, -, h⟩ := Option.bind_eq_some_iff.1 h
    obtain ⟨t', ht', h⟩ := Option.bind_eq_some_iff.1 h
    rw [(DateTime.shift?_eq_some h).2, hofTicks ht']

/-- The nanoseconds of a timestamp are those of one second, as leap seconds do not come from ticks.
-/
theorem nanos_lt {unit : TimeUnit} {zone : Option String} {ticks : Int} {t : DateTime}
    (h : zonedTime? unit zone ticks = some t) : t.nanos < 1000000000 := by
  have hnanos := nanos_zonedTime? h
  cases unit <;> simp only [TimeUnit.perSecond] at hnanos <;> omega

/-- Ticks of one unit, counted in nanoseconds and then in ticks of another unit. -/
theorem div_nanos {u unit : TimeUnit} {ticks : Int} {nanos : Nat} (hnonneg : 0 ≤ ticks)
    (hlt : ticks < unit.perSecond)
    (hnanos : (nanos : Int) = ticks * (1000000000 / unit.perSecond : Nat)) :
    ((nanos / (1000000000 / u.perSecond) : Nat) : Int) = ticks * u.perSecond / unit.perSecond ∧
      (unit.perSecond ≤ u.perSecond →
        ((nanos / (1000000000 / u.perSecond) : Nat) : Int) * unit.perSecond =
          ticks * u.perSecond) := by
  cases unit <;> cases u <;> simp only [TimeUnit.perSecond] at hlt hnanos ⊢ <;> omega

end Calendar

/-- The fraction of a second of a timestamp, counted in ticks of the unit `u`. It is exact if these
are no coarser than those of the timestamp. -/
structure CountsFraction (u unit : TimeUnit) (zone : Option String)
    (row out : Option (FixedInt .int64)) : Prop where
  null : row = none → out = none
  count : ∀ ticks ∈ row, (zonedTime? unit zone ticks.toInt).isSome = true → ∃ v, out = some v ∧
    v.toInt = ticks.toInt % unit.perSecond * u.perSecond / unit.perSecond ∧
    (unit.perSecond ≤ u.perSecond →
      v.toInt * unit.perSecond = ticks.toInt % unit.perSecond * u.perSecond)

/-- The components of one timestamp count its fraction. Their sum is too small to wrap around. -/
theorem countsFraction {f : TemporalFunction} {u unit : TimeUnit} (h : f.fractionUnit? = some u)
    (zone : Option String) (row : Option (FixedInt .int64)) :
    CountsFraction u unit zone row
      ((row.bind fun ticks ↦ zonedTime? unit zone ticks.toInt).map fun t ↦
        wrap .int64 (TemporalFunction.sum f.parts t)) := by
  constructor
  · rintro rfl
    rfl
  · rintro ticks rfl htime
    obtain ⟨t, ht⟩ := Option.isSome_iff_exists.1 htime
    have hpos : (0 : Int) < unit.perSecond := by exact_mod_cast unit.perSecond_pos
    have hlt := Calendar.nanos_lt ht
    obtain ⟨hfloor, hexact⟩ := Calendar.div_nanos (u := u) (Int.emod_nonneg _ hpos.ne')
      (Int.emod_lt_of_pos _ hpos) (Calendar.nanos_zonedTime? ht)
    have hmin := Conversion.int64_min
    have hmax := Conversion.int64_max
    have hsum := TemporalFunction.sum_parts h t
    -- The count is at most that of the nanoseconds, and so it does not wrap.
    have hvalue : (wrap .int64 (TemporalFunction.sum f.parts t)).toInt =
      (t.nanos / (1000000000 / u.perSecond) : Nat) := by
      have hle := Nat.div_le_self t.nanos (1000000000 / u.perSecond)
      rw [hsum]
      generalize t.nanos / (1000000000 / u.perSecond) = count at hle
      exact FixedInt.wrapInt_eq_self (by omega) (by omega)
    refine ⟨_, congrArg (Option.map _) ht, ?_, ?_⟩
    · exact hvalue.trans hfloor
    · exact fun hu ↦ hvalue ▸ hexact hu

namespace Expr

variable {fr : Frame} {context : Context} {m : Mapping} {x : Expr} {f : TemporalFunction}
  {u unit : TimeUnit} {zone : Option String} {rows : List (Option (FixedInt .int64))}

/-- **Fractions of a second are counted exactly**, in every row, where the zone is an offset or
there is none. A zone that is no offset is an error. -/
theorem values_subseconds (hf : f.fractionUnit? = some u)
    (hfind : m.find? (node .int64 (.temporalFunction f) [x]) = none)
    (hx : x.values fr context m = .ok ⟨.timestamp unit zone, rows⟩) :
    ((∀ name ∈ zone, (Calendar.offset? name).isSome = true) →
      ∃ out : List (Option (FixedInt .int64)),
        (node .int64 (.temporalFunction f) [x]).values fr context m = .ok ⟨.int64, out⟩ ∧
          List.Forall₂ (CountsFraction u unit zone) rows out) ∧
    ∀ name ∈ zone, Calendar.offset? name = none →
      (node .int64 (.temporalFunction f) [x]).values fr context m =
        kernelFault (.unknownZone name) := by
  rw [values_temporal hfind, hx, Outcome.ok_bind]
  constructor
  -- With a known zone no row can fail, and the counts are those of the local times.
  · intro hzone
    have hsum : (f.onSeries ⟨.timestamp unit zone, rows⟩ >>= fun t ↦ t.cast .int64) = .ok (.counts
        (rows.map fun row ↦ row.bind fun ticks ↦ zonedTime? unit zone ticks.toInt)
        (TemporalFunction.sum f.parts)) := by
      refine TemporalFunction.onSeries_eq_counts rfl (Calendar.unknownZone?_eq_none_iff.2 hzone)
        (fun _ _ ↦ rfl) fun p hp t ht ↦ ?_
      obtain ⟨row, -, hrow⟩ := List.mem_map.1 ht
      obtain ⟨ticks, -, htime⟩ := Option.bind_eq_some_iff.1 hrow
      exact TemporalFunction.read_parts hf (Calendar.nanos_lt htime) p hp
    rw [hsum]
    refine ⟨_, rfl, ?_⟩
    rw [List.map_map]
    exact List.forall₂_map_right_iff.2
      (List.forall₂_same.2 fun row _ ↦ countsFraction hf zone row)
  · intro name hname hnone
    have hunknown : f.onSeries ⟨.timestamp unit zone, rows⟩ = kernelFault (.unknownZone name) :=
      TemporalFunction.onSeries_of_unknownZone rfl
        (Calendar.unknownZone?_eq_some_iff.2 ⟨hname, hnone⟩) fun _ _ ↦ rfl
    rw [hunknown]
    rfl

/-- Two times before 1970, and a null between them. -/
def eveFrame : Frame :=
  ⟨[⟨"seen", { series := ⟨.timestamp .microsecond (some "-03:30"),
    [some (FixedInt.wrap _ (-1)), none, some (FixedInt.wrap _ (-1234567))]⟩ }⟩], rfl⟩

/-- The column of `eveFrame`. -/
def seenColumn : Expr := node (.timestamp .microsecond (some "-03:30")) (.col "seen") []

/-- The last microsecond before 1970 is 999999 microseconds after the start of its second. -/
theorem values_subseconds_seen :
    TemporalFunction.fractionUnit? .nanosecond = some .nanosecond ∧
      ∃ out,
        (node .int64 (.temporalFunction .nanosecond) [seenColumn]).values eveFrame .frame .empty =
          .ok ⟨.int64, out⟩ ∧
        out.map (Option.map FixedInt.toInt) = [some 999999000, none, some 765433000] := by
  obtain ⟨hcounted, -⟩ := values_subseconds (f := .nanosecond) rfl
    (Mapping.find?_empty (node .int64 (.temporalFunction .nanosecond) [seenColumn]))
    (rfl : seenColumn.values eveFrame .frame .empty = _)
  obtain ⟨out, hout, hcounts⟩ := hcounted fun name hname ↦ Option.mem_some.1 hname ▸ rfl
  refine ⟨rfl, out, hout, ?_⟩
  obtain _ | ⟨hlast, _ | ⟨hnull, _ | ⟨hfirst, _ | _⟩⟩⟩ := hcounts
  obtain ⟨v, rfl, hv, -⟩ := hlast.count _ rfl rfl
  obtain ⟨w, rfl, hw, -⟩ := hfirst.count _ rfl rfl
  obtain rfl := hnull.null rfl
  simp only [List.map_cons, List.map_nil, Option.map_some, Option.map_none, hv, hw]
  rfl

end Expr

end Tabular
