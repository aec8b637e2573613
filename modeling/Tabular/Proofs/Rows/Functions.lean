import Tabular.Proofs.Rows.Tree

/-!
# Functions row by row

Agreement of a whole with its parts passes through any computation that continues from values that
agree (`Agrees.bind`), through the evaluation of a list of operands (`Agrees.bind_mapM`) and through
a fold (`Agrees.foldlM`). With these the choice between two columns (`Series.agrees_choose`), the
functions with Boolean results that look at one row at a time (`BooleanFunction.agrees_onColumns`),
and the components of dates and times (`TemporalFunction.agrees_onSeries`) are row by row.

None of these is an operation on a row in itself. A choice brings three operands to one length, a
connective folds over columns of which some may be single rows, and a sum of components is a chain
of operators. What a continuation needs of the values before it is only that they fit the places,
and this is what agreement gives it.

Agreement is about success and not about errors, which is of use here. A choice spreads its mask,
converts and then repeats (`Series.choose_eq_ok`), and the whole and one of its rows may come upon
different failures first.
-/

namespace Tabular

/-! ### Continuations -/

namespace Agrees

variable {n : Nat} {x : Outcome Series} {p : Nat → Outcome Series} {s : Series}

/-- A series agrees with its rows. -/
theorem of_fits (h : Fits s.rows n) : Agrees n (.ok s) fun i ↦ .ok (s.pick i) where
  fits hs := by
    injection hs with hs
    exact hs ▸ h
  pick hs i _ := by
    injection hs with hs
    rw [hs]
  complete _ := ⟨s, rfl⟩

/-- What fails on the whole and on the parts. -/
theorem of_error (hn : 0 < n) (hx : ∀ s, x ≠ .ok s) (hp : ∀ i < n, ∀ s, p i ≠ .ok s) :
    Agrees n x p where
  fits hs := absurd hs (hx _)
  pick hs := absurd hs (hx _)
  complete h := by
    obtain ⟨s, hs⟩ := h 0 hn
    exact absurd hs (hp 0 hn s)

/-- **A computation continues from values that agree**: it need agree only on those. -/
theorem bind {k : Series → Outcome Series} {kp : Nat → Series → Outcome Series}
    (h : Agrees n x p) (hk : ∀ s, x = .ok s → Agrees n (k s) fun i ↦ kp i (s.pick i)) :
    Agrees n (x >>= k) fun i ↦ p i >>= kp i where
  fits ht := by
    obtain ⟨s, hs, ht⟩ := Outcome.bind_eq_ok.1 ht
    exact (hk s hs).fits ht
  pick ht i hi := by
    obtain ⟨s, hs, ht⟩ := Outcome.bind_eq_ok.1 ht
    rw [h.pick hs i hi]
    exact (hk s hs).pick ht i hi
  complete hparts := by
    have hpart (i : Nat) (hi : i < n) : ∃ s, p i = .ok s ∧ ∃ t, kp i s = .ok t := by
      obtain ⟨t, ht⟩ := hparts i hi
      obtain ⟨s, hs, ht⟩ := Outcome.bind_eq_ok.1 ht
      exact ⟨s, hs, t, ht⟩
    obtain ⟨s, hs⟩ := h.complete fun i hi ↦ (hpart i hi).imp fun _ ↦ And.left
    rw [hs]
    refine (hk s hs).complete fun i hi ↦ ?_
    obtain ⟨s', hs', ht⟩ := hpart i hi
    rw [h.pick hs i hi] at hs'
    injection hs' with hs'
    exact hs' ▸ ht

/-- **Operands in a list** that agree, and a computation that agrees on their values. -/
theorem bind_mapM {α : Type} {as : List α} {V : α → Outcome Series}
    {P : Nat → α → Outcome Series} {K : List Series → Outcome Series}
    {L : Nat → List Series → Outcome Series} (h : ∀ a ∈ as, Agrees n (V a) (P · a))
    (hK : ∀ ss, as.mapM V = .ok ss → Agrees n (K ss) fun i ↦ L i (ss.map (·.pick i))) :
    Agrees n (as.mapM V >>= K) fun i ↦ as.mapM (P i) >>= L i := by
  induction as generalizing K L with
  | nil => exact hK [] rfl
  | cons a as ih =>
    simp only [List.mapM_cons, bind_assoc, pure_bind]
    refine (h a List.mem_cons_self).bind fun s hs ↦ ?_
    refine ih (K := fun ss ↦ K (s :: ss)) (L := fun i ss ↦ L i (s.pick i :: ss))
      (fun b hb ↦ h b (List.mem_cons_of_mem _ hb)) fun ss hss ↦ ?_
    refine hK (s :: ss) ?_
    rw [List.mapM_cons, hs, Outcome.ok_bind, hss]
    rfl

/-- A fold whose steps agree. -/
theorem foldlM {α : Type} {as : List α} {step : Series → α → Outcome Series}
    {stepAt : Nat → Series → α → Outcome Series}
    (hstep : ∀ a ∈ as, ∀ s, Fits s.rows n → Agrees n (step s a) fun i ↦ stepAt i (s.pick i) a)
    (hs : Fits s.rows n) :
    Agrees n (as.foldlM step s) fun i ↦ as.foldlM (stepAt i) (s.pick i) := by
  induction as generalizing s with
  | nil => exact of_fits hs
  | cons a as ih =>
    simp only [List.foldlM_cons]
    have hfirst := hstep a List.mem_cons_self s hs
    exact hfirst.bind fun t ht ↦
      ih (fun b hb ↦ hstep b (List.mem_cons_of_mem _ hb)) (hfirst.fits ht)

/-- An operation row by row on a series. -/
theorem elementwise {k : Series → Outcome Series} (hk : Series.Elementwise k) (hn : 0 < n)
    (hs : Fits s.rows n) : Agrees n (k s) fun i ↦ k (s.pick i) :=
  (of_fits hs).bind_elementwise hk hn

/-- An operation on pairs of rows of two series. -/
theorem pairwise {t : Series} {k : Series → Series → Outcome Series} (hk : Series.Pairwise k)
    (hn : 0 < n) (hs : Fits s.rows n) (ht : Fits t.rows n) :
    Agrees n (k s t) fun i ↦ k (s.pick i) (t.pick i) :=
  (of_fits hs).bind_pairwise (of_fits ht) hk hn

end Agrees

/-- Traversed values that agree with their parts fit. -/
theorem fits_of_mapM {α : Type} {n : Nat} {as : List α} {V : α → Outcome Series}
    {P : Nat → α → Outcome Series} (h : ∀ a ∈ as, Agrees n (V a) (P · a)) {ss : List Series}
    (hss : as.mapM V = .ok ss) : ∀ s ∈ ss, Fits s.rows n := by
  intro s hs
  obtain ⟨a, ha, has⟩ := Outcome.exists_of_mem_result hss hs
  exact (h a ha).fits has

/-! ### Choosing between two series -/

section Rows

variable {α β γ : Type} {n i : Nat}

/-- Rows that fit can be repeated to the places. -/
theorem Fits.exists_rowsFor {rows : List α} (h : Fits rows n) :
    ∃ out, Series.rowsFor rows n = .ok out := by
  unfold Series.rowsFor
  split
  · exact ⟨rows, rfl⟩
  · next hlen =>
    obtain ⟨x, rfl⟩ := List.length_eq_one_iff.1 (h.resolve_left hlen)
    exact ⟨_, rfl⟩

theorem length_of_rowsFor {rows out : List α} (h : Series.rowsFor rows n = .ok out) :
    out.length = n := by
  unfold Series.rowsFor at h
  split at h
  · next hlen =>
    injection h with h
    exact h ▸ hlen
  · split at h
    · injection h with h
      exact h ▸ List.length_replicate
    · cases h

/-- What stands at a place still stands there when a single row is repeated. -/
theorem rowAt_of_rowsFor {rows out : List α} (h : Series.rowsFor rows n = .ok out) {x : α}
    (hi : i < n ∨ n = 1) (hx : rowAt rows i = some x) : rowAt out i = some x := by
  unfold Series.rowsFor at h
  split at h
  · injection h with h
    exact h ▸ hx
  · split at h
    · next row hlen =>
      injection h with h
      injection hx with hx
      subst h hx
      unfold rowAt
      rw [List.length_replicate, List.getElem?_replicate, if_pos]
      split <;> omega
    · cases h

/-- Zipped rows stand where both stand. -/
theorem rowAt_zip {as : List α} {bs : List β} (hlen : as.length = bs.length) {a : α} {b : β}
    (ha : rowAt as i = some a) (hb : rowAt bs i = some b) : rowAt (as.zip bs) i = some (a, b) :=
  rowAt_pairRows (if_pos hlen) ha hb

/-- A mapped row stands where the row does. -/
theorem rowAt_map {as : List α} (f : α → β) {a : α} (ha : rowAt as i = some a) :
    rowAt (as.map f) i = some (f a) := by
  unfold rowAt at ha ⊢
  rw [List.length_map, List.getElem?_map, ha]
  rfl

end Rows

namespace Series

variable {d e : DataType} {n : Nat}

/-- Broadcasting repeats rows and keeps the type. -/
theorem broadcast_eq_ok {rows : List (Option d.Value)} {t : Series} :
    (⟨d, rows⟩ : Series).broadcast n = .ok t ↔
      ∃ out, rowsFor rows n = .ok out ∧ t = ⟨d, out⟩ := by
  unfold broadcast rowsFor length
  by_cases hlen : rows.length = n
  · rw [if_pos hlen, if_pos hlen]
    exact ok_mk_eq_ok
  · rw [if_neg hlen, if_neg hlen]
    match rows with
    | [row] => exact ok_mk_eq_ok
    | [] => exact ⟨nofun, fun ⟨_, h, _⟩ ↦ nomatch h⟩
    | _ :: _ :: _ => exact ⟨nofun, fun ⟨_, h, _⟩ ↦ nomatch h⟩

/-- The row chosen by a flag. -/
def chooseRow {α : Type} (flag : Option Bool) (row : α × α) : α :=
  if flag = some true then row.1 else row.2

/-- The rows that are chosen by flags. -/
def chosenRows {α : Type} (flags : List (Option Bool)) (yes no : List α) : List α :=
  (flags.zip (yes.zip no)).map fun p ↦ chooseRow p.1 p.2

section ChosenRows

variable {α : Type} {ms flags : List (Option Bool)} {ts out yes no : List α} {i : Nat}

/-- There is a chosen row for each place. -/
theorem length_chosenRows (hflags : rowsFor ms n = .ok flags) (hyes : rowsFor ts n = .ok yes)
    (hno : rowsFor out n = .ok no) : (chosenRows flags yes no).length = n := by
  rw [chosenRows, List.length_map, List.length_zip, List.length_zip, length_of_rowsFor hflags,
    length_of_rowsFor hyes, length_of_rowsFor hno, Nat.min_self, Nat.min_self]

/-- The row at a place is chosen by the flag there. -/
theorem rowAt_chosenRows (hflags : rowsFor ms n = .ok flags) (hyes : rowsFor ts n = .ok yes)
    (hno : rowsFor out n = .ok no) (hi : i < n ∨ n = 1) {x : Option Bool} {y z : α}
    (hx : rowAt ms i = some x) (hy : rowAt ts i = some y) (hz : rowAt out i = some z) :
    rowAt (chosenRows flags yes no) i = some (chooseRow x (y, z)) := by
  refine rowAt_map _ (rowAt_zip ?_ (rowAt_of_rowsFor hflags hi hx)
    (rowAt_zip ?_ (rowAt_of_rowsFor hyes hi hy) (rowAt_of_rowsFor hno hi hz)))
  · rw [List.length_zip, length_of_rowsFor hflags, length_of_rowsFor hyes, length_of_rowsFor hno,
      Nat.min_self]
  · rw [length_of_rowsFor hyes, length_of_rowsFor hno]

end ChosenRows

/-- A choice converts what stands for false and takes as many rows as the longest operand has. -/
theorem choose_eq_ok {ms : List (Option Bool)} {ts : List (Option d.Value)}
    {fs : List (Option e.Value)} {N : Nat} (hN : max ms.length (max ts.length fs.length) = N)
    {r : Series} :
    choose ⟨.boolean, ms⟩ ⟨d, ts⟩ ⟨e, fs⟩ = .ok r ↔
      ∃ flags, rowsFor ms N = .ok flags ∧ ∃ out, (⟨e, fs⟩ : Series).convertRows d = .ok out ∧
        ∃ yes, rowsFor ts N = .ok yes ∧ ∃ no, rowsFor out N = .ok no ∧
          r = ⟨d, chosenRows flags yes no⟩ := by
  subst hN
  have hzip (flags : List (Option Bool)) (yes no : List (Option d.Value)) :
      List.zipWith (fun flag (row : _ × _) ↦ if flag = some true then row.1 else row.2) flags
        (yes.zip no) = chosenRows flags yes no := by
    rw [chosenRows, List.map_zip_eq_zipWith]
    rfl
  simp only [choose, length, Outcome.bind_eq_ok, broadcast_eq_ok (d := .boolean), ← hzip]
  constructor
  · rintro ⟨_, ⟨flags, hflags, rfl⟩, h⟩
    obtain ⟨out, hout, h⟩ := Outcome.bind_eq_ok.1 h
    obtain ⟨yes, hyes, h⟩ := Outcome.bind_eq_ok.1 h
    obtain ⟨no, hno, h⟩ := Outcome.bind_eq_ok.1 h
    injection h with h
    exact ⟨flags, hflags, out, hout, yes, hyes, no, hno, h.symm⟩
  · rintro ⟨flags, hflags, out, hout, yes, hyes, no, hno, rfl⟩
    exact ⟨_, ⟨flags, hflags, rfl⟩, Outcome.bind_eq_ok.2 ⟨out, hout, Outcome.bind_eq_ok.2
      ⟨yes, hyes, Outcome.bind_eq_ok.2 ⟨no, hno, rfl⟩⟩⟩⟩

/-- A choice by what is no mask is refused. -/
theorem choose_ne_ok {mask truthy falsy r : Series} (hmask : mask.dtype ≠ .boolean) :
    choose mask truthy falsy ≠ .ok r := by
  intro h
  obtain ⟨⟨d, ms⟩, t, f⟩ := mask, truthy, falsy
  obtain ⟨m', hm', h⟩ := Outcome.bind_eq_ok.1 h
  obtain ⟨out, -, rfl⟩ := broadcast_eq_ok.1 hm'
  have hnone : (⟨d, out⟩ : Series).rowsAs? .boolean = none := dif_neg hmask
  simp only [hnone] at h
  cases h

/-- **A choice between two series agrees with its rows.** -/
theorem agrees_choose {mask truthy falsy : Series} (hn : 0 < n) (hm : Fits mask.rows n)
    (ht : Fits truthy.rows n) (hf : Fits falsy.rows n) :
    Agrees n (choose mask truthy falsy) fun i ↦
      choose (mask.pick i) (truthy.pick i) (falsy.pick i) := by
  have hdtype (s : Series) (i : Nat) : (s.pick i).dtype = s.dtype := by
    unfold pick
    split <;> rfl
  by_cases hmask : mask.dtype = .boolean
  · obtain ⟨dm, ms⟩ := mask
    obtain ⟨d, ts⟩ := truthy
    obtain ⟨e, fs⟩ := falsy
    subst hmask
    generalize hN : max ms.length (max ts.length fs.length) = N
    have hN' : N = n ∨ N = 1 := by
      unfold Fits at hm ht hf
      simp only at hm ht hf
      omega
    have hne : fs ≠ [] := hf.ne_nil hn
    have hfits {α : Type} {rows : List α} (h : Fits rows n) (hle : rows.length ≤ N) :
        Fits rows N := by
      unfold Fits at h ⊢
      omega
    -- the choice at one place
    have hpart {i : Nat} {x : Option Bool} {y : Option d.Value} {z : Option e.Value}
        (hx : rowAt ms i = some x) (hy : rowAt ts i = some y) (hz : rowAt fs i = some z)
        {r : Series} :
        choose (pick ⟨.boolean, ms⟩ i) (pick ⟨d, ts⟩ i) (pick ⟨e, fs⟩ i) = .ok r ↔
          ∃ z', convertRow e d z = .ok z' ∧ r = single d (chooseRow x (y, z')) := by
      rw [pick_eq (s := ⟨.boolean, ms⟩) hx, pick_eq (s := ⟨d, ts⟩) hy, pick_eq (s := ⟨e, fs⟩) hz]
      refine (choose_eq_ok rfl).trans ?_
      simp only [convertRows_eq_ok (List.cons_ne_nil z []), mapM_singleton_eq_ok]
      constructor
      · rintro ⟨_, ⟨⟩, _, ⟨z', hz', rfl⟩, _, ⟨⟩, _, ⟨⟩, rfl⟩
        exact ⟨z', hz', rfl⟩
      · rintro ⟨z', hz', rfl⟩
        exact ⟨_, rfl, _, ⟨z', hz', rfl⟩, _, rfl, _, rfl, rfl⟩
    refine ⟨fun hr ↦ ?_, fun hr i hi ↦ ?_, fun h ↦ ?_⟩
    · obtain ⟨flags, hflags, out, -, yes, hyes, no, hno, rfl⟩ := (choose_eq_ok hN).1 hr
      rw [Fits, length_chosenRows hflags hyes hno]
      exact hN'
    · obtain ⟨flags, hflags, out, hout, yes, hyes, no, hno, rfl⟩ := (choose_eq_ok hN).1 hr
      obtain ⟨x, hx⟩ := hm.exists_rowAt hi
      obtain ⟨y, hy⟩ := ht.exists_rowAt hi
      obtain ⟨z, hz⟩ := hf.exists_rowAt hi
      obtain ⟨z', hz', hconvert⟩ := (hf.mapM ((convertRows_eq_ok hne).1 hout)).2 i z hz
      exact (hpart hx hy hz).2 ⟨z', hconvert,
        pick_eq (rowAt_chosenRows hflags hyes hno (by omega) hx hy hz')⟩
    · obtain ⟨out, hout⟩ : ∃ out, fs.mapM (convertRow e d) = .ok out := by
        refine hf.exists_mapM hn fun i hi z hz ↦ ?_
        obtain ⟨x, hx⟩ := hm.exists_rowAt hi
        obtain ⟨y, hy⟩ := ht.exists_rowAt hi
        obtain ⟨r, hr⟩ := h i hi
        obtain ⟨z', hz', -⟩ := (hpart hx hy hz).1 hr
        exact ⟨z', hz'⟩
      have hlen := (Outcome.mapM_eq_ok.1 hout).length_eq
      obtain ⟨flags, hflags⟩ := (hfits hm (by simp only; omega)).exists_rowsFor
      obtain ⟨yes, hyes⟩ := (hfits ht (by simp only; omega)).exists_rowsFor
      obtain ⟨no, hno⟩ := (hfits (hf.mapM hout).1 (by omega)).exists_rowsFor
      exact ⟨_, (choose_eq_ok hN).2
        ⟨flags, hflags, out, (convertRows_eq_ok hne).2 hout, yes, hyes, no, hno, rfl⟩⟩
  · exact .of_error hn (fun _ ↦ choose_ne_ok hmask)
      fun i _ _ ↦ choose_ne_ok ((hdtype mask i).trans_ne hmask)

/-! ### Components of dates and times -/

/-- A component is read off each row. -/
theorem elementwise_component (c : DateComponent) : Elementwise (component c) := by
  intro d
  by_cases hc : d.hasComponent c = true ∧ Calendar.unknownZone? d.zone? = none
  · obtain ⟨hc, hzone⟩ := hc
    have hmap (time : Option d.Value → Option Calendar.DateTime)
        (htimes : ∀ rows, (⟨d, rows⟩ : Series).times? = some (rows.map time)) :
        ElementwiseOn d (component c) :=
      .of_map (.integer .int32)
        (fun row ↦ (time row).bind fun t ↦ FixedInt.ofInt? .int32 (c.read t)) fun rows ↦ by
          simp only [component, htimes, hc, hzone, List.map_map, Function.comp_def]
    cases d with
    | date32 => exact hmap _ fun rows ↦ rfl
    | date64 => exact hmap _ fun rows ↦ rfl
    | timestamp unit zone => exact hmap _ fun rows ↦ rfl
    | _ => exact absurd hc Bool.false_ne_true
  · -- neither a missing component nor an unknown zone depends on the rows
    refine .of_error fun rows ↦ ?_
    unfold component
    split
    · exact ⟨_, rfl⟩
    · next hcomponent hzone => exact absurd ⟨hcomponent, hzone⟩ hc
    · exact ⟨_, rfl⟩

end Series

namespace TemporalFunction

variable {n : Nat} {s : Series}

/-- The sum of multiples: series with their factors, added from left to right. -/
def total : List (Series × Series) → Outcome Series
  | [] => .error (.malformed "TemporalFunction")
  | (first, scale) :: rest => do
    let start ← first.combine (.arithmetic .mul) .int64 scale
    rest.foldlM (fun total part ↦ do
      total.combine (.arithmetic .add) .int64
        (← part.1.combine (.arithmetic .mul) .int64 part.2)) start

/-- A function of several components reads them all and then adds them up. -/
theorem onSeries_eq {f : TemporalFunction} (h : f.parts.length ≠ 1) :
    f.onSeries s = f.parts.mapM (fun p ↦ s.component p.1 >>= fun t ↦ t.cast .int64) >>= fun ss ↦
      total (ss.zip (f.parts.map fun p ↦ Series.ofInt p.2)) := by
  cases f with
  | microsecond => simp [onSeries, parts, List.mapM_cons, bind_assoc, total]
  | nanosecond => simp [onSeries, parts, List.mapM_cons, bind_assoc, total]
  | _ => exact absurd rfl h

/-- A sum agrees with its rows if the factors are single values. -/
theorem agrees_total (hn : 0 < n) {ps : List (Series × Series)} (hfits : ∀ p ∈ ps, Fits p.1.rows n)
    (hscale : ∀ p ∈ ps, p.2.length = 1) :
    Agrees n (total ps) fun i ↦ total (ps.map fun p ↦ (p.1.pick i, p.2)) := by
  have hmul (p : Series × Series) (hp : p ∈ ps) :
      Agrees n (p.1.combine (.arithmetic .mul) .int64 p.2) fun i ↦
        (p.1.pick i).combine (.arithmetic .mul) .int64 p.2 :=
    (Agrees.pairwise (Series.pairwise_combine _ _) hn (hfits p hp) (.inr (hscale p hp))).congr
      fun i _ ↦ by rw [show p.2.pick i = p.2 from if_pos (hscale p hp)]
  cases ps with
  | nil => exact .of_error hn nofun nofun
  | cons p ps =>
    simp only [total, List.map_cons, List.foldlM_map]
    refine (hmul p List.mem_cons_self).bind fun start hstart ↦ ?_
    refine Agrees.foldlM (fun q hq t ht ↦ ?_) ((hmul p List.mem_cons_self).fits hstart)
    have hq := hmul q (List.mem_cons_of_mem _ hq)
    exact hq.bind fun u hu ↦
      Agrees.pairwise (Series.pairwise_combine _ _) hn ht (hq.fits hu)

/-- **Components of dates and times agree with their rows.** -/
theorem agrees_onSeries (f : TemporalFunction) (hn : 0 < n) (hs : Fits s.rows n) :
    Agrees n (f.onSeries s) fun i ↦ f.onSeries (s.pick i) := by
  by_cases hparts : f.parts.length = 1
  · obtain ⟨⟨c, scale⟩, hc⟩ := List.length_eq_one_iff.1 hparts
    have hone (t : Series) : f.onSeries t = t.component c := by
      unfold onSeries
      rw [hc]
    simp only [hone]
    exact .elementwise (Series.elementwise_component c) hn hs
  · have hread (p : DateComponent × Nat) :=
      Agrees.elementwise ((Series.elementwise_component p.1).comp (Series.elementwise_cast .int64))
        hn hs
    simp only [onSeries_eq hparts]
    refine Agrees.bind_mapM (fun p _ ↦ hread p) fun ss hss ↦ ?_
    have hfits := fits_of_mapM (P := fun i p ↦ _) (fun p _ ↦ hread p) hss
    simp only [List.zip_map_left]
    refine agrees_total hn (fun p hp ↦ hfits _ (List.of_mem_zip hp).1) fun p hp ↦ ?_
    obtain ⟨q, -, hq⟩ := List.mem_map.1 (List.of_mem_zip hp).2
    exact hq ▸ rfl

end TemporalFunction

/-! ### Functions with Boolean results -/

namespace BooleanFunction

variable {n : Nat}

/-- Whether the function is a test of the rows of one column. -/
def isTest : BooleanFunction → Bool
  | isNull | isNotNull | isNan | isNotNan | isFinite | isInfinite | not => true
  | _ => false

/-- Whether the function looks at one row at a time. -/
def isRowWise : BooleanFunction → Bool
  | allHorizontal | anyHorizontal | isBetween _ => true
  | f => f.isTest

/-- A test for NaNs looks at each row. -/
theorem elementwise_nans (g : Option Bool → Option Bool) :
    Series.Elementwise fun s ↦ .ok (.ofFlags ((Column.nans { series := s }).map g)) := by
  intro d
  cases d with
  | float t =>
    cases ht : t.hasArithmetic with
    | true =>
      exact .of_map .boolean (fun x ↦ g (x.map Binary.isNan)) fun rows ↦ by
        simp only [Column.nans, Column.nanMask?, ht, if_true, List.map_map, Series.ofFlags,
          Function.comp_def]
    | false =>
      exact .of_map .boolean (fun x ↦ g (if x.isSome then some false else none)) fun rows ↦ by
        simp [Column.nans, Column.nanMask?, ht, Series.marked, Series.ofFlags]
  | null =>
    exact .of_map .boolean (fun _ ↦ g (some false)) fun rows ↦ by
      simp [Column.nans, Column.nanMask?, Series.marked, Series.ofFlags]
  | _ =>
    exact .of_map .boolean (fun x ↦ g (if x.isSome then some false else none)) fun rows ↦ by
      simp only [Column.nans, Column.nanMask?, Series.marked, List.map_map, Series.ofFlags,
        Function.comp_def]

/-- A test of numbers looks at each row, as a floating-point number. -/
theorem elementwise_test (p : Binary .double → Bool) :
    Series.Elementwise fun s ↦
      Column.test p { series := s } >>= fun flags ↦ .ok (.ofFlags flags) := by
  intro d
  refine ⟨.boolean, fun x ↦ Series.convertRow d .float64 x >>= fun y ↦ .ok (y.map p),
    fun rows t hne ↦ ?_⟩
  simp only [Column.test, Outcome.bind_eq_ok, Series.convertRows_eq_ok hne, mapM_bind_eq_ok,
    mapM_ok]
  constructor
  · rintro ⟨_, ⟨out, hout, ⟨⟩⟩, ⟨⟩⟩
    exact ⟨_, ⟨out, hout, rfl⟩, rfl⟩
  · rintro ⟨_, ⟨out, hout, ⟨⟩⟩, rfl⟩
    exact ⟨_, ⟨out, hout, rfl⟩, rfl⟩

theorem elementwise_not :
    Series.Elementwise fun s ↦ Column.flags { series := s } >>= fun flags ↦
      .ok (.ofFlags (flags.map (Option.map Bool.not))) := by
  intro d
  by_cases hd : d = .boolean
  · subst hd
    exact .of_map .boolean (Option.map Bool.not) fun rows ↦ rfl
  · refine .of_error fun rows ↦ ⟨.notBoolean d, ?_⟩
    have hnone : (⟨d, rows⟩ : Series).rowsAs? .boolean = none := dif_neg hd
    simp only [Column.flags, hnone]
    rfl

/-- A test looks at one row at a time. -/
theorem elementwise_onColumns {f : BooleanFunction} (hf : f.isTest = true) :
    Series.Elementwise fun s ↦ f.onColumns [{ series := s }] := by
  cases f with
  | isNull => exact fun d ↦ .of_map .boolean (fun x ↦ some x.isNone) fun _ ↦ rfl
  | isNotNull => exact fun d ↦ .of_map .boolean (fun x ↦ some x.isSome) fun _ ↦ rfl
  | isNan =>
    have hk := elementwise_nans id
    simp only [List.map_id] at hk
    exact hk
  | isNotNan => exact elementwise_nans (Option.map Bool.not)
  | isFinite => exact elementwise_test Binary.isFinite
  | isInfinite => exact elementwise_test Binary.isInfinite
  | not => exact elementwise_not
  | _ => cases hf

/-- A test is one of a single column. -/
theorem onColumns_ne_ok {f : BooleanFunction} (hf : f.isTest = true) {columns : List Column}
    (hlen : columns.length ≠ 1) (t : Series) : f.onColumns columns ≠ .ok t := by
  intro h
  match columns with
  | [] => cases f <;> cases h
  | [_] => exact hlen rfl
  | _ :: _ :: _ => cases f <;> first | cases h | cases hf

/-- A test agrees with its rows, whatever the number of columns it is given. -/
theorem agrees_test {f : BooleanFunction} (hf : f.isTest = true) (hn : 0 < n) {ss : List Series}
    (hss : ∀ s ∈ ss, Fits s.rows n) :
    Agrees n (f.onColumns (ss.map fun s ↦ { series := s })) fun i ↦
      f.onColumns (ss.map fun s ↦ { series := s.pick i }) := by
  by_cases hlen : ss.length = 1
  · obtain ⟨s, rfl⟩ := List.length_eq_one_iff.1 hlen
    exact .elementwise (elementwise_onColumns hf) hn (hss s List.mem_cons_self)
  · exact .of_error hn (onColumns_ne_ok hf (by rwa [List.length_map]))
      fun i _ ↦ onColumns_ne_ok hf (by rwa [List.length_map])

/-- A connective of columns agrees with their rows. -/
theorem agrees_fold (c : Connective) (hn : 0 < n) {ss : List Series}
    (hss : ∀ s ∈ ss, Fits s.rows n) :
    Agrees n (fold c (ss.map fun s ↦ { series := s })) fun i ↦
      fold c (ss.map fun s ↦ { series := s.pick i }) := by
  cases ss with
  | nil => exact .of_error hn nofun nofun
  | cons s ss =>
    simp only [fold, List.map_cons, List.foldlM_map]
    exact Agrees.foldlM (fun t ht total htotal ↦
      .pairwise (Series.pairwise_combine _ _) hn htotal (hss t (List.mem_cons_of_mem _ ht)))
      (hss s List.mem_cons_self)

/-- A row is in an interval by the bounds at its place. -/
theorem agrees_between (closed : ClosedInterval) (hn : 0 < n) {s lower upper : Series}
    (hs : Fits s.rows n) (hl : Fits lower.rows n) (hu : Fits upper.rows n) :
    Agrees n (between closed s lower upper) fun i ↦
      between closed (s.pick i) (lower.pick i) (upper.pick i) := by
  have habove := Agrees.pairwise
    (Series.pairwise_combine (.comparison (boundTests closed).1) .boolean) hn hs hl
  have hbelow := Agrees.pairwise
    (Series.pairwise_combine (.comparison (boundTests closed).2) .boolean) hn hs hu
  exact habove.bind_pairwise hbelow (Series.pairwise_combine (.logical .kleeneAnd) .boolean) hn

/-- **Boolean functions of single rows agree with them.** -/
theorem agrees_onColumns {f : BooleanFunction} (hf : f.isRowWise = true) (hn : 0 < n)
    {ss : List Series} (hss : ∀ s ∈ ss, Fits s.rows n) :
    Agrees n (f.onColumns (ss.map fun s ↦ { series := s })) fun i ↦
      f.onColumns (ss.map fun s ↦ { series := s.pick i }) := by
  by_cases htest : f.isTest = true
  · exact agrees_test htest hn hss
  · cases f with
    | allHorizontal => exact agrees_fold .kleeneAnd hn hss
    | anyHorizontal => exact agrees_fold .kleeneOr hn hss
    | isBetween closed =>
      match ss, hss with
      | [s, lower, upper], hss =>
        exact agrees_between closed hn (hss s (by simp)) (hss lower (by simp))
          (hss upper (by simp))
      | [], _ | [_], _ | [_, _], _ | _ :: _ :: _ :: _ :: _, _ => exact .of_error hn nofun nofun
    | _ => exact absurd hf htest

end BooleanFunction

end Tabular
