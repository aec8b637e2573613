import Tabular.Proofs.Rows.Kernels

/-!
# Operators on pairs of rows

A binary operator first converts its operands and then pairs their rows, or pairs first and converts
then. On rows that can be paired at all the two ways come to the same, a conversion of pairs
(`onPair`, `pairRows_mapM`), and the operators differ only in what follows it. So every binary
operator works on pairs of rows (`Series.pairwise_combine`), and gives the type that it is asked for
(`Series.dtype_combine`).

The two ways are not the same on operands of lengths that do not fit, where one of them may fail to
convert before the other fails to pair; this is why the pairs are a hypothesis here.

What an operator does with a pair of rows depends on the types of both and on the type that is asked
for, so it is stated for two given types (`Series.PairwiseOn`). Types that the operator refuses
count as a function of pairs that always fails (`Series.PairwiseOn.of_error`), and the statement for
all types needs no condition.
-/

namespace Tabular

/-! ### Pairs -/

section Pairs

variable {α β α' β' : Type} {as : List α} {bs : List β} {as' : List α'} {bs' : List β'}
  {ps : List (α × β)} {ps' : List (α' × β')}

/-- Both components of a pair carried over. -/
def onPair (f : α → Outcome α') (g : β → Outcome β') (p : α × β) : Outcome (α' × β') := do
  .ok (← f p.1, ← g p.2)

/-- A pair is carried over if both components are. -/
theorem onPair_eq_ok {f : α → Outcome α'} {g : β → Outcome β'} {p : α × β} {p' : α' × β'} :
    onPair f g p = .ok p' ↔ f p.1 = .ok p'.1 ∧ g p.2 = .ok p'.2 := by
  unfold onPair
  constructor
  · intro h
    obtain ⟨a, ha, h⟩ := Outcome.bind_eq_ok.1 h
    obtain ⟨b, hb, h⟩ := Outcome.bind_eq_ok.1 h
    injection h with h
    exact h ▸ ⟨ha, hb⟩
  · rintro ⟨ha, hb⟩
    rw [ha, hb]
    rfl

/-- Rows that correspond are paired alike. -/
theorem forall₂_pairRows {R : α → α' → Prop} {S : β → β' → Prop} (hR : List.Forall₂ R as as')
    (hS : List.Forall₂ S bs bs') (h : pairRows as bs = .ok ps) :
    ∃ ps', pairRows as' bs' = .ok ps' ∧
      List.Forall₂ (fun p p' ↦ R p.1 p'.1 ∧ S p.2 p'.2) ps ps' := by
  have hzip {as : List α} {as' : List α'} {bs : List β} {bs' : List β'}
      (hR : List.Forall₂ R as as') (hS : List.Forall₂ S bs bs') :
      List.Forall₂ (fun p p' ↦ R p.1 p'.1 ∧ S p.2 p'.2) (as.zip bs) (as'.zip bs') := by
    induction hR generalizing bs bs' with
    | nil => exact .nil
    | cons hr _ ih =>
      cases hS with
      | nil => exact .nil
      | cons hs hS => exact .cons ⟨hr, hs⟩ (ih hS)
  unfold pairRows at h ⊢
  rw [← hR.length_eq, ← hS.length_eq]
  split at h
  · next hlen =>
    injection h with h
    rw [if_pos hlen]
    exact ⟨_, rfl, h ▸ hzip hR hS⟩
  · next hlen =>
    rw [if_neg hlen]
    split at h
    · injection h with h
      obtain ⟨a', _, hr, hnil, rfl⟩ := List.forall₂_cons_left_iff.1 hR
      rw [List.forall₂_nil_left_iff.1 hnil]
      refine ⟨_, rfl, ?_⟩
      rw [← h, List.forall₂_map_left_iff, List.forall₂_map_right_iff]
      exact hS.imp fun _ _ hs ↦ ⟨hr, hs⟩
    · next hone =>
      injection h with h
      obtain ⟨b', _, hs, hnil, rfl⟩ := List.forall₂_cons_left_iff.1 hS
      rw [List.forall₂_nil_left_iff.1 hnil]
      refine ⟨as'.map (·, b'), ?_, ?_⟩
      · -- the first operand is no single row, or the lengths would agree
        match as', hR with
        | [], _ => rfl
        | [_], .cons _ .nil => exact absurd rfl hlen
        | _ :: _ :: _, _ => rfl
      · rw [← h, List.forall₂_map_left_iff, List.forall₂_map_right_iff]
        exact hR.imp fun _ _ hr ↦ ⟨hr, hs⟩
    · cases h

/-- Every row takes part in a pair, unless there are no pairs. -/
theorem exists_mem_pairRows (h : pairRows as bs = .ok ps) (hne : ps ≠ []) :
    (∀ a ∈ as, ∃ p ∈ ps, p.1 = a) ∧ ∀ b ∈ bs, ∃ p ∈ ps, p.2 = b := by
  rcases pairRows_cases h with ⟨hlen, rfl⟩ | ⟨a, rfl, rfl⟩ | ⟨b, rfl, rfl⟩
  · have hfst : (as.zip bs).map Prod.fst = as := List.map_fst_zip (Nat.le_of_eq hlen)
    have hsnd : (as.zip bs).map Prod.snd = bs := List.map_snd_zip (Nat.le_of_eq hlen.symm)
    exact ⟨fun a ha ↦ List.mem_map.1 (hfst.symm ▸ ha), fun b hb ↦ List.mem_map.1 (hsnd.symm ▸ hb)⟩
  · obtain ⟨b, hb⟩ := List.exists_mem_of_ne_nil _ (mt List.map_eq_nil_iff.2 hne)
    refine ⟨fun a' ha ↦ ⟨(a, b), List.mem_map_of_mem hb, (List.mem_singleton.1 ha).symm⟩, ?_⟩
    exact fun b hb ↦ ⟨(a, b), List.mem_map_of_mem hb, rfl⟩
  · obtain ⟨a, ha⟩ := List.exists_mem_of_ne_nil _ (mt List.map_eq_nil_iff.2 hne)
    refine ⟨fun a ha ↦ ⟨(a, b), List.mem_map_of_mem ha, rfl⟩, ?_⟩
    exact fun b' hb ↦ ⟨(a, b), List.mem_map_of_mem ha, (List.mem_singleton.1 hb).symm⟩

/-- Operands of pairs have rows if there are pairs. -/
theorem ne_nil_of_pairRows (h : pairRows as bs = .ok ps) (hne : ps ≠ []) : as ≠ [] ∧ bs ≠ [] := by
  rcases pairRows_cases h with ⟨hlen, rfl⟩ | ⟨a, rfl, rfl⟩ | ⟨b, rfl, rfl⟩
  · constructor
    · rintro rfl
      exact hne rfl
    · rintro rfl
      exact hne List.zip_nil_right
  · exact ⟨List.cons_ne_nil _ _, mt List.map_eq_nil_iff.2 hne⟩
  · exact ⟨mt List.map_eq_nil_iff.2 hne, List.cons_ne_nil _ _⟩

/-- **Converting and then pairing is pairing and then converting.** -/
theorem pairRows_mapM (h : pairRows as bs = .ok ps) (hne : ps ≠ []) (f : α → Outcome α')
    (g : β → Outcome β') :
    (∃ as' bs', as.mapM f = .ok as' ∧ bs.mapM g = .ok bs' ∧ pairRows as' bs' = .ok ps') ↔
      ps.mapM (onPair f g) = .ok ps' := by
  have hforward {as' : List α'} {bs' : List β'} (hf : as.mapM f = .ok as')
      (hg : bs.mapM g = .ok bs') :
      ∃ ps', pairRows as' bs' = .ok ps' ∧ ps.mapM (onPair f g) = .ok ps' := by
    obtain ⟨ps', hps', hrel⟩ :=
      forall₂_pairRows (Outcome.mapM_eq_ok.1 hf) (Outcome.mapM_eq_ok.1 hg) h
    exact ⟨ps', hps', Outcome.mapM_eq_ok.2 (hrel.imp fun _ _ ↦ onPair_eq_ok.2)⟩
  constructor
  · rintro ⟨as', bs', hf, hg, hps'⟩
    obtain ⟨ps'', hps'', hmap⟩ := hforward hf hg
    rwa [hps', ← hmap, eq_comm] at hps''
  · intro hmap
    -- every row is in a pair, so that its conversion succeeds with the pair's
    have hall (p : α × β) (hp : p ∈ ps) : (∃ a, f p.1 = .ok a) ∧ ∃ b, g p.2 = .ok b := by
      obtain ⟨p', -, hp'⟩ := Outcome.exists_of_mem hmap hp
      have hp' := onPair_eq_ok.1 hp'
      exact ⟨⟨_, hp'.1⟩, _, hp'.2⟩
    obtain ⟨hleft, hright⟩ := exists_mem_pairRows h hne
    obtain ⟨as', hf⟩ : ∃ as', as.mapM f = .ok as' := Outcome.exists_mapM_eq_ok fun a ha ↦ by
      obtain ⟨p, hp, rfl⟩ := hleft a ha
      exact (hall p hp).1
    obtain ⟨bs', hg⟩ : ∃ bs', bs.mapM g = .ok bs' := Outcome.exists_mapM_eq_ok fun b hb ↦ by
      obtain ⟨p, hp, rfl⟩ := hright b hb
      exact (hall p hp).2
    obtain ⟨ps'', hps'', hmap'⟩ := hforward hf hg
    refine ⟨as', bs', hf, hg, ?_⟩
    rw [hps'', ← hmap', hmap]

end Pairs

namespace Series

variable {d d' e : DataType}

/-! ### Operations with two operands -/

/-- The conversion of a pair of rows. -/
def convertPair (d e d' e' : DataType) :
    Option d.Value × Option e.Value → Outcome (Option d'.Value × Option e'.Value) :=
  onPair (convertRow d d') (convertRow e e')

section Operands

variable {d₁ e₁ : DataType} {as : List (Option d.Value)} {bs : List (Option e.Value)}
  {ps : List (Option d.Value × Option e.Value)} {ps' : List (Option d₁.Value × Option e₁.Value)}

/-- Operands brought to one length are the components of their pairs. -/
theorem spread_eq (h : pairRows as bs = .ok ps) (hne : ps ≠ []) :
    spread ⟨d, as⟩ ⟨e, bs⟩ = .ok (⟨d, ps.map Prod.fst⟩, ⟨e, ps.map Prod.snd⟩) := by
  obtain ⟨has, hbs⟩ := ne_nil_of_pairRows h hne
  have hapos := List.length_pos_iff.2 has
  have hbpos := List.length_pos_iff.2 hbs
  have hspread {n : Nat} {s t : Series} (hn : max as.length bs.length = n)
      (hs : (⟨d, as⟩ : Series).broadcast n = .ok s) (ht : (⟨e, bs⟩ : Series).broadcast n = .ok t) :
      spread ⟨d, as⟩ ⟨e, bs⟩ = .ok (s, t) := by
    subst hn
    simp only [spread, length, hs, ht, Outcome.ok_bind]
  rcases pairRows_cases h with ⟨hlen, rfl⟩ | ⟨a, rfl, rfl⟩ | ⟨b, rfl, rfl⟩
  · rw [hspread (by omega : _ = as.length) (broadcast_self rfl) (broadcast_self hlen.symm),
      List.map_fst_zip (Nat.le_of_eq hlen), List.map_snd_zip (Nat.le_of_eq hlen.symm)]
  · rw [hspread (Nat.max_eq_right hbpos) (broadcast_single a _) (broadcast_self rfl)]
    simp only [List.map_map, Function.comp_def, List.map_const', List.map_id']
  · rw [hspread (Nat.max_eq_left hapos) (broadcast_self rfl) (broadcast_single b _)]
    simp only [List.map_map, Function.comp_def, List.map_const', List.map_id']

/-- Operands that are converted and then paired. -/
theorem pairRows_convertRows (h : pairRows as bs = .ok ps) (hne : ps ≠ []) :
    (∃ as' bs', (⟨d, as⟩ : Series).convertRows d₁ = .ok as' ∧
      (⟨e, bs⟩ : Series).convertRows e₁ = .ok bs' ∧ pairRows as' bs' = .ok ps') ↔
      ps.mapM (convertPair d e d₁ e₁) = .ok ps' := by
  obtain ⟨has, hbs⟩ := ne_nil_of_pairRows h hne
  rw [convertPair, ← pairRows_mapM h hne]
  simp only [convertRows_eq_ok has, convertRows_eq_ok hbs]

/-- Operands that are brought to one length and then converted. -/
theorem spread_convertRows (h : pairRows as bs = .ok ps) (hne : ps ≠ []) :
    (∃ s, spread ⟨d, as⟩ ⟨e, bs⟩ = .ok s ∧ ∃ as', s.1.convertRows d₁ = .ok as' ∧
      ∃ bs', s.2.convertRows e₁ = .ok bs' ∧ as'.zip bs' = ps') ↔
      ps.mapM (convertPair d e d₁ e₁) = .ok ps' := by
  -- brought to one length, the operands are paired again as they were
  have hlen : (ps.map Prod.fst).length = (ps.map Prod.snd).length := by
    rw [List.length_map, List.length_map]
  have hzip : pairRows (ps.map Prod.fst) (ps.map Prod.snd) = .ok ps :=
    (if_pos hlen).trans (congrArg _ (List.zip_of_prod rfl rfl).symm)
  have hpair {as' : List (Option d₁.Value)} {bs' : List (Option e₁.Value)}
      (has' : (⟨d, ps.map Prod.fst⟩ : Series).convertRows d₁ = .ok as')
      (hbs' : (⟨e, ps.map Prod.snd⟩ : Series).convertRows e₁ = .ok bs') :
      pairRows as' bs' = .ok (as'.zip bs') := by
    refine if_pos ?_
    rw [length_of_convertRows has', length_of_convertRows hbs', List.length_map, List.length_map]
  rw [← pairRows_convertRows hzip hne, spread_eq h hne]
  constructor
  · rintro ⟨_, ⟨⟩, as', has', bs', hbs', rfl⟩
    exact ⟨as', bs', has', hbs', hpair has' hbs'⟩
  · rintro ⟨as', bs', has', hbs', hps'⟩
    rw [hpair has' hbs'] at hps'
    injection hps' with hps'
    exact ⟨_, rfl, as', has', bs', hbs', hps'⟩

end Operands

section TwoOperands

variable {k : Series → Series → Outcome Series}

/-- An operation that two types are refused to. -/
theorem PairwiseOn.of_error (h : ∀ as bs, ∃ err, k ⟨d, as⟩ ⟨e, bs⟩ = .error err) :
    PairwiseOn d e k := by
  obtain ⟨err, -⟩ := h [] []
  refine ⟨d, fun _ ↦ .error err, fun as bs ps t _ hne ↦ ?_⟩
  obtain ⟨err', hk⟩ := h as bs
  rw [hk]
  exact ⟨nofun, fun ⟨_, hout, _⟩ ↦ absurd hout (Outcome.mapM_error_ne_ok hne)⟩

/-- An operation that prepares the pairs of rows and then computes with each. -/
theorem PairwiseOn.of_bind (d' : DataType) {α : Type}
    {f : Option d.Value × Option e.Value → Outcome α} {g : α → Outcome (Option d'.Value)}
    (h : ∀ as bs ps t, pairRows as bs = .ok ps → ps ≠ [] → (k ⟨d, as⟩ ⟨e, bs⟩ = .ok t ↔
      ∃ ps', ps.mapM f = .ok ps' ∧ ∃ out, ps'.mapM g = .ok out ∧ t = ⟨d', out⟩)) :
    PairwiseOn d e k := by
  refine ⟨d', fun p ↦ f p >>= g, fun as bs ps t hps hne ↦ ?_⟩
  rw [h as bs ps t hps hne]
  simp only [mapM_bind_eq_ok]
  constructor
  · rintro ⟨ps', hps', out, hout, ht⟩
    exact ⟨out, ⟨ps', hps', hout⟩, ht⟩
  · rintro ⟨out, ⟨ps', hps', hout⟩, ht⟩
    exact ⟨ps', hps', out, hout, ht⟩

/-- An operation that converts the pairs of rows and then computes with each, without failing. -/
theorem PairwiseOn.of_map (d' : DataType) {α : Type}
    {f : Option d.Value × Option e.Value → Outcome α} {g : α → Option d'.Value}
    (h : ∀ as bs ps t, pairRows as bs = .ok ps → ps ≠ [] → (k ⟨d, as⟩ ⟨e, bs⟩ = .ok t ↔
      ∃ ps', ps.mapM f = .ok ps' ∧ t = ⟨d', ps'.map g⟩)) : PairwiseOn d e k := by
  refine .of_bind d' (f := f) (g := fun x ↦ .ok (g x)) fun as bs ps t hps hne ↦ ?_
  rw [h as bs ps t hps hne]
  refine exists_congr fun ps' ↦ and_congr_right fun _ ↦ ?_
  rw [mapM_ok]
  constructor
  · rintro rfl
    exact ⟨_, rfl, rfl⟩
  · rintro ⟨_, ⟨⟩, rfl⟩
    rfl

end TwoOperands

/-! ### Binary operators -/

/-- Rows of the right type are not converted. -/
@[simp]
theorem convertRows_self (rows : List (Option d.Value)) :
    (⟨d, rows⟩ : Series).convertRows d = .ok rows :=
  dif_pos rfl

/-- The type in which rows of two types are compared. -/
def comparedAs (d e : DataType) : DataType := if d = e then d else (d.common? e).getD d

/-- Operands that are brought to one type are both converted to it. -/
theorem coerce_eq_ok {d₁ : DataType} (hd : comparedAs d e = d₁) {as : List (Option d.Value)}
    {bs : List (Option e.Value)} {p : Series × Series} :
    coerce ⟨d, as⟩ ⟨e, bs⟩ = .ok p ↔
      ∃ as' bs', (⟨d, as⟩ : Series).convertRows d₁ = .ok as' ∧
        (⟨e, bs⟩ : Series).convertRows d₁ = .ok bs' ∧ p = (⟨d₁, as'⟩, ⟨d₁, bs'⟩) := by
  unfold comparedAs at hd
  by_cases hde : d = e
  · subst hde
    obtain rfl : d = d₁ := (if_pos rfl).symm.trans hd
    rw [coerce, if_pos rfl, convertRows_self, convertRows_self]
    constructor
    · intro h
      injection h with h
      exact ⟨as, bs, rfl, rfl, h.symm⟩
    · rintro ⟨_, _, ⟨⟩, ⟨⟩, rfl⟩
      rfl
  · rw [if_neg hde] at hd
    subst hd
    rw [coerce, if_neg hde]
    simp only [convert, Outcome.bind_eq_ok]
    constructor
    · rintro ⟨_, ⟨as', has', ⟨⟩⟩, _, ⟨bs', hbs', ⟨⟩⟩, ⟨⟩⟩
      exact ⟨as', bs', has', hbs', rfl⟩
    · rintro ⟨as', bs', has', hbs', rfl⟩
      exact ⟨_, ⟨as', has', rfl⟩, _, ⟨bs', hbs', rfl⟩, rfl⟩

/-- A comparison converts both operands to one type, which must not be one of lists. -/
theorem compare_eq_ok {c : Comparison} {d₁ : DataType} (hd : comparedAs d e = d₁)
    {as : List (Option d.Value)} {bs : List (Option e.Value)} {flags : List (Option Bool)} :
    compare c ⟨d, as⟩ ⟨e, bs⟩ = .ok flags ↔
      d₁.isList = false ∧ ∃ ps, (∃ as' bs', (⟨d, as⟩ : Series).convertRows d₁ = .ok as' ∧
        (⟨e, bs⟩ : Series).convertRows d₁ = .ok bs' ∧ pairRows as' bs' = .ok ps) ∧
        flags = ps.map (c.onRows d₁) := by
  simp only [compare, Outcome.bind_eq_ok, coerce_eq_ok hd]
  constructor
  · rintro ⟨_, ⟨as', bs', has', hbs', rfl⟩, _, hself, ps, hps, h⟩
    rw [convertRows_self] at hself
    injection hself with hself
    subst hself
    split at h
    · cases h
    · next hlist =>
      injection h with h
      exact ⟨Bool.eq_false_iff.2 hlist, ps, ⟨as', bs', has', hbs', hps⟩, h.symm⟩
  · rintro ⟨hlist, ps, ⟨as', bs', has', hbs', hps⟩, rfl⟩
    refine ⟨_, ⟨as', bs', has', hbs', rfl⟩, bs', convertRows_self bs', ps, hps, ?_⟩
    exact if_neg (Bool.eq_false_iff.1 hlist)

/-- Single rows of one type are compared as they are. -/
theorem combine_comparison_single (c : Comparison) (hd : d.isList = false) (a b : Option d.Value) :
    (⟨d, [a]⟩ : Series).combine (.comparison c) .boolean ⟨d, [b]⟩ =
      .ok (ofFlags [c.onRows d (a, b)]) := by
  have hcompare : compare c ⟨d, [a]⟩ ⟨d, [b]⟩ = .ok [c.onRows d (a, b)] :=
    (compare_eq_ok (if_pos rfl)).2
      ⟨hd, [(a, b)], ⟨[a], [b], convertRows_self _, convertRows_self _, rfl⟩, rfl⟩
  have hsupports : (BinaryOp.comparison c).supports .boolean d d = true := by
    simp [BinaryOp.supports]
  rw [combine, if_pos hsupports, apply, hcompare]
  rfl

theorem pairwise_compare (c : Comparison) :
    Pairwise fun l r ↦ l.compare c r >>= fun flags ↦ .ok (ofFlags flags) := by
  intro d e
  by_cases hlist : (comparedAs d e).isList = false
  · refine .of_map .boolean (f := convertPair d e (comparedAs d e) (comparedAs d e))
      (g := c.onRows (comparedAs d e)) fun as bs ps t hps hne ↦ ?_
    simp only [← pairRows_convertRows hps hne, Outcome.bind_eq_ok, compare_eq_ok rfl, hlist,
      true_and]
    constructor
    · rintro ⟨_, ⟨ps', hps', rfl⟩, ⟨⟩⟩
      exact ⟨ps', hps', rfl⟩
    · rintro ⟨ps', hps', rfl⟩
      exact ⟨_, ⟨ps', hps', rfl⟩, rfl⟩
  · refine .of_error fun as bs ↦ ?_
    rw [← Outcome.not_ok_iff]
    rintro ⟨t, ht⟩
    obtain ⟨flags, hflags, -⟩ := Outcome.bind_eq_ok.1 ht
    exact hlist ((compare_eq_ok rfl).1 hflags).1

section Spread

variable {as : List (Option d.Value)} {bs : List (Option e.Value)}
  {ps : List (Option d.Value × Option e.Value)}

/-- Operands of a connective are pairs of truth values. -/
theorem flagPairs_eq_ok (h : pairRows as bs = .ok ps) (hne : ps ≠ [])
    {ps' : List (Option Bool × Option Bool)} :
    flagPairs ⟨d, as⟩ ⟨e, bs⟩ = .ok ps' ↔
      ps.mapM (convertPair d e .boolean .boolean) = .ok ps' := by
  rw [← spread_convertRows h hne]
  simp only [flagPairs, Outcome.bind_eq_ok, Except.ok.injEq]

theorem pairwise_connect (c : Connective) :
    Pairwise fun l r ↦ l.connect c r >>= fun flags ↦ .ok (ofFlags flags) := by
  refine fun d e ↦ .of_map .boolean (f := convertPair d e .boolean .boolean)
    (g := c.onRows) fun as bs ps t hps hne ↦ ?_
  simp only [connect, Outcome.bind_eq_ok, flagPairs_eq_ok hps hne]
  constructor
  · rintro ⟨_, ⟨ps', hps', ⟨⟩⟩, ⟨⟩⟩
    exact ⟨ps', hps', rfl⟩
  · rintro ⟨ps', hps', rfl⟩
    exact ⟨_, ⟨ps', hps', rfl⟩, rfl⟩

theorem pairwise_bitwiseFlags (b : Bitwise) :
    Pairwise fun l r ↦ l.bitwiseFlags b r >>= fun flags ↦ .ok (ofFlags flags) := by
  refine fun d e ↦ .of_map .boolean (f := convertPair d e .boolean .boolean)
    (g := b.onFlags) fun as bs ps t hps hne ↦ ?_
  simp only [bitwiseFlags, Outcome.bind_eq_ok, flagPairs_eq_ok hps hne]
  constructor
  · rintro ⟨_, ⟨ps', hps', ⟨⟩⟩, ⟨⟩⟩
    exact ⟨ps', hps', rfl⟩
  · rintro ⟨ps', hps', rfl⟩
    exact ⟨_, ⟨ps', hps', rfl⟩, rfl⟩

theorem pairwise_bitwiseInts (b : Bitwise) (t : IntType) :
    Pairwise fun l r ↦ l.bitwiseInts b t r >>= fun rows ↦ .ok ⟨.integer t, rows⟩ := by
  refine fun d e ↦ .of_map (.integer t) (f := convertPair d e (.integer t) (.integer t))
    (g := onBoth fun x y ↦ some (b.onInts x y)) fun as bs ps u hps hne ↦ ?_
  simp only [← spread_convertRows hps hne, bitwiseInts, Outcome.bind_eq_ok]
  constructor
  · rintro ⟨_, ⟨s, hs, as', has', bs', hbs', ⟨⟩⟩, ⟨⟩⟩
    exact ⟨_, ⟨s, hs, as', has', bs', hbs', rfl⟩, rfl⟩
  · rintro ⟨_, ⟨s, hs, as', has', bs', hbs', rfl⟩, rfl⟩
    exact ⟨_, ⟨s, hs, as', has', bs', hbs', rfl⟩, rfl⟩

/-- Operands of arithmetic are converted pairs, in whichever order it is done. -/
theorem operandPairs_eq_ok (h : pairRows as bs = .ok ps) (hne : ps ≠ []) (op : Arithmetic)
    {d' : DataType} {ps' : List (Option d'.Value × Option d'.Value)} :
    operandPairs op d' ⟨d, as⟩ ⟨e, bs⟩ = .ok ps' ↔ ps.mapM (convertPair d e d' d') = .ok ps' := by
  unfold operandPairs
  split
  · rw [← spread_convertRows h hne]
    simp only [Outcome.bind_eq_ok, Except.ok.injEq]
  · rw [← pairRows_convertRows h hne]
    simp only [Outcome.bind_eq_ok, exists_and_left]

theorem pairwise_calculate (op : Arithmetic) (out : DataType) :
    Pairwise fun l r ↦ l.calculate op out r := by
  intro d e
  -- all but true division compute in the type of the result
  have htotal (d' : DataType) (g : Option d'.Value × Option d'.Value → Option d'.Value)
      (hcalc : ∀ l r : Series, l.calculate op out r =
        l.operandPairs op d' r >>= fun pairs ↦ .ok ⟨d', pairs.map g⟩) :
      PairwiseOn d e fun l r ↦ l.calculate op out r := by
    refine .of_map d' (f := convertPair d e d' d') (g := g) fun as bs ps t hps hne ↦ ?_
    simp only [hcalc, Outcome.bind_eq_ok, operandPairs_eq_ok hps hne]
    exact exists_congr fun ps' ↦ and_congr_right fun _ ↦ Outcome.ok_eq_ok
  have hrefused (hcalc : ∀ l r : Series, l.calculate op out r =
      kernelFault (.conversion l.dtype out)) : PairwiseOn d e fun l r ↦ l.calculate op out r :=
    .of_error fun as bs ↦ ⟨_, hcalc _ _⟩
  by_cases hop : op = .trueDiv
  · subst hop
    refine .of_bind out (f := convertPair d e .float64 .float64)
      (g := fun p ↦ convertRow .float64 out (onBoth (fun a b ↦ some (a.div b)) p))
      fun as bs ps t hps hne ↦ ?_
    simp only [calculate, convert, Outcome.bind_eq_ok, operandPairs_eq_ok hps hne]
    refine exists_congr fun ps' ↦ and_congr_right fun hps' ↦ exists_congr fun out ↦ ?_
    have hne' : ps' ≠ [] := Outcome.ne_nil_of_mapM hps' hne
    rw [convertRows_eq_ok (mt List.map_eq_nil_iff.1 hne'), List.mapM_map]
    exact and_congr_right fun _ ↦ Outcome.ok_eq_ok
  · cases out with
    | integer t =>
      refine htotal (.integer t) (onBoth op.onInts) fun l r ↦ ?_
      cases op <;> first | rfl | exact absurd rfl hop
    | float t =>
      refine htotal (.float t) (onBoth fun a b ↦ some (op.onFloats a b)) fun l r ↦ ?_
      cases op <;> first | rfl | exact absurd rfl hop
    | _ => exact hrefused fun l r ↦ by cases op <;> first | rfl | exact absurd rfl hop

/-- The ticks of a row. -/
def rowTicks : (d : DataType) → Option d.Value → Option Int
  | .timestamp _ _, row => row.map FixedInt.toInt
  | .duration _, row => row.map FixedInt.toInt
  | _, _ => none

/-- The ticks of a series are those of its rows. -/
theorem ticks_eq (rows : List (Option d.Value)) :
    (⟨d, rows⟩ : Series).ticks = rows.map (rowTicks d) := by
  cases d <;> rfl

/-- The sum or difference of the ticks of two rows. -/
def shiftRow (op : Arithmetic) : Option Int × Option Int → Outcome (Option (FixedInt .int64))
  | (some a, some b) => (op.onTicks a b).map some
  | _ => .ok none

/-- Ticks are added or subtracted in pairs. -/
theorem shiftTicks_eq_ok (h : pairRows as bs = .ok ps) (hne : ps ≠ []) {op : Arithmetic}
    {out : DataType} {t : Series} :
    shiftTicks op out ⟨d, as⟩ ⟨e, bs⟩ = .ok t ↔
      ∃ ps', ps.mapM (onPair (fun a ↦ .ok (rowTicks d a)) fun b ↦ .ok (rowTicks e b)) = .ok ps' ∧
        ∃ rows, ps'.mapM (shiftRow op) = .ok rows ∧ ofTicks out rows = .ok t := by
  simp only [shiftTicks, ticks_eq, Outcome.bind_eq_ok, ← pairRows_mapM h hne, mapM_ok]
  constructor
  · rintro ⟨ps', hps', rows, hrows, ht⟩
    exact ⟨ps', ⟨_, _, rfl, rfl, hps'⟩, rows, hrows, ht⟩
  · rintro ⟨ps', ⟨_, _, ⟨⟩, ⟨⟩, hps'⟩, rows, hrows, ht⟩
    exact ⟨ps', hps', rows, hrows, ht⟩

theorem pairwise_shiftTicks (op : Arithmetic) (out : DataType) :
    Pairwise fun l r ↦ l.shiftTicks op out r := by
  intro d e
  have hticks (d' : DataType) {g : Option Int × Option Int → Outcome (Option d'.Value)}
      (hg : ∀ (ps' : List (Option Int × Option Int)) (t : Series),
        (∃ rows, ps'.mapM (shiftRow op) = .ok rows ∧ ofTicks out rows = .ok t) ↔
        ∃ rows, ps'.mapM g = .ok rows ∧ t = ⟨d', rows⟩) :
      PairwiseOn d e fun l r ↦ l.shiftTicks op out r := by
    refine .of_bind d' (f := onPair (fun a ↦ .ok (rowTicks d a)) fun b ↦ .ok (rowTicks e b))
      (g := g) fun as bs ps t hps hne ↦ ?_
    rw [shiftTicks_eq_ok hps hne]
    exact exists_congr fun ps' ↦ and_congr_right fun _ ↦ hg ps' t
  cases out with
  | timestamp unit zone =>
    exact hticks (.timestamp unit zone) (g := shiftRow op) fun ps' t ↦
      exists_congr fun rows ↦ and_congr_right fun _ ↦ Outcome.ok_eq_ok
  | duration unit =>
    exact hticks (.duration unit) (g := shiftRow op) fun ps' t ↦
      exists_congr fun rows ↦ and_congr_right fun _ ↦ Outcome.ok_eq_ok
  -- No other type has ticks to be shifted, so there is nothing that could succeed.
  | _ =>
    refine .of_error fun as bs ↦ ?_
    rw [← Outcome.not_ok_iff]
    rintro ⟨t, ht⟩
    obtain ⟨_, _, ht⟩ := Outcome.bind_eq_ok.1 ht
    obtain ⟨_, _, ht⟩ := Outcome.bind_eq_ok.1 ht
    cases ht

end Spread

/-- Every binary operator works on pairs of rows. -/
theorem pairwise_combine (op : BinaryOp) (out : DataType) :
    Pairwise fun l r ↦ l.combine op out r := by
  intro d e
  by_cases hsupports : op.supports out d e = true
  · have hcombine (as : List (Option d.Value)) (bs : List (Option e.Value)) :
        combine op out ⟨d, as⟩ ⟨e, bs⟩ = apply op out ⟨d, as⟩ ⟨e, bs⟩ := if_pos hsupports
    simp only [PairwiseOn, hcombine]
    cases op with
    | comparison c => exact pairwise_compare c d e
    | logical c => exact pairwise_connect c d e
    | bitwise b =>
      cases out with
      | integer t => exact pairwise_bitwiseInts b t d e
      | _ => exact pairwise_bitwiseFlags b d e
    | arithmetic a =>
      simp only [apply]
      by_cases htemporal : ((BinaryOp.arithmetic a).temporalResult? d e).isSome = true
      · simp only [if_pos htemporal]
        exact pairwise_shiftTicks a out d e
      · simp only [if_neg htemporal]
        exact pairwise_calculate a out d e
  · exact .of_error fun as bs ↦ ⟨_, if_neg hsupports⟩

/-! ### Types of results -/

/-- Arithmetic gives the type that it is asked for. -/
theorem dtype_calculate {op : Arithmetic} {out : DataType} {l r t : Series}
    (h : l.calculate op out r = .ok t) : t.dtype = out := by
  by_cases hop : op = .trueDiv
  · subst hop
    obtain ⟨_, _, h⟩ := Outcome.bind_eq_ok.1 h
    exact convert_dtype h
  · cases out <;> cases op <;> first
      | exact absurd rfl hop
      | (obtain ⟨_, _, h⟩ := Outcome.bind_eq_ok.1 h; injection h with h; exact h ▸ rfl)
      | cases h

theorem dtype_shiftTicks {op : Arithmetic} {out : DataType} {l r t : Series}
    (h : l.shiftTicks op out r = .ok t) : t.dtype = out := by
  obtain ⟨_, _, h⟩ := Outcome.bind_eq_ok.1 h
  obtain ⟨_, _, h⟩ := Outcome.bind_eq_ok.1 h
  cases out <;> first | (injection h with h; exact h ▸ rfl) | cases h

/-- A binary operator gives the type that it is asked for. -/
theorem dtype_combine {op : BinaryOp} {out : DataType} {l r t : Series}
    (h : l.combine op out r = .ok t) : t.dtype = out := by
  unfold combine at h
  split at h
  · next hsupports =>
    cases op with
    | comparison c =>
      obtain ⟨_, _, h⟩ := Outcome.bind_eq_ok.1 h
      simp only [BinaryOp.supports, Bool.and_eq_true, decide_eq_true_eq] at hsupports
      injection h with h
      exact h ▸ hsupports.1.symm
    | logical c =>
      obtain ⟨_, _, h⟩ := Outcome.bind_eq_ok.1 h
      simp only [BinaryOp.supports, Bool.and_eq_true, decide_eq_true_eq] at hsupports
      injection h with h
      exact h ▸ hsupports.1.1.symm
    | bitwise b =>
      cases out with
      | integer t =>
        obtain ⟨_, _, h⟩ := Outcome.bind_eq_ok.1 h
        injection h with h
        exact h ▸ rfl
      | boolean =>
        obtain ⟨_, _, h⟩ := Outcome.bind_eq_ok.1 h
        injection h with h
        exact h ▸ rfl
      | _ => simp [BinaryOp.supports, DataType.isInteger] at hsupports
    | arithmetic a =>
      simp only [apply] at h
      split at h
      · exact dtype_shiftTicks h
      · exact dtype_calculate h
  · cases h

end Series

end Tabular
