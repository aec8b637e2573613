import Tabular.Proofs.Expr.Values
import Tabular.Proofs.Requests.Basic

/-!
# The input of a reduction

A reduction asks for one request, whose input is evaluated before the rows are grouped.
`AggRequest.KeepsInput` says that this input has the series of the reduction's own child, apart from
NaNs, which extrema leave out.

The request is made for what stands below the casts on top of the child
(`Expr.Collects.eq_list_or_size`): the search goes through a cast as if it were evaluated row by
row, but a request below a reduction takes the place of the child. So it keeps the input exactly
when these casts change nothing — and when there is something below them to evaluate, which the size
of a group is not (`keepsInput_iff`). A sum of truncated numbers is asked for the numbers
themselves (`not_keepsInput_sumOfTruncated`).
-/

namespace Tabular

namespace Expr

/-- The expression without the casts on top of it. -/
def uncast : Expr → Expr
  | node _ .cast (c :: _) => uncast c
  | e => e

/-- What is no cast has none on top of it. -/
theorem uncast_eq_self {e : Expr} (h : e.kind ≠ .cast) : e.uncast = e := by
  match e, h with
  | node d k [], _ => cases k <;> rfl
  | node d k (c :: cs), h => cases k <;> first | rfl | exact absurd rfl h

/-- An expression that is evaluated is evaluated below its casts. -/
theorem exists_values_uncast {fr : Frame} {context : Context} {e : Expr} {s : Series}
    (h : e.values fr context .empty = .ok s) : ∃ t, e.uncast.values fr context .empty = .ok t := by
  induction e using induction generalizing s with
  | node d k cs ih =>
    by_cases hk : k = .cast
    · subst hk
      obtain ⟨c, t, rfl, ht, -⟩ := exists_of_values_cast (Mapping.find?_empty _) h
      exact ih c List.mem_cons_self ht
    · rw [uncast_eq_self (show (node d k cs).kind ≠ .cast from hk)]
      exact ⟨s, h⟩

/-- **The request below a reduction** is for the lists of the expression without its casts, or for
the sizes of the groups if that is the number of rows. -/
theorem Collects.eq_list_or_size {e : Expr} {q : AggRequest} (h : Collects 1 e [q]) :
    e.uncast.kind ≠ .len ∧ q = .list e.uncast ∨ e.uncast.kind = .len ∧ q = .size e.uncast := by
  generalize hdepth : 1 = depth at h
  generalize hrs : [q] = rs at h
  induction h with
  | col | functionBelow | binOpBelow =>
    injection hrs with hq
    exact .inl ⟨nofun, hq⟩
  | len =>
    injection hrs with hq
    exact .inr ⟨rfl, hq⟩
  | literal | literalColumn => cases hrs
  | cast _ ih => exact ih hdepth hrs
  | function _ hne | binOpLists hne | binOp hne => exact absurd hdepth.symm hne
  | agg => cases hdepth

end Expr

namespace AggFunction

/-- What the reduction is to be computed from: a series, without its NaNs if it is an extremum. -/
def masked (f : AggFunction) (s : Series) : Series := if f.isMinOrMax then s.maskNans else s

/-- What the request of the reduction is computed from, for an input declared as `d`: NaNs are left
out by the declared type, not by that of the series. -/
def maskedAs (f : AggFunction) (d : DataType) (s : Series) : Series :=
  if f.isMinOrMax && d.isFloating then s.maskNans else s

/-- An extremum of floating-point numbers has its NaNs masked, and nothing else is prepared. -/
theorem preparedInput_eq (f : AggFunction) (e : Expr) :
    f.preparedInput e = .ok (if f.isMinOrMax && e.dtype.isFloating
      then .node e.dtype (.unaryFunction .maskNans) [e] else e) := by
  unfold preparedInput
  split <;> rfl

/-- A prepared input is the input without what the reduction leaves out. -/
theorem values_preparedInput {f : AggFunction} {e input : Expr} {fr : Frame} {context : Context}
    (h : f.preparedInput e = .ok input) :
    input.values fr context .empty = (e.values fr context .empty).map (f.maskedAs e.dtype) := by
  rw [preparedInput_eq] at h
  injection h with h
  subst h
  unfold maskedAs
  split
  · rw [Expr.values_rowFunction rfl (Mapping.find?_empty _)]
    cases e.values fr context .empty <;> rfl
  · cases e.values fr context .empty <;> rfl

/-- Other types have no NaNs to mask. -/
theorem maskNans_of_not_floating {s : Series} (h : s.dtype.isFloating = false) :
    s.maskNans = s := by
  obtain ⟨d, rows⟩ := s
  cases d <;> first | rfl | exact nomatch h

/-- Of what are no floating-point numbers nothing is left out. -/
theorem masked_of_not_floating {f : AggFunction} {s : Series} (h : s.dtype.isFloating = false) :
    f.masked s = s := by
  rw [masked, maskNans_of_not_floating h, ite_self]

/-- Nor is there anything to leave out, whatever type was declared. -/
theorem maskedAs_of_not_floating {f : AggFunction} {d : DataType} {s : Series}
    (h : s.dtype.isFloating = false) : f.maskedAs d s = s := by
  rw [maskedAs, maskNans_of_not_floating h, ite_self]

/-- Where the declared type is right, the request leaves out what the reduction does. -/
theorem maskedAs_eq_masked {f : AggFunction} {d : DataType} {s : Series}
    (h : f.isMinOrMax = true → s.dtype.isFloating = d.isFloating) :
    f.maskedAs d s = f.masked s := by
  unfold maskedAs masked
  by_cases hf : f.isMinOrMax = true
  · cases hd : d.isFloating with
    | true => simp [hf]
    | false => simp [hf, maskNans_of_not_floating ((h hf).trans hd)]
  · simp [hf]

end AggFunction

/-- The input of the request has, over the frame, the series that the reduction `f` is to be
computed from when its child has the series `s`. -/
def AggRequest.KeepsInput (q : AggRequest) (f : AggFunction) (fr : Frame) (s : Series) : Prop :=
  ∃ input, q.input = some input ∧ input.values fr .frame .empty = .ok (f.masked s)

namespace AggRequest

variable {f : AggFunction} {e child input : Expr} {fr : Frame} {s s₀ : Series}

/-- Without an input nothing is kept. -/
theorem not_keepsInput_none {reduction : Aggregation} {owner : Expr} :
    ¬KeepsInput ⟨none, reduction, owner⟩ f fr s :=
  fun ⟨_, h, _⟩ ↦ nomatch h

/-- A prepared input is kept when its series is, with the NaNs that it is prepared to leave out. -/
theorem keepsInput_prepared_iff {reduction : Aggregation} {owner : Expr}
    (hi : f.preparedInput e = .ok input) (hs : e.values fr .frame .empty = .ok s₀) :
    KeepsInput ⟨some input, reduction, owner⟩ f fr s ↔ f.maskedAs e.dtype s₀ = f.masked s := by
  have hv : input.values fr .frame .empty = _ := AggFunction.values_preparedInput hi
  rw [hs] at hv
  constructor
  · rintro ⟨_, ⟨⟩, h⟩
    rw [hv] at h
    injection h
  · intro h
    exact ⟨input, rfl, hv.trans (congrArg _ h)⟩

end AggRequest

variable {d : DataType} {f : AggFunction} {child : Expr} {rest : List Expr} {rs : List AggRequest}

/-- A reduction makes one request, in its own name, and prepares the input that its child asks
for. -/
theorem exists_request_of_collect (h : (Expr.node d (.agg f) (child :: rest)).collect 0 = .ok rs) :
    ∃ q₀ reduction input, Expr.Collects 1 child [q₀] ∧
      q₀.input.mapM f.preparedInput = .ok input ∧
      rs = [⟨input, reduction, .node d (.agg f) (child :: rest)⟩] := by
  cases Expr.Collects.of_collect h with
  | agg _ hc _ hi => exact ⟨_, _, _, hc, hi, rfl⟩

/-- **When the request of a reduction keeps its input.** Over a frame on which the child of the
reduction is evaluated, this is exactly when the casts on top of the child lead back to the series
below them, NaNs apart, and what stands below them is not the number of rows. Without casts the
request keeps the input of every other child, provided that for extrema the declared type of the
child says truly whether it is floating point. -/
theorem keepsInput_iff (h : (Expr.node d (.agg f) (child :: rest)).collect 0 = .ok rs) :
    ∃ q, rs = [q] ∧ q.owner = .node d (.agg f) (child :: rest) ∧
      ∀ fr s, child.values fr .frame .empty = .ok s →
        (q.KeepsInput f fr s ↔ child.uncast.kind ≠ .len ∧
          ∃ s₀, child.uncast.values fr .frame .empty = .ok s₀ ∧
            f.maskedAs child.uncast.dtype s₀ = f.masked s) ∧
        (child.kind ≠ .cast → child.kind ≠ .len →
          (f.isMinOrMax = true → s.dtype.isFloating = child.dtype.isFloating) →
          q.KeepsInput f fr s) := by
  obtain ⟨q₀, reduction, input, hc, hi, rfl⟩ := exists_request_of_collect h
  refine ⟨_, rfl, rfl, fun fr s hs ↦ ?_⟩
  have hiff : AggRequest.KeepsInput ⟨input, reduction, .node d (.agg f) (child :: rest)⟩ f fr s ↔
      child.uncast.kind ≠ .len ∧ ∃ s₀, child.uncast.values fr .frame .empty = .ok s₀ ∧
        f.maskedAs child.uncast.dtype s₀ = f.masked s := by
    obtain ⟨s₀, hs₀⟩ := Expr.exists_values_uncast hs
    -- The request collects an input, or it counts rows and has none.
    rcases hc.eq_list_or_size with ⟨hlen, rfl⟩ | ⟨hlen, rfl⟩
    · obtain ⟨hp⟩ := Outcome.optionMapM_eq_ok.1 hi
      rw [AggRequest.keepsInput_prepared_iff hp hs₀]
      refine ⟨fun h ↦ ⟨hlen, s₀, hs₀, h⟩, fun ⟨_, s₁, hs₁, h⟩ ↦ ?_⟩
      rw [hs₀] at hs₁
      injection hs₁ with hs₁
      exact hs₁ ▸ h
    · obtain ⟨⟩ := Outcome.optionMapM_eq_ok.1 hi
      exact ⟨fun h ↦ absurd h AggRequest.not_keepsInput_none, fun h ↦ absurd hlen h.1⟩
  refine ⟨hiff, fun hcast hlen hfloat ↦ hiff.2 ?_⟩
  rw [Expr.uncast_eq_self hcast]
  exact ⟨hlen, s, hs, AggFunction.maskedAs_eq_masked hfloat⟩

/-- The integers that the numbers of a column are cut off to. -/
def truncated : Expr := .node .int64 .cast [.node .float64 (.col "x") []]

/-- The sum of these integers. -/
def sumOfTruncated : Expr := .node .int64 (.agg .sum) [truncated]

/-- A frame of the number one and a half, twice. -/
def halvesFrame : Frame :=
  ⟨[⟨"x", { series := ⟨.float64, List.replicate 2 (some (Binary.ofRatio false 3 2))⟩ }⟩], rfl⟩

/-- The integer one, twice. -/
def ones : Series := ⟨.int64, List.replicate 2 (some (FixedInt.wrap .int64 1))⟩

/-- The request of the sum of truncated numbers, and what it depends on. -/
theorem keepsInput_iff_sumOfTruncated :
    ∃ q, sumOfTruncated.collect 0 = .ok [q] ∧
      truncated.values halvesFrame .frame .empty = .ok ones ∧
      (q.KeepsInput .sum halvesFrame ones ↔ truncated.uncast.kind ≠ .len ∧
        ∃ s₀, truncated.uncast.values halvesFrame .frame .empty = .ok s₀ ∧
          AggFunction.maskedAs .sum truncated.uncast.dtype s₀ = AggFunction.masked .sum ones) := by
  have hcollect : sumOfTruncated.collect 0 =
      .ok [⟨some (.node .float64 (.col "x") []), .sum, sumOfTruncated⟩] := rfl
  have hvalues : truncated.values halvesFrame .frame .empty = .ok ones := rfl
  obtain ⟨q, hq, -, h⟩ := keepsInput_iff hcollect
  exact ⟨q, hq ▸ hcollect, hvalues, (h _ _ hvalues).1⟩

theorem sumOfTruncated_wellFormed : sumOfTruncated.WellFormed := by
  refine .node ?_ rfl rfl
  rintro _ (_ | ⟨_, ⟨⟩⟩)
  refine .node ?_ rfl rfl
  rintro _ (_ | ⟨_, ⟨⟩⟩)
  exact .node nofun rfl rfl

theorem halvesFrame_declares_sumOfTruncated : halvesFrame.Declares sumOfTruncated := by
  have hx : halvesFrame.Declares (.node .float64 (.col "x") []) := .col rfl rfl
  have htruncated : halvesFrame.Declares truncated :=
    .node nofun (List.forall_mem_singleton.2 hx)
  exact .node nofun (List.forall_mem_singleton.2 htruncated)

/-- **A cast below a reduction is lost.** The request of the sum of the truncated numbers has the
numbers themselves for its input. -/
theorem not_keepsInput_sumOfTruncated :
    sumOfTruncated.WellFormed ∧ halvesFrame.Declares sumOfTruncated ∧
      truncated.values halvesFrame .frame .empty = .ok ones ∧
      ∃ q, sumOfTruncated.collect 0 = .ok [q] ∧ ¬q.KeepsInput .sum halvesFrame ones := by
  refine ⟨sumOfTruncated_wellFormed, halvesFrame_declares_sumOfTruncated, rfl, _, rfl, ?_⟩
  rintro ⟨_, ⟨⟩, h⟩
  have hdtype : DataType.float64 = .int64 := congrArg Series.dtype (Except.ok.inj h)
  exact nomatch hdtype

end Tabular
