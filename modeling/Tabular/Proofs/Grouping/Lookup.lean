import Tabular.Proofs.Expr.Substitution
import Tabular.Proofs.Grouping.Results

/-!
# Looking up the results of requests

The rest of an expression is evaluated over the results of its requests: an owner of a request is
found in the mapping with the answer to the request (`GroupBy.find?_mapping_owner`), and everything
above the owners is not found and so computed from its children
(`GroupBy.missesOperations_mapping`). That the mapping holds the requests of other expressions as
well does no harm, since requests with one owner are one request (`GroupBy.Planned.owner`), and none
is made in the name of an operation on results.

Between the two there is a tree whose leaves are found and whose inner nodes are evaluated row by
row. So an expression over the results of requests agrees with itself over the rows of every group
(`GroupBy.agrees_tree`) as soon as the answers do.

At every node the mapping is asked before anything is evaluated. So two things are needed to be sure
of a value over the results: that the owner of a request is found, and that no operation above it
is, which would be given the answer to another question.
-/

namespace Tabular

namespace Mapping

/-- The mapping with the answers to requests entered one after the other. -/
def enter (m : Mapping) (answers : List (AggRequest × Series)) : Mapping :=
  answers.foldl (fun m p ↦ m.insert p.1.owner { series := p.2 }) m

variable {m : Mapping} {answers : List (AggRequest × Series)} {e : Expr} {c : Column}

/-- What is found was entered, or was there before. -/
theorem find?_enter_eq_some (h : (m.enter answers).find? e = some c) :
    (∃ p ∈ answers, p.1.owner = e ∧ c = { series := p.2 }) ∨ m.find? e = some c := by
  induction answers generalizing m with
  | nil => exact .inr h
  | cons p ps ih =>
    rcases ih h with ⟨p', hp', hc⟩ | h
    · exact .inl ⟨p', List.mem_cons_of_mem _ hp', hc⟩
    · rw [find?_insert] at h
      split at h
      · next howner =>
        injection h with h
        exact .inl ⟨p, List.mem_cons_self, howner, h.symm⟩
      · exact .inr h

/-- What was entered, or was there before, is found. -/
theorem exists_find?_enter (h : (∃ p ∈ answers, p.1.owner = e) ∨ ∃ c, m.find? e = some c) :
    ∃ c, (m.enter answers).find? e = some c := by
  induction answers generalizing m with
  | nil =>
    rcases h with ⟨_, hp, _⟩ | h
    · cases hp
    · exact h
  | cons p ps ih =>
    refine ih ?_
    rw [find?_insert]
    rcases h with ⟨p', hp', howner⟩ | ⟨c, hc⟩
    · rcases List.mem_cons.1 hp' with rfl | hp'
      · exact .inr ⟨_, if_pos howner⟩
      · exact .inl ⟨p', hp', howner⟩
    · right
      split
      · exact ⟨_, rfl⟩
      · exact ⟨c, hc⟩

end Mapping

/-! ### Owners -/

namespace Expr

variable {base : Expr → Prop} {varying : Bool} {e : Expr} {rs : List AggRequest} {q : AggRequest}

/-- Requests made in the name of an operation are for lists. -/
theorem Collects.isCollectList_of_operation (h : Collects 0 e rs) (hq : q ∈ rs)
    (howner : q.owner.kind.isOperation = true) : q.reduction.isCollectList = true := by
  generalize hdepth : 0 = depth at h
  induction h with
  | literal | literalColumn => cases hq
  | functionBelow | binOpBelow => cases hdepth
  | cast _ ih | function _ _ _ ih => exact ih hq hdepth
  | col | len | agg =>
    rw [List.mem_singleton.1 hq] at howner
    cases howner
  | binOpLists => exact List.mem_singleton.1 hq ▸ rfl
  | binOp _ _ _ _ ihl ihr =>
    rcases List.mem_append.1 hq with hq | hq
    · exact ihl hq hdepth
    · exact ihr hq hdepth

/-- The expressions make one request each, in their own name and not for lists. -/
def RequestThemselves (base : Expr → Prop) : Prop :=
  ∀ x rs, base x → Collects 0 x rs → ∃ q, rs = [q] ∧ q.owner = x ∧
    q.reduction.isCollectList = false

/-- The fewer expressions there are, the less is asked of them. -/
theorem RequestThemselves.mono {base' : Expr → Prop} (h : RequestThemselves base)
    (hbase : ∀ x, base' x → base x) : RequestThemselves base' :=
  fun x rs hx ↦ h x rs (hbase x hx)

/-- A tree makes the requests of its leaves: if those request themselves, it makes requests just if
it is varying, and none for lists. -/
theorem RowTree.requests (hbase : RequestThemselves base) (h : RowTree base varying e)
    (hrs : Collects 0 e rs) :
    (varying = false ↔ rs = []) ∧ ∀ q ∈ rs, q.reduction.isCollectList = false := by
  induction h generalizing rs with
  | base hx =>
    obtain ⟨q, rfl, -, hq⟩ := hbase _ _ hx hrs
    exact ⟨⟨nofun, nofun⟩, fun q' hq' ↦ List.mem_singleton.1 hq' ▸ hq⟩
  | literal | literalColumn =>
    cases hrs
    exact ⟨⟨fun _ ↦ rfl, fun _ ↦ rfl⟩, nofun⟩
  | cast _ ih =>
    cases hrs with
    | cast hc => exact ih hc
  | function _ _ ih =>
    cases hrs with
    | function _ _ hc => exact ih hc
  | fillNull _ _ ih _ =>
    cases hrs with
    | function _ _ hc => exact ih hc
  | @binOp left right d op l r hl hr hor ihl ihr =>
    -- an operand is varying and makes requests, none for lists, so the whole is not made a list
    have hboth {ls rs : List AggRequest} (hls : Collects 0 l ls) (hrs : Collects 0 r rs) :
        ls ++ rs ≠ [] ∧ ∀ q ∈ ls ++ rs, q.reduction.isCollectList = false := by
      obtain ⟨hlnil, hllists⟩ := ihl hls
      obtain ⟨hrnil, hrlists⟩ := ihr hrs
      refine ⟨fun hnil ↦ ?_, fun q hq ↦ (List.mem_append.1 hq).elim (hllists q) (hrlists q)⟩
      obtain ⟨hl, hr⟩ := List.append_eq_nil_iff.1 hnil
      rw [hlnil.2 hl, hrnil.2 hr] at hor
      cases hor
    cases hrs with
    | binOpLists _ hls hrs hall =>
      obtain ⟨hne, hlists⟩ := hboth hls hrs
      obtain ⟨q, hq⟩ := List.exists_mem_of_ne_nil _ hne
      exact absurd (List.all_eq_true.1 hall q hq) (Bool.eq_false_iff.1 (hlists q hq))
    | binOp _ hls hrs _ =>
      obtain ⟨hne, hlists⟩ := hboth hls hrs
      exact ⟨⟨nofun, fun hnil ↦ absurd hnil hne⟩, hlists⟩

/-- The leaves of a tree are among the owners of its requests. -/
theorem RowTree.owned (hbase : RequestThemselves base) (h : RowTree base varying e)
    (hrs : Collects 0 e rs) : RowTree (fun x ↦ base x ∧ ∃ q ∈ rs, q.owner = x) varying e := by
  induction h generalizing rs with
  | base hx =>
    obtain ⟨q, rfl, howner, -⟩ := hbase _ _ hx hrs
    exact .base ⟨hx, q, List.mem_singleton_self q, howner⟩
  | literal => exact .literal
  | literalColumn hlen => exact .literalColumn hlen
  | cast _ ih =>
    cases hrs with
    | cast hc => exact .cast (ih hc)
  | function hk _ ih =>
    cases hrs with
    | function _ _ hc => exact .function hk (ih hc)
  | fillNull _ hf ih _ =>
    cases hrs with
    | function _ _ hc => exact .fillNull (ih hc) (hf.const_base _)
  | binOp hl hr hor ihl ihr =>
    -- The rule for lists does not apply, since no request of such a tree collects a list.
    have hlists := (RowTree.binOp hl hr hor).requests hbase hrs
    cases hrs with
    | binOpLists => exact absurd (hlists.2 _ (List.mem_singleton_self _)) nofun
    | binOp _ hls hrs _ =>
      refine .binOp ((ihl hls).mono fun x hx ↦ ?_) ((ihr hrs).mono fun x hx ↦ ?_) hor
      · exact ⟨hx.1, hx.2.imp fun q hq ↦ ⟨List.mem_append_left _ hq.1, hq.2⟩⟩
      · exact ⟨hx.1, hx.2.imp fun q hq ↦ ⟨List.mem_append_right _ hq.1, hq.2⟩⟩

/-- The number of rows and reductions request themselves. -/
theorem requestThemselves_reduces (f : Frame) : RequestThemselves f.Reduces := by
  intro x rs hx hrs
  cases hx with
  | len =>
    cases hrs with
    | len => exact ⟨_, rfl, rfl, rfl⟩
  | agg =>
    cases hrs with
    | agg _ _ hr _ => exact ⟨_, rfl, rfl, AggFunction.isCollectList_request hr⟩

/-- The owners of a tree's requests are leaves of it. -/
theorem RowTree.owner (hbase : RequestThemselves base) (h : RowTree base varying e)
    (hrs : Collects 0 e rs) (hq : q ∈ rs) : base q.owner := by
  induction h generalizing rs with
  | base hx =>
    obtain ⟨q', rfl, howner, -⟩ := hbase _ _ hx hrs
    rwa [List.mem_singleton.1 hq, howner]
  | literal | literalColumn =>
    cases hrs
    cases hq
  | cast _ ih =>
    cases hrs with
    | cast hc => exact ih hc hq
  | function _ _ ih =>
    cases hrs with
    | function _ _ hc => exact ih hc hq
  | fillNull _ _ ih _ =>
    cases hrs with
    | function _ _ hc => exact ih hc hq
  | binOp hl hr hor ihl ihr =>
    have hlists := (RowTree.binOp hl hr hor).requests hbase hrs
    cases hrs with
    | binOpLists => exact absurd (hlists.2 _ (List.mem_singleton_self _)) nofun
    | binOp _ hls hrs _ => exact (List.mem_append.1 hq).elim (ihl hls) (ihr hrs)

/-- Where a tree is evaluated, so are its leaves. -/
theorem RowTree.evaluated {f : Frame} {s : Series} (h : RowTree base varying e)
    (hs : e.values f .frame .empty = .ok s) :
    RowTree (fun x ↦ base x ∧ ∃ t, x.values f .frame .empty = .ok t) varying e := by
  induction h generalizing s with
  | base hx => exact .base ⟨hx, s, hs⟩
  | literal => exact .literal
  | literalColumn hlen => exact .literalColumn hlen
  | cast _ ih =>
    rw [values_cast (Mapping.find?_empty _)] at hs
    obtain ⟨s₀, hs₀, -⟩ := Outcome.bind_eq_ok.1 hs
    exact .cast (ih hs₀)
  | function hk _ ih =>
    rw [values_rowFunction hk (Mapping.find?_empty _)] at hs
    obtain ⟨s₀, hs₀, -⟩ := Outcome.bind_eq_ok.1 hs
    exact .function hk (ih hs₀)
  | fillNull _ hf ih _ =>
    rw [values_fillNull (Mapping.find?_empty _)] at hs
    obtain ⟨s₀, hs₀, -⟩ := Outcome.bind_eq_ok.1 hs
    exact .fillNull (ih hs₀) (hf.const_base _)
  | binOp _ _ hor ihl ihr =>
    rw [values_binOp (Mapping.find?_empty _)] at hs
    obtain ⟨s₁, hs₁, hs⟩ := Outcome.bind_eq_ok.1 hs
    obtain ⟨s₂, hs₂, -⟩ := Outcome.bind_eq_ok.1 hs
    exact .binOp (ihl hs₁) (ihr hs₂) hor

end Expr

/-! ### The mapping of a grouping -/

namespace GroupBy

/-- The requests of the grouping are those of its expressions. -/
structure Planned (g : GroupBy) : Prop where
  collects : ∀ a ∈ g.aggs, ∃ rs, Expr.Collects 0 a.value rs ∧ ∀ q ∈ rs, q ∈ g.requests
  requested : ∀ q ∈ g.requests, ∃ a ∈ g.aggs, ∃ rs, Expr.Collects 0 a.value rs ∧ q ∈ rs

/-- A plan keeps what it was asked for, and its requests are those of its expressions. -/
theorem planned_of_plan {keys aggs : List NamedExpr} {maintainOrder : Bool} {g : GroupBy}
    (h : plan keys aggs maintainOrder = .ok g) :
    g.keys = keys ∧ g.aggs = aggs ∧ g.maintainOrder = maintainOrder ∧ g.Planned := by
  obtain ⟨requests, hrequests, h⟩ := Outcome.bind_eq_ok.1 h
  injection h with h
  subst h
  refine ⟨rfl, rfl, rfl, fun a ha ↦ ?_, fun q hq ↦ ?_⟩
  · obtain ⟨rs, hrs, hcollect⟩ := Outcome.exists_of_mem hrequests ha
    exact ⟨rs, .of_collect hcollect, fun q hq ↦ List.mem_flatten.2 ⟨rs, hrs, hq⟩⟩
  · obtain ⟨rs, hrs, hq⟩ := List.mem_flatten.1 hq
    obtain ⟨a, ha, hcollect⟩ := Outcome.exists_of_mem_result hrequests hrs
    exact ⟨a, ha, rs, .of_collect hcollect, hq⟩

/-- A grouping is planned if its expressions can be split into requests. -/
theorem exists_plan {keys aggs : List NamedExpr} (maintainOrder : Bool)
    (h : ∀ a ∈ aggs, ∃ rs, Expr.Collects 0 a.value rs) :
    ∃ g, plan keys aggs maintainOrder = .ok g := by
  obtain ⟨requests, hrequests⟩ : ∃ requests, aggs.mapM (fun a ↦ a.value.collect 0) =
      .ok requests := Outcome.exists_mapM_eq_ok fun a ha ↦ by
    obtain ⟨rs, hrs⟩ := h a ha
    exact ⟨rs, hrs.collect_eq⟩
  exact ⟨_, Outcome.bind_eq_ok.2 ⟨requests, hrequests, rfl⟩⟩

/-- The answer to a request. -/
def answer (f : Frame) (groups : List (List Nat)) (q : AggRequest) : Outcome Series :=
  q.input.mapM (evaluateFully f) >>= fun values ↦ q.reduceGroups values groups

variable {g : GroupBy} {f raw : Frame} {groups : List (List Nat)} {results : List Series}
  {q : AggRequest} {e : Expr} {c : Column}

/-- The results are the answers to the requests. -/
theorem results_eq_ok :
    g.results f groups = .ok results ↔ g.requests.mapM (answer f groups) = .ok results := by
  unfold answer
  rw [← Outcome.mapM_zip_eq_ok]
  exact Outcome.bind_eq_ok

/-- A request is the only one of its owner. -/
theorem Planned.owner (hg : g.Planned) (hq : q ∈ g.requests) : Expr.Collects 0 q.owner [q] := by
  obtain ⟨a, -, rs, hrs, hq⟩ := hg.requested q hq
  exact hrs.owner hq

/-- What is found was requested, by an owner equal to it. -/
theorem exists_of_find?_mapping (h : (g.mapping results).find? e = some c) :
    ∃ p ∈ g.requests.zip results, p.1.owner = e ∧ c = { series := p.2 } := by
  rcases Mapping.find?_enter_eq_some (m := .empty) h with h | h
  · exact h
  · cases h

/-- **The owner of a request is found with the answer to the request.** -/
theorem find?_mapping_owner (hg : g.Planned) (h : g.results f groups = .ok results)
    (hq : q ∈ g.requests) :
    ∃ s, (g.mapping results).find? q.owner = some { series := s } ∧
      answer f groups q = .ok s := by
  have hrel := Outcome.mapM_eq_ok.1 (results_eq_ok.1 h)
  have hanswer (p : AggRequest × Series) (hp : p ∈ g.requests.zip results) :
      answer f groups p.1 = .ok p.2 := (List.forall₂_iff_zip.1 hrel).2 hp
  obtain ⟨s, hs⟩ : ∃ s, (q, s) ∈ g.requests.zip results := by
    obtain ⟨i, hi, rfl⟩ := List.mem_iff_getElem.1 hq
    have hi' : i < results.length := hrel.length_eq ▸ hi
    refine ⟨results[i], List.mem_iff_getElem.2 ⟨i, ?_, List.getElem_zip⟩⟩
    rw [List.length_zip]
    exact Nat.lt_min.2 ⟨hi, hi'⟩
  obtain ⟨c, hc⟩ : ∃ c, (g.mapping results).find? q.owner = some c :=
    Mapping.exists_find?_enter (.inl ⟨(q, s), hs, rfl⟩)
  obtain ⟨p, hp, howner, rfl⟩ := exists_of_find?_mapping hc
  -- what is found may have been entered last for a request with the same owner
  have hpq : p.1 = q :=
    (hg.owner (List.of_mem_zip hp).1).eq_of_owner_eq (hg.owner hq) (List.mem_singleton_self _)
      (List.mem_singleton_self _) howner
  exact ⟨p.2, hc, hpq ▸ hanswer p hp⟩

/-- Over the results the owner of a request has the answer to the request as its values. -/
theorem answer_of_values_owner (hg : g.Planned) (h : g.results f groups = .ok results)
    (hq : q ∈ g.requests) {context : Context} {s : Series}
    (hs : q.owner.values raw context (g.mapping results) = .ok s) : answer f groups q = .ok s := by
  obtain ⟨t, hfind, ht⟩ := find?_mapping_owner hg h hq
  rw [Expr.values_of_find?_eq_some hfind] at hs
  exact ht.trans hs

/-- The mapping knows no operation of trees over expressions that request themselves. -/
theorem missesOperations_mapping (hg : g.Planned) {base : Expr → Prop}
    (hbase : Expr.RequestThemselves base) : (g.mapping results).MissesOperations base := by
  intro x varying hx hkind
  cases hfind : (g.mapping results).find? x with
  | none => rfl
  | some c =>
    -- an operation owns requests for lists alone, and a tree makes none of these
    obtain ⟨p, hp, howner, -⟩ := exists_of_find?_mapping hfind
    have hcollects := hg.owner (List.of_mem_zip hp).1
    have hlist := hcollects.isCollectList_of_operation (List.mem_singleton_self _)
      (howner ▸ hkind)
    have hno := (hx.requests hbase (howner ▸ hcollects)).2 _ (List.mem_singleton_self _)
    exact absurd hlist (Bool.eq_false_iff.1 hno)

/-- **An expression over the results agrees with itself over the rows of every group.** -/
theorem agrees_tree (hg : g.Planned) (h : g.results f groups = .ok results)
    (hgroups : f.HasGroups groups) {a : NamedExpr} (ha : a ∈ g.aggs) {varying : Bool}
    (htree : Expr.RowTree f.Reduces varying a.value) :
    Agrees groups.length (a.value.values raw .groupBy (g.mapping results)) fun i ↦
      a.value.values (f.select (groups.getD i [])) .frame .empty := by
  obtain ⟨rs, hrs, hmem⟩ := hg.collects a ha
  have hself := Expr.requestThemselves_reduces f
  refine (htree.owned hself hrs).agrees (List.length_pos_iff.2 hgroups.ne_nil)
    (missesOperations_mapping hg (hself.mono fun _ ↦ And.left)) fun x hx ↦ ?_
  -- the leaf is the owner of a request, and found with the answer
  obtain ⟨hreduces, q, hq, rfl⟩ := hx
  obtain ⟨s, hfind, hanswer⟩ := find?_mapping_owner hg h (hmem q hq)
  obtain ⟨values, hvalues, hs⟩ := Outcome.bind_eq_ok.1 hanswer
  rw [Expr.values_of_find?_eq_some hfind, ← hs]
  exact agrees_request (hrs.owner hq) hreduces hvalues hgroups

end GroupBy

end Tabular
