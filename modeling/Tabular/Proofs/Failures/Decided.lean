import Tabular.Proofs.Outcome

/-!
# What decides a failure

Some failures are no matter of the rows: a construct that the engine does not implement, a column of
other values than truth values where these were promised, and a node without the children that its
kind needs. `Outcome.DecidedBy p q` says of an outcome that `p` decides the first kind of failure
and `q` the second: there is a value only if both hold, and no failure of either kind if its
condition does. The third kind does not occur. All other failures are failures on data.

The conditions of an operation in steps are the conjunctions of those of its steps
(`Outcome.DecidedBy.bind`), provided that the condition of a later step does not depend on the value
of an earlier one. This proviso is what the rest of the theory has to supply, and it does so by
types: the type of a value is the same over all data. A step that fails on data only drops out
(`Outcome.DecidedBy.bind_data`, `Outcome.DecidedBy.data_bind`), and a traversal has the conditions
of all of its elements (`Outcome.DecidedBy.mapM`).
-/

namespace Tabular

namespace Error

/-- A construct that is not implemented. -/
def isUnsupported : Error → Bool
  | unsupported _ => true
  | _ => false

/-- A state that the checks of nodes are there to prevent. -/
def isInternal : Error → Bool
  | notBoolean _ => true
  | malformed _ => true
  | _ => false

end Error

namespace Outcome

variable {α β : Type} {x : Outcome α} {p q p' q' : Prop}

/-- The operation fails on data only. -/
def FailsOnData (x : Outcome α) : Prop :=
  ∀ e, x = .error e → e.isUnsupported = false ∧ e.isInternal = false

/-- Whether `p` holds decides if the operation is implemented, and `q` if it gets the truth values
that it needs. -/
structure DecidedBy (p q : Prop) (x : Outcome α) : Prop where
  of_ok : ∀ a, x = .ok a → p ∧ q
  not_of_unsupported : ∀ cause, x = .error (.unsupported cause) → ¬p
  not_of_notBoolean : ∀ d, x = .error (.notBoolean d) → ¬q
  ne_malformed : ∀ kind, x ≠ .error (.malformed kind)

/-! ### Failures on data -/

namespace FailsOnData

/-- A value is no failure. -/
theorem ok (a : α) : FailsOnData (.ok a : Outcome α) :=
  nofun

/-- An argument is invalid on data. -/
theorem invalid (cause : InvalidArgument) : FailsOnData (invalid cause : Outcome α) := by
  rintro _ ⟨⟩
  exact ⟨rfl, rfl⟩

/-- A kernel fails on data. -/
theorem kernelFault (cause : KernelFault) : FailsOnData (kernelFault cause : Outcome α) := by
  rintro _ ⟨⟩
  exact ⟨rfl, rfl⟩

/-- Steps that fail on data only make a whole that does. -/
theorem bind {f : α → Outcome β} (hx : FailsOnData x)
    (hf : ∀ a, x = .ok a → FailsOnData (f a)) : FailsOnData (x >>= f) :=
  FailsWith.bind hx hf

/-- What is done with a value afterwards cannot fail. -/
theorem map {f : α → β} (hx : FailsOnData x) : FailsOnData (x.map f) :=
  FailsWith.map hx

/-- A traversal fails on data only if its elements do. -/
theorem mapM {f : α → Outcome β} {as : List α} (hf : ∀ a, FailsOnData (f a)) :
    FailsOnData (as.mapM f) :=
  FailsWith.mapM hf

/-- A loop fails on data only if its steps do from all states that it can come to. -/
theorem foldlM {f : β → α → Outcome β} {I : β → Prop} {as : List α} {b : β} (hb : I b)
    (hstep : ∀ a ∈ as, ∀ b b', I b → f b a = .ok b' → I b')
    (hf : ∀ a ∈ as, ∀ b, I b → FailsOnData (f b a)) : FailsOnData (as.foldlM f b) := by
  induction as generalizing b with
  | nil => exact ok _
  | cons a as ih =>
    rw [List.foldlM_cons]
    exact (hf a List.mem_cons_self b hb).bind fun b' hb' ↦
      ih (hstep a List.mem_cons_self b b' hb hb')
        (fun x hx ↦ hstep x (List.mem_cons_of_mem _ hx))
        fun x hx ↦ hf x (List.mem_cons_of_mem _ hx)

end FailsOnData

/-! ### Decided failures -/

namespace DecidedBy

/-- Conditions that hold decide about what fails on data only. -/
theorem of_data (hx : FailsOnData x) (hp : p) (hq : q) : DecidedBy p q x where
  of_ok _ _ := ⟨hp, hq⟩
  not_of_unsupported _ h := nomatch (hx _ h).1
  not_of_notBoolean _ h := nomatch (hx _ h).2
  ne_malformed _ h := nomatch (hx _ h).2

/-- Conditions that hold decide about a value. -/
theorem ok (a : α) (hp : p) (hq : q) : DecidedBy p q (.ok a : Outcome α) :=
  of_data (.ok a) hp hq

/-- Where the conditions hold, there is nothing left but failures on data. -/
theorem failsOnData (hx : DecidedBy p q x) (hp : p) (hq : q) : FailsOnData x := by
  rintro (_ | _ | _ | _ | _ | _ | _ | _) h
  case unsupported => exact absurd hp (hx.not_of_unsupported _ h)
  case notBoolean => exact absurd hq (hx.not_of_notBoolean _ h)
  case malformed => exact absurd h (hx.ne_malformed _)
  all_goals exact ⟨rfl, rfl⟩

/-- What is refused for being not implemented is not implemented. -/
theorem unsupported (cause : Unsupported) (hp : ¬p) (q : Prop) :
    DecidedBy p q (unsupported cause : Outcome α) where
  of_ok := nofun
  not_of_unsupported _ _ := hp
  not_of_notBoolean := nofun
  ne_malformed := nofun

/-- Conditions may be put in other words. -/
theorem congr (hx : DecidedBy p q x) (hp : p ↔ p') (hq : q ↔ q') : DecidedBy p' q' x where
  of_ok a h := (hx.of_ok a h).imp hp.1 hq.1
  not_of_unsupported cause h := mt hp.2 (hx.not_of_unsupported cause h)
  not_of_notBoolean d h := mt hq.2 (hx.not_of_notBoolean d h)
  ne_malformed := hx.ne_malformed

/-- **The conditions of a sequence** are those of the first operation and those of the second, which
are the same whatever the value of the first. -/
theorem bind {f : α → Outcome β} (hx : DecidedBy p q x)
    (hf : ∀ a, x = .ok a → DecidedBy p' q' (f a)) : DecidedBy (p ∧ p') (q ∧ q') (x >>= f) := by
  cases x with
  | ok a =>
    obtain ⟨hp, hq⟩ := hx.of_ok a rfl
    exact (hf a rfl).congr (and_iff_right hp).symm (and_iff_right hq).symm
  | error e =>
    refine ⟨nofun, ?_, ?_, ?_⟩
    · rintro cause ⟨⟩ ⟨hp, -⟩
      exact hx.not_of_unsupported cause rfl hp
    · rintro d ⟨⟩ ⟨hq, -⟩
      exact hx.not_of_notBoolean d rfl hq
    · rintro kind ⟨⟩
      exact hx.ne_malformed kind rfl

/-- A step that fails on data only adds no condition. -/
theorem bind_data {f : α → Outcome β} (hx : DecidedBy p q x)
    (hf : ∀ a, x = .ok a → FailsOnData (f a)) : DecidedBy p q (x >>= f) :=
  (hx.bind fun a h ↦ of_data (hf a h) trivial trivial).congr (and_iff_left trivial)
    (and_iff_left trivial)

/-- So does a step before, if it fails on data only. -/
theorem data_bind {f : α → Outcome β} (hx : FailsOnData x)
    (hf : ∀ a, x = .ok a → DecidedBy p q (f a)) : DecidedBy p q (x >>= f) :=
  ((of_data hx trivial trivial).bind hf).congr (and_iff_right trivial) (and_iff_right trivial)

/-- **The conditions of a traversal** are those of its elements. -/
theorem mapM {f : α → Outcome β} {p q : α → Prop} {as : List α}
    (hf : ∀ a ∈ as, DecidedBy (p a) (q a) (f a)) :
    DecidedBy (∀ a ∈ as, p a) (∀ a ∈ as, q a) (as.mapM f) := by
  induction as with
  | nil => exact ok _ nofun nofun
  | cons a as ih =>
    rw [List.mapM_cons, List.forall_mem_cons, List.forall_mem_cons]
    exact (hf a List.mem_cons_self).bind fun _ _ ↦
      (ih fun b hb ↦ hf b (List.mem_cons_of_mem _ hb)).bind_data fun _ _ ↦ .ok _

end DecidedBy

end Outcome

end Tabular
