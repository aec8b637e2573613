import Tabular.Error
import Mathlib.Data.List.Forall2

/-!
# Successful outcomes

How an outcome that is put together from others succeeds: a sequence of two when both do, a function
mapped over a list when it succeeds on every element. Everything that is proved about an operation
in steps reads its steps off these equivalences, so that no proof unfolds the sequencing itself.

A sequence is split by `Outcome.bind_eq_ok`, for errors of any type by `Except.bind_eq_ok`. A
traversal is split by `Outcome.mapM_eq_ok`, which relates the list to its results element by
element; that it rests on `List.Forall₂` and not on indices is why the facts about lengths, members
and later traversals all follow by induction on that relation.

What an operation can fail with is the other half. `Outcome.FailsWith p` says that every error it
ends in is one of `p`, and passes through sequences and traversals in the same way.
-/

/-- Whatever the errors are, a sequence succeeds when both of its parts do. -/
theorem Except.bind_eq_ok {ε α β : Type} {x : Except ε α} {f : α → Except ε β} {b : β} :
    x >>= f = .ok b ↔ ∃ a, x = .ok a ∧ f a = .ok b := by
  cases x with
  | error e => exact ⟨nofun, fun ⟨_, h, _⟩ ↦ nomatch h⟩
  | ok a =>
    refine ⟨fun h ↦ ⟨a, rfl, h⟩, ?_⟩
    rintro ⟨_, ⟨⟩, h⟩
    exact h

namespace Tabular

namespace Outcome

variable {α β : Type}

/-- A sequence succeeds when the first part does and the second does on its value. -/
theorem bind_eq_ok {x : Outcome α} {f : α → Outcome β} {b : β} :
    x >>= f = .ok b ↔ ∃ a, x = .ok a ∧ f a = .ok b :=
  Except.bind_eq_ok

/-- What comes after a success works on its value. -/
@[simp]
theorem ok_bind (a : α) (f : α → Outcome β) : (.ok a : Outcome α) >>= f = f a :=
  rfl

/-- Two successes are one if their values are. -/
theorem ok_eq_ok {a b : α} : (.ok a : Outcome α) = .ok b ↔ b = a :=
  ⟨fun h ↦ by injection h with h; exact h.symm, fun h ↦ h ▸ rfl⟩

/-- A function of the value changes nothing about success. -/
theorem map_eq_ok {x : Outcome α} {f : α → β} {b : β} :
    x.map f = .ok b ↔ ∃ a, x = .ok a ∧ f a = b := by
  cases x with
  | error e => exact ⟨nofun, fun ⟨_, h, _⟩ ↦ nomatch h⟩
  | ok a =>
    refine ⟨fun h ↦ ⟨a, rfl, by injection h⟩, ?_⟩
    rintro ⟨_, ⟨⟩, rfl⟩
    rfl

/-- A check can be run. -/
theorem isOk_iff {x : Outcome Unit} : x.isOk = true ↔ x = .ok () := by
  cases x with
  | ok _ => exact ⟨fun _ ↦ rfl, fun _ ↦ rfl⟩
  | error _ => exact ⟨nofun, nofun⟩

/-- An outcome that is no success is a failure. -/
theorem not_ok_iff {x : Outcome α} : (¬∃ a, x = .ok a) ↔ ∃ e, x = .error e := by
  cases x with
  | error e => exact ⟨fun _ ↦ ⟨e, rfl⟩, fun _ ⟨_, h⟩ ↦ nomatch h⟩
  | ok a => exact ⟨fun h ↦ absurd ⟨a, rfl⟩ h, fun ⟨_, h⟩ ↦ nomatch h⟩

/-- **The `Forall₂` specification of a traversal.** -/
theorem mapM_eq_ok {f : α → Outcome β} {as : List α} {bs : List β} :
    as.mapM f = .ok bs ↔ List.Forall₂ (fun a b ↦ f a = .ok b) as bs := by
  induction as generalizing bs with
  | nil =>
    rw [List.mapM_nil, List.forall₂_nil_left_iff]
    exact ⟨fun h ↦ by injection h with h; exact h.symm, fun h ↦ h ▸ rfl⟩
  | cons a as ih =>
    rw [List.mapM_cons, List.forall₂_cons_left_iff, bind_eq_ok]
    constructor
    · rintro ⟨b, hb, h⟩
      obtain ⟨bs', hbs, h⟩ := bind_eq_ok.1 h
      injection h with h
      exact ⟨b, bs', hb, ih.1 hbs, h.symm⟩
    · rintro ⟨b, bs', hb, hbs, rfl⟩
      exact ⟨b, hb, bind_eq_ok.2 ⟨bs', ih.2 hbs, rfl⟩⟩

/-- A traversal succeeds if every element does. -/
theorem exists_mapM_eq_ok {f : α → Outcome β} {as : List α} (h : ∀ a ∈ as, ∃ b, f a = .ok b) :
    ∃ bs, as.mapM f = .ok bs := by
  induction as with
  | nil => exact ⟨[], rfl⟩
  | cons a as ih =>
    obtain ⟨b, hb⟩ := h a List.mem_cons_self
    obtain ⟨bs, hbs⟩ := ih fun x hx ↦ h x (List.mem_cons_of_mem _ hx)
    exact ⟨b :: bs, mapM_eq_ok.2 (.cons hb (mapM_eq_ok.1 hbs))⟩

/-- A traversal fails with the one error that elements fail with. -/
theorem mapM_eq_error {f : α → Outcome β} {as : List α} {e : Error}
    (h : ∀ a ∈ as, (∃ b, f a = .ok b) ∨ f a = .error e) {a : α} (ha : a ∈ as)
    (he : f a = .error e) : as.mapM f = .error e := by
  induction as with
  | nil => cases ha
  | cons x xs ih =>
    rw [List.mapM_cons]
    rcases h x List.mem_cons_self with ⟨b, hb⟩ | hx
    · rcases List.mem_cons.1 ha with rfl | ha
      · rw [hb] at he
        cases he
      · rw [hb, ih (fun y hy ↦ h y (List.mem_cons_of_mem _ hy)) ha]
        rfl
    · rw [hx]
      rfl

/-- A traversal that succeeds does so on every element. -/
theorem exists_of_mem {f : α → Outcome β} {as : List α} {bs : List β} (h : as.mapM f = .ok bs)
    {a : α} (ha : a ∈ as) : ∃ b ∈ bs, f a = .ok b := by
  rw [mapM_eq_ok] at h
  induction h with
  | nil => cases ha
  | cons hab _ ih =>
    rcases List.mem_cons.1 ha with rfl | ha
    · exact ⟨_, List.mem_cons_self, hab⟩
    · obtain ⟨b, hb, hab⟩ := ih ha
      exact ⟨b, List.mem_cons_of_mem _ hb, hab⟩

/-- Every result of a traversal is that of an element. -/
theorem exists_of_mem_result {f : α → Outcome β} {as : List α} {bs : List β}
    (h : as.mapM f = .ok bs) {b : β} (hb : b ∈ bs) : ∃ a ∈ as, f a = .ok b := by
  rw [mapM_eq_ok] at h
  induction h with
  | nil => cases hb
  | cons hab _ ih =>
    rcases List.mem_cons.1 hb with rfl | hb
    · exact ⟨_, List.mem_cons_self, hab⟩
    · obtain ⟨a, ha, hab⟩ := ih hb
      exact ⟨a, List.mem_cons_of_mem _ ha, hab⟩

/-- What is told of every result from its element is told of all of them. -/
theorem map_eq_map_of_mapM {γ : Type} {f : α → Outcome β} {g : β → γ} {g' : α → γ} {as : List α}
    {bs : List β} (h : as.mapM f = .ok bs) (hg : ∀ a ∈ as, ∀ b, f a = .ok b → g b = g' a) :
    bs.map g = as.map g' := by
  rw [mapM_eq_ok] at h
  induction h with
  | nil => rfl
  | cons hab _ ih =>
    rw [List.map_cons, List.map_cons, hg _ List.mem_cons_self _ hab,
      ih fun a ha ↦ hg a (List.mem_cons_of_mem _ ha)]

/-- Two traversals of one list give the same if they do so element by element. -/
theorem map_eq_map_iff_of_mapM {γ δ : Type} {f : α → Outcome β} {f' : α → Outcome γ} {g : β → δ}
    {g' : γ → δ} {P : α → Prop} {as : List α} {bs : List β} {cs : List γ} (h : as.mapM f = .ok bs)
    (h' : as.mapM f' = .ok cs)
    (hg : ∀ a ∈ as, ∀ b c, f a = .ok b → f' a = .ok c → (g b = g' c ↔ P a)) :
    bs.map g = cs.map g' ↔ ∀ a ∈ as, P a := by
  rw [mapM_eq_ok] at h h'
  induction h generalizing cs with
  | nil =>
    cases h'
    exact ⟨nofun, fun _ ↦ rfl⟩
  | cons hab _ ih =>
    cases h' with
    | cons hac h' =>
      rw [List.map_cons, List.map_cons, List.cons_eq_cons, hg _ List.mem_cons_self _ _ hab hac,
        ih h' fun a ha ↦ hg a (List.mem_cons_of_mem _ ha), List.forall_mem_cons]

/-- A traversal whose results are told from those of another. -/
theorem mapM_eq_ok_map {γ : Type} {f : α → Outcome β} {f' : α → Outcome γ} {k : β → γ}
    {as : List α} {bs : List β} (h : as.mapM f = .ok bs)
    (hf : ∀ a ∈ as, ∀ b, f a = .ok b → f' a = .ok (k b)) : as.mapM f' = .ok (bs.map k) := by
  rw [mapM_eq_ok] at h
  rw [mapM_eq_ok, List.forall₂_map_right_iff]
  induction h with
  | nil => exact .nil
  | cons hab _ ih =>
    exact .cons (hf _ List.mem_cons_self _ hab) (ih fun a ha ↦ hf a (List.mem_cons_of_mem _ ha))

/-- Elements have results. -/
theorem ne_nil_of_mapM {f : α → Outcome β} {as : List α} {bs : List β} (h : as.mapM f = .ok bs)
    (hne : as ≠ []) : bs ≠ [] := by
  obtain ⟨a, ha⟩ := List.exists_mem_of_ne_nil _ hne
  obtain ⟨b, hb, -⟩ := exists_of_mem h ha
  exact List.ne_nil_of_mem hb

/-- What fails on every element fails on a list that has any. -/
theorem mapM_error_ne_ok {e : Error} {as : List α} {bs : List β} (hne : as ≠ []) :
    as.mapM (fun _ ↦ (.error e : Outcome β)) ≠ .ok bs := by
  intro h
  obtain ⟨a, ha⟩ := List.exists_mem_of_ne_nil _ hne
  obtain ⟨_, _, hb⟩ := exists_of_mem h ha
  cases hb

/-- What holds at the start of a loop, and after a step if it did before, holds in the end. -/
theorem foldlM_induction {f : β → α → Outcome β} {I : β → Prop} {as : List α} {b b' : β}
    (h : as.foldlM f b = .ok b') (hb : I b)
    (hf : ∀ a ∈ as, ∀ b b', I b → f b a = .ok b' → I b') : I b' := by
  induction as generalizing b with
  | nil =>
    injection h with h
    exact h ▸ hb
  | cons a as ih =>
    obtain ⟨b₁, hstep, h⟩ := bind_eq_ok.1 h
    exact ih h (hf a List.mem_cons_self b b₁ hb hstep) fun x hx ↦ hf x (List.mem_cons_of_mem _ hx)

/-! ### Failures of one kind -/

/-- The operation fails with errors of the kind `p` only. -/
def FailsWith (p : Error → Prop) (x : Outcome α) : Prop :=
  ∀ e, x = .error e → p e

namespace FailsWith

variable {p q : Error → Prop} {x : Outcome α}

/-- A success fails with nothing. -/
theorem ok (a : α) : FailsWith p (.ok a : Outcome α) :=
  nofun

/-- A failure of the kind is one. -/
theorem error {e : Error} (h : p e) : FailsWith p (.error e : Outcome α) := by
  rintro _ ⟨⟩
  exact h

/-- A kind of errors may be made larger. -/
theorem mono (h : FailsWith p x) (hpq : ∀ e, p e → q e) : FailsWith q x :=
  fun e he ↦ hpq e (h e he)

/-- A sequence fails with what its parts fail with; the second part is only asked about the values
that the first one has. -/
theorem bind {f : α → Outcome β} (hx : FailsWith p x) (hf : ∀ a, x = .ok a → FailsWith p (f a)) :
    FailsWith p (x >>= f) := by
  cases x with
  | ok a => exact hf a rfl
  | error e => exact .error (hx e rfl)

/-- A function of the value fails with nothing more. -/
theorem map {f : α → β} (hx : FailsWith p x) : FailsWith p (x.map f) := by
  cases x with
  | ok a => exact .ok _
  | error e => exact .error (hx e rfl)

/-- A traversal fails with what its elements fail with. -/
theorem mapM {f : α → Outcome β} {as : List α} (hf : ∀ a, FailsWith p (f a)) :
    FailsWith p (as.mapM f) := by
  induction as with
  | nil => exact .ok _
  | cons a as ih =>
    rw [List.mapM_cons]
    exact (hf a).bind fun _ _ ↦ ih.bind fun _ _ ↦ .ok _

end FailsWith

/-- Outcomes listed beforehand are taken in the same order. -/
@[simp]
theorem mapM_id_map (f : α → Outcome β) (as : List α) : (as.map f).mapM id = as.mapM f :=
  List.mapM_map

/-- Successes listed beforehand are a success with all of them. -/
@[simp]
theorem mapM_id_ok (as : List α) : (as.map .ok).mapM id = (.ok as : Outcome (List α)) := by
  rw [mapM_eq_ok, List.forall₂_map_left_iff, List.forall₂_same]
  exact fun _ _ ↦ rfl

/-- A traversal of the first element alone. -/
theorem mapM_take_one (f : α → Outcome β) (a : α) (as : List α) :
    ((a :: as).take 1).mapM f = f a >>= fun b ↦ .ok [b] := by
  rw [List.take_succ_cons, List.take_zero, List.mapM_cons, List.mapM_nil]
  rfl

/-- A traversal of two elements takes one after the other. -/
theorem mapM_pair (f : α → Outcome β) (a a' : α) :
    [a, a'].mapM f = f a >>= fun b ↦ f a' >>= fun b' ↦ .ok [b, b'] := by
  rw [List.mapM_cons, List.mapM_cons, List.mapM_nil]
  cases f a with
  | error e => rfl
  | ok b => cases f a' <;> rfl

/-- A traversal along the results of another is one traversal of both. -/
theorem mapM_zip_eq_ok {γ : Type} {f : α → Outcome β} {k : α → β → Outcome γ} {as : List α}
    {cs : List γ} :
    (∃ bs, as.mapM f = .ok bs ∧ (as.zip bs).mapM (fun p ↦ k p.1 p.2) = .ok cs) ↔
      as.mapM (fun a ↦ f a >>= k a) = .ok cs := by
  simp only [mapM_eq_ok, bind_eq_ok]
  constructor
  · rintro ⟨bs, hbs, hcs⟩
    induction hbs generalizing cs with
    | nil =>
      cases hcs
      exact .nil
    | cons hb _ ih =>
      cases hcs with
      | cons hc hcs => exact .cons ⟨_, hb, hc⟩ (ih hcs)
  · intro h
    induction h with
    | nil => exact ⟨[], .nil, .nil⟩
    | cons hc _ ih =>
      obtain ⟨b, hb, hc⟩ := hc
      obtain ⟨bs, hbs, hcs⟩ := ih
      exact ⟨b :: bs, .cons hb hbs, .cons hc hcs⟩

/-- What there is is mapped, and nothing stays nothing. -/
theorem optionMapM_eq_ok {f : α → Outcome β} {o : Option α} {o' : Option β} :
    o.mapM f = .ok o' ↔ Option.Rel (fun a b ↦ f a = .ok b) o o' := by
  cases o with
  | none => exact ⟨fun h ↦ by injection h with h; exact h ▸ .none, fun | .none => rfl⟩
  | some a =>
    rw [Option.mapM_some]
    cases hf : f a with
    | error e => exact ⟨nofun, fun | .some h => by rw [hf] at h; cases h⟩
    | ok b =>
      refine ⟨fun h ↦ by injection h with h; exact h ▸ .some hf, fun | .some h => ?_⟩
      rw [hf] at h
      injection h with h
      exact h ▸ rfl

end Outcome

end Tabular
