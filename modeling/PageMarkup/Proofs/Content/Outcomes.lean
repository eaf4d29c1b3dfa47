import PageMarkup.Fault

/-!
# Computations that may fail

Computations one after the other succeed if each of them does. A computation for each member of a
list succeeds as a whole if it does for every member, and what comes of it comes of the members.

A computation that fails on a state leaves the state as it is by then.

## Main definitions

* `Gives` : a computation succeeds with a result of which something holds.
* `outcomeOn` : what a computation on a state comes to.

## Main results

* `bind_eq_ok_iff` : when two computations succeed one after the other.
* `gives_pair_iff` : when two computations succeed whose results are put together.
* `outcomeOn_bind` : what two computations on a state come to, one after the other.
* `mapM_eq_ok_map` : the outcome of a computation that succeeds for every member.
* `mem_of_mapM_eq_ok`, `exists_mem_of_mapM_eq_ok` : what comes of a computation comes of a member,
  and something comes of each.
-/

namespace PageMarkup

variable {α β ε : Type} {f : α → Except ε β} {xs : List α}

/-- Two computations one after the other succeed if both do. -/
theorem bind_eq_ok_iff {x : Except ε α} {k : α → Except ε β} {b : β} :
    x >>= k = .ok b ↔ ∃ a, x = .ok a ∧ k a = .ok b := by
  cases x <;> simp [bind, Except.bind]

theorem bind_eq_error_iff {x : Except ε α} {k : α → Except ε β} {f : ε} :
    x >>= k = .error f ↔ x = .error f ∨ ∃ a, x = .ok a ∧ k a = .error f := by
  cases x <;> simp [bind, Except.bind]

theorem map_eq_ok_iff {x : Except ε α} {g : α → β} {b : β} :
    g <$> x = .ok b ↔ ∃ a, x = .ok a ∧ g a = b := by
  cases x <;> simp [Functor.map, Except.map]

theorem mapError_eq_ok_iff {ε' : Type} {r : Except ε α} {g : ε → ε'} {a : α} :
    r.mapError g = .ok a ↔ r = .ok a := by
  cases r with
  | ok b => exact ⟨fun h => congrArg _ (Except.ok.inj h), fun h => congrArg _ (Except.ok.inj h)⟩
  | error f => exact ⟨(nomatch ·), (nomatch ·)⟩

theorem liftMisuse_eq_ok_iff {r : Except Misuse α} {a : α} : liftMisuse r = .ok a ↔ r = .ok a :=
  mapError_eq_ok_iff

theorem liftMisuse_eq_error_iff {r : Except Misuse α} {f : Fault} :
    liftMisuse r = .error f ↔ ∃ how, r = .error how ∧ f = .misuse how := by
  cases r with
  | ok a => exact ⟨(nomatch ·), fun ⟨_, h, _⟩ => nomatch h⟩
  | error how =>
    constructor
    · intro h
      exact ⟨how, rfl, (Except.error.inj h).symm⟩
    · rintro ⟨_, h, rfl⟩
      cases h
      rfl

theorem exists_of_isOk {r : Except ε α} (h : r.isOk = true) : ∃ a, r = .ok a := by
  cases r with
  | ok a => exact ⟨a, rfl⟩
  | error _ => cases h

theorem toOption_eq_some_iff {r : Except ε α} {a : α} : r.toOption = some a ↔ r = .ok a := by
  cases r with
  | ok b => exact ⟨fun h => congrArg _ (Option.some.inj h), fun h => congrArg _ (Except.ok.inj h)⟩
  | error f => exact ⟨(nomatch ·), (nomatch ·)⟩

/-- A computation succeeds with a result of which something holds. -/
def Gives (P : α → Prop) (r : Except ε α) : Prop :=
  ∃ a, r = .ok a ∧ P a

/-- Two computations whose results are put together succeed if both do. -/
theorem gives_pair_iff {γ : Type} {P : α → Prop} {P' : β → Prop} {Q : γ → Prop}
    {g : α → β → γ} (hg : ∀ a b, Q (g a b) ↔ P a ∧ P' b) {x : Except ε α} {y : Except ε β} :
    Gives Q (do return g (← x) (← y)) ↔ Gives P x ∧ Gives P' y := by
  cases x with
  | error f => exact iff_of_false (fun ⟨_, h, _⟩ => nomatch h) fun ⟨⟨_, h, _⟩, _⟩ => nomatch h
  | ok a =>
    cases y with
    | error f => exact iff_of_false (fun ⟨_, h, _⟩ => nomatch h) fun ⟨_, _, h, _⟩ => nomatch h
    | ok b =>
      constructor
      · rintro ⟨c, hc, hQ⟩
        obtain rfl := Except.ok.inj hc
        obtain ⟨ha, hb⟩ := (hg a b).mp hQ
        exact ⟨⟨a, rfl, ha⟩, b, rfl, hb⟩
      · rintro ⟨⟨a', ha', ha⟩, b', hb', hb⟩
        cases ha'
        cases hb'
        exact ⟨g a b, rfl, (hg a b).mpr ⟨ha, hb⟩⟩

/-- The outcome of a computation that succeeds for every member. -/
theorem mapM_eq_ok_map {g : α → β} (h : ∀ x ∈ xs, f x = .ok (g x)) :
    xs.mapM f = .ok (xs.map g) := by
  induction xs with
  | nil => rfl
  | cons x xs ih =>
    rw [List.mapM_cons, h x List.mem_cons_self, ih fun y hy => h y (List.mem_cons_of_mem _ hy)]
    rfl

/-- What comes of a computation over a list comes of one of its members. -/
theorem mem_of_mapM_eq_ok {ys : List β} (h : xs.mapM f = .ok ys) :
    ∀ y ∈ ys, ∃ x ∈ xs, f x = .ok y := by
  induction xs generalizing ys with
  | nil =>
    cases h
    exact fun y hy => nomatch hy
  | cons x xs ih =>
    rw [List.mapM_cons] at h
    cases hx : f x with
    | error _ =>
      rw [hx] at h
      cases h
    | ok z =>
      cases hrest : xs.mapM f with
      | error _ =>
        rw [hx, hrest] at h
        cases h
      | ok zs =>
        rw [hx, hrest] at h
        cases h
        intro y hy
        rcases List.mem_cons.mp hy with rfl | hy
        · exact ⟨x, List.mem_cons_self, hx⟩
        · obtain ⟨w, hw, hwy⟩ := ih hrest y hy
          exact ⟨w, List.mem_cons_of_mem _ hw, hwy⟩

/-- A computation over a list has an outcome for each of its members. -/
theorem exists_mem_of_mapM_eq_ok {ys : List β} (h : xs.mapM f = .ok ys) :
    ∀ x ∈ xs, ∃ y ∈ ys, f x = .ok y := by
  induction xs generalizing ys with
  | nil => exact fun x hx => nomatch hx
  | cons x xs ih =>
    rw [List.mapM_cons] at h
    obtain ⟨z, hx, h⟩ := bind_eq_ok_iff.mp h
    obtain ⟨zs, hrest, h⟩ := bind_eq_ok_iff.mp h
    obtain rfl := Except.ok.inj h
    refine List.forall_mem_cons.mpr ⟨⟨z, List.mem_cons_self, hx⟩, fun w hw => ?_⟩
    obtain ⟨y, hy, hwy⟩ := ih hrest w hw
    exact ⟨y, List.mem_cons_of_mem _ hy, hwy⟩

theorem mapM_cons_eq_ok_iff {x : α} {ys : List β} :
    (x :: xs).mapM f = .ok ys ↔ ∃ y zs, f x = .ok y ∧ xs.mapM f = .ok zs ∧ y :: zs = ys := by
  rw [List.mapM_cons, bind_eq_ok_iff]
  constructor
  · rintro ⟨y, hy, h⟩
    obtain ⟨zs, hzs, h⟩ := bind_eq_ok_iff.mp h
    exact ⟨y, zs, hy, hzs, Except.ok.inj h⟩
  · rintro ⟨y, zs, hy, hzs, rfl⟩
    exact ⟨y, hy, bind_eq_ok_iff.mpr ⟨zs, hzs, rfl⟩⟩

theorem exists_perm_of_mapM_eq_ok {xs' : List α} (hperm : xs.Perm xs') {ys : List β}
    (h : xs.mapM f = .ok ys) : ∃ ys', xs'.mapM f = .ok ys' ∧ ys.Perm ys' := by
  induction hperm generalizing ys with
  | nil => exact ⟨ys, h, .refl ys⟩
  | cons x _ ih =>
    obtain ⟨y, zs, hy, hzs, rfl⟩ := mapM_cons_eq_ok_iff.mp h
    obtain ⟨zs', hzs', hperm⟩ := ih hzs
    exact ⟨y :: zs', mapM_cons_eq_ok_iff.mpr ⟨y, zs', hy, hzs', rfl⟩, hperm.cons y⟩
  | swap a b xs =>
    obtain ⟨y, _, hy, hrest, rfl⟩ := mapM_cons_eq_ok_iff.mp h
    obtain ⟨z, zs, hz, hzs, rfl⟩ := mapM_cons_eq_ok_iff.mp hrest
    have hboth := mapM_cons_eq_ok_iff.mpr
      ⟨z, _, hz, mapM_cons_eq_ok_iff.mpr ⟨y, zs, hy, hzs, rfl⟩, rfl⟩
    exact ⟨z :: y :: zs, hboth, .swap z y zs⟩
  | trans _ _ ih ih' =>
    obtain ⟨ys', hys', hperm⟩ := ih h
    obtain ⟨ys'', hys'', hperm'⟩ := ih' hys'
    exact ⟨ys'', hys'', hperm.trans hperm'⟩

/-! ### Computations on a state -/

variable {σ : Type}

/-- What a computation on a state comes to, and the state after it. -/
def outcomeOn (r : ExceptT ε (StateM σ) α) (s : σ) : Except ε α × σ :=
  r.run.run s

theorem outcomeOn_bind (r : ExceptT ε (StateM σ) α) (k : α → ExceptT ε (StateM σ) β) (s : σ) :
    outcomeOn (r >>= k) s =
      match outcomeOn r s with
      | (.ok a, s) => outcomeOn (k a) s
      | (.error fault, s) => (.error fault, s) := by
  unfold outcomeOn ExceptT.run StateT.run
  simp only [bind, ExceptT.bind, ExceptT.mk, StateT.bind]
  rcases r s with ⟨first | first, s'⟩ <;> rfl

end PageMarkup
