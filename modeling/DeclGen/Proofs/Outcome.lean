import Mathlib.Data.List.Forall2
import Mathlib.Data.List.Perm.Basic

/-!
# Outcomes in sequence

A computation that can fail either gives a value or an error. The lemmas here say what a *sequence*
of such computations did, given its outcome: a sequence that succeeded succeeded in each step, and
one that failed either failed in its first step or failed after it. They are what every proof about
loading begins with, so that no proof has to open a `do` block by itself.

What a list of steps gives stands beside the list, step by step, and so do the units before and
after linking. The last lemmas go from one side of such a pair of lists to the other.
-/

namespace DeclGen

variable {ε α β : Type}

/-- After a success the rest goes on with its value. -/
theorem ok_bind {a : α} {f : α → Except ε β} : Except.ok a >>= f = f a := rfl

/-- A sequence succeeds exactly when its first step does and the rest does on its value. -/
theorem bind_eq_ok {x : Except ε α} {f : α → Except ε β} {b : β} :
    x >>= f = .ok b ↔ ∃ a, x = .ok a ∧ f a = .ok b := by
  cases x with
  | error e => exact ⟨nofun, nofun⟩
  | ok a => exact ⟨fun h => ⟨a, rfl, h⟩, fun ⟨_, ha, h⟩ => by cases ha; exact h⟩

/-- A sequence fails exactly when its first step does or the rest does on its value. -/
theorem bind_eq_error {x : Except ε α} {f : α → Except ε β} {e : ε} :
    x >>= f = .error e ↔ x = .error e ∨ ∃ a, x = .ok a ∧ f a = .error e := by
  cases x with
  | error e' =>
    constructor
    · intro h
      cases h
      exact Or.inl rfl
    · rintro (h | ⟨_, ha, _⟩)
      · cases h
        rfl
      · cases ha
  | ok a =>
    constructor
    · exact fun h => Or.inr ⟨a, rfl, h⟩
    · rintro (h | ⟨_, ha, h⟩)
      · cases h
      · cases ha
        exact h

/-- A first step and the rest of a list succeed exactly when both do. -/
theorem cons_eq_ok {x : Except ε α} {xs : Except ε (List α)} {l : List α} :
    (x >>= fun a => xs >>= fun as => .ok (a :: as)) = .ok l ↔
      ∃ a as, x = .ok a ∧ xs = .ok as ∧ a :: as = l := by
  constructor
  · intro h
    obtain ⟨a, ha, h⟩ := bind_eq_ok.mp h
    obtain ⟨as, has, h⟩ := bind_eq_ok.mp h
    cases h
    exact ⟨a, as, ha, has, rfl⟩
  · rintro ⟨a, as, ha, has, rfl⟩
    exact bind_eq_ok.mpr ⟨a, ha, bind_eq_ok.mpr ⟨as, has, rfl⟩⟩

/-- They fail exactly when the first step does or the rest does after it. -/
theorem cons_eq_error {x : Except ε α} {xs : Except ε (List α)} {e : ε} :
    (x >>= fun a => xs >>= fun as => .ok (a :: as)) = .error e ↔
      x = .error e ∨ ∃ a, x = .ok a ∧ xs = .error e := by
  rw [bind_eq_error]
  refine or_congr_right (exists_congr fun a => and_congr_right fun _ => ?_)
  constructor
  · intro h
    rcases bind_eq_error.mp h with h | ⟨_, _, h⟩
    · exact h
    · cases h
  · exact fun h => bind_eq_error.mpr (Or.inl h)

/-- **A list of steps succeeds exactly when each of them does**, and then it gives their values in
order. -/
theorem mapM_eq_ok {f : α → Except ε β} {as : List α} {bs : List β} :
    as.mapM f = .ok bs ↔ List.Forall₂ (fun a b => f a = .ok b) as bs := by
  induction as generalizing bs with
  | nil =>
    constructor
    · intro h
      cases h
      exact .nil
    · intro h
      cases h
      rfl
  | cons a as ih =>
    rw [List.mapM_cons]
    refine Iff.trans cons_eq_ok ?_
    constructor
    · rintro ⟨b, bs', hb, hbs, rfl⟩
      exact .cons hb (ih.mp hbs)
    · rintro (_ | ⟨hb, hbs⟩)
      exact ⟨_, _, hb, ih.mpr hbs, rfl⟩

/-- A list of steps succeeds if each step does. -/
theorem exists_mapM_eq_ok {f : α → Except ε β} {as : List α} (h : ∀ a ∈ as, ∃ b, f a = .ok b) :
    ∃ bs, as.mapM f = .ok bs := by
  simp only [mapM_eq_ok]
  induction as with
  | nil => exact ⟨[], .nil⟩
  | cons a as ih =>
    obtain ⟨ha, has⟩ := List.forall_mem_cons.mp h
    obtain ⟨b, hb⟩ := ha
    obtain ⟨bs, hbs⟩ := ih has
    exact ⟨b :: bs, .cons hb hbs⟩

/-- Steps that do the same to each element do the same to the list. -/
theorem mapM_congr {f g : α → Except ε β} {as : List α} (h : ∀ a ∈ as, f a = g a) :
    as.mapM f = as.mapM g := by
  induction as with
  | nil => rfl
  | cons a as ih =>
    obtain ⟨ha, has⟩ := List.forall_mem_cons.mp h
    rw [List.mapM_cons, List.mapM_cons, ha, ih has]

/-- Steps that go on from each other succeed only if each of them does, from somewhere. -/
theorem exists_of_foldlM_eq_ok {f : β → α → Except ε β} {as : List α} {b c : β}
    (h : as.foldlM f b = .ok c) {a : α} (ha : a ∈ as) : ∃ b' c', f b' a = .ok c' := by
  induction as generalizing b with
  | nil => cases ha
  | cons first rest ih =>
    rw [List.foldlM_cons] at h
    obtain ⟨b', hfirst, hrest⟩ := bind_eq_ok.mp h
    rcases List.mem_cons.mp ha with rfl | ha
    · exact ⟨b, b', hfirst⟩
    · exact ih hrest ha

theorem mapError_eq_ok {δ : Type} {x : Except ε α} {f : ε → δ} {a : α} :
    x.mapError f = .ok a ↔ x = .ok a := by
  cases x with
  | error e => exact ⟨nofun, nofun⟩
  | ok b => exact ⟨fun h => by cases h; rfl, fun h => by cases h; rfl⟩

/-! ### Two runs -/

/-- Two computations **end alike**: with values that are in some relation, or with the same error.
-/
inductive EndsAlike (R : α → β → Prop) : Except ε α → Except ε β → Prop
  /-- Both give a value. -/
  | ok {a : α} {b : β} : R a b → EndsAlike R (.ok a) (.ok b)
  /-- Both fail alike. -/
  | error (e : ε) : EndsAlike R (.error e) (.error e)

section EndsAlike

variable {R : α → β → Prop} {x : Except ε α} {y : Except ε β}

/-- Computations that end alike can be gone on with alike. -/
theorem EndsAlike.bind {γ δ : Type} {S : γ → δ → Prop} (h : EndsAlike R x y)
    {f : α → Except ε γ} {g : β → Except ε δ} (hfg : ∀ a b, R a b → EndsAlike S (f a) (g b)) :
    EndsAlike S (x >>= f) (y >>= g) := by
  cases h with
  | ok hab => exact hfg _ _ hab
  | error e => exact .error e

theorem EndsAlike.mono {S : α → β → Prop} (h : EndsAlike R x y) (hRS : ∀ a b, R a b → S a b) :
    EndsAlike S x y := by
  cases h with
  | ok hab => exact .ok (hRS _ _ hab)
  | error e => exact .error e

/-- **Lists of steps end alike** where they stand side by side and each step ends alike. -/
theorem EndsAlike.mapM {γ δ : Type} {S : γ → δ → Prop} {f : α → Except ε γ} {g : β → Except ε δ}
    {as : List α} {bs : List β} (h : List.Forall₂ R as bs)
    (hfg : ∀ a b, R a b → EndsAlike S (f a) (g b)) :
    EndsAlike (List.Forall₂ S) (as.mapM f) (bs.mapM g) := by
  induction h with
  | nil => exact .ok .nil
  | cons hab _ ih =>
    rw [List.mapM_cons, List.mapM_cons]
    exact (hfg _ _ hab).bind fun c d hcd => ih.bind fun cs ds hcds => .ok (.cons hcd hcds)

/-- Two runs over one list end alike where the second gives what the first gives, changed. -/
theorem EndsAlike.mapM_map {γ δ : Type} {ψ : γ → δ} {f : α → Except ε γ} {g : α → Except ε δ}
    (h : ∀ a, EndsAlike (fun c d => d = ψ c) (f a) (g a)) (as : List α) :
    EndsAlike (fun cs ds => ds = cs.map ψ) (as.mapM f) (as.mapM g) := by
  induction as with
  | nil => exact .ok rfl
  | cons a as ih =>
    rw [List.mapM_cons, List.mapM_cons]
    refine (h a).bind ?_
    rintro c _ rfl
    refine ih.bind ?_
    rintro cs _ rfl
    exact .ok rfl

end EndsAlike

/-! ### Lists side by side -/

variable {R : α → β → Prop} {as : List α} {bs : List β}

theorem exists_of_mem_left (h : List.Forall₂ R as bs) {a : α} (ha : a ∈ as) : ∃ b ∈ bs, R a b := by
  induction h with
  | nil => cases ha
  | cons hab _ ih =>
    rcases List.mem_cons.mp ha with rfl | ha
    · exact ⟨_, List.mem_cons_self, hab⟩
    · obtain ⟨b, hb, h⟩ := ih ha
      exact ⟨b, List.mem_cons_of_mem _ hb, h⟩

theorem exists_of_mem_right (h : List.Forall₂ R as bs) {b : β} (hb : b ∈ bs) :
    ∃ a ∈ as, R a b :=
  exists_of_mem_left h.flip hb

/-- What is found first on one side stands beside what is found first on the other, where both sides
are looked through alike. -/
theorem find?_of_forall₂ {p : α → Bool} {q : β → Bool} (h : List.Forall₂ R as bs)
    (hpq : ∀ a b, R a b → p a = q b) : Option.Rel R (as.find? p) (bs.find? q) := by
  induction h with
  | nil => exact .none
  | @cons a' b' _ _ hab _ ih =>
    rw [List.find?_cons, List.find?_cons, hpq a' b' hab]
    cases q b' with
    | true => exact .some hab
    | false => exact ih

theorem exists_find?_of_find? {p : α → Bool} {q : β → Bool} (h : List.Forall₂ R as bs)
    (hpq : ∀ a b, R a b → p a = q b) {b : β} (hb : bs.find? q = some b) :
    ∃ a, as.find? p = some a ∧ R a b := by
  have hrel := find?_of_forall₂ h hpq
  rw [hb] at hrel
  generalize as.find? p = found at hrel ⊢
  cases hrel with
  | some hab => exact ⟨_, rfl, hab⟩

/-- Lists that stand side by side have the same image where their elements have. -/
theorem map_eq_map_of_forall₂ {γ : Type} {f : α → γ} {g : β → γ} (h : List.Forall₂ R as bs)
    (hfg : ∀ a b, R a b → f a = g b) : as.map f = bs.map g := by
  induction h with
  | nil => rfl
  | cons hab _ ih => rw [List.map_cons, List.map_cons, hfg _ _ hab, ih]

/-- What stands beside two lists, one after the other, is two lists, one after the other. -/
theorem exists_of_forall₂_append {as as' : List α} {bs : List β}
    (h : List.Forall₂ R (as ++ as') bs) :
    ∃ first rest, bs = first ++ rest ∧ List.Forall₂ R as first ∧ List.Forall₂ R as' rest := by
  induction as generalizing bs with
  | nil => exact ⟨[], bs, rfl, .nil, h⟩
  | cons a as ih =>
    cases h with
    | @cons _ b _ bs hab h =>
      obtain ⟨first, rest, rfl, hfirst, hrest⟩ := ih h
      exact ⟨b :: first, rest, rfl, .cons hab hfirst, hrest⟩

/-- Steps for two lists, one after the other, succeed exactly if they do for each list. -/
theorem mapM_append_eq_ok {f : α → Except ε β} {as as' : List α} {bs : List β} :
    (as ++ as').mapM f = .ok bs ↔
      ∃ first rest, bs = first ++ rest ∧ as.mapM f = .ok first ∧ as'.mapM f = .ok rest := by
  simp only [mapM_eq_ok]
  constructor
  · exact exists_of_forall₂_append
  · rintro ⟨first, rest, rfl, hfirst, hrest⟩
    exact List.rel_append hfirst hrest

/-- **Rearranged lists have rearranged partners.** -/
theorem exists_perm_of_forall₂ {as' : List α} (hperm : as'.Perm as) (h : List.Forall₂ R as bs) :
    ∃ bs', List.Forall₂ R as' bs' ∧ bs'.Perm bs :=
  List.perm_comp_forall₂ hperm h

/-- What stands beside rearranged lists is rearranged alike, where there is only one partner for
each element. -/
theorem perm_of_forall₂ (hR : Relator.RightUnique R) {as' : List α} {bs' : List β}
    (hperm : as'.Perm as) (h : List.Forall₂ R as bs) (h' : List.Forall₂ R as' bs') :
    bs'.Perm bs := by
  obtain ⟨bs'', hbs'', hperm'⟩ := exists_perm_of_forall₂ hperm h
  rwa [List.right_unique_forall₂' hR h' hbs'']

theorem forall₂_comp {γ : Type} {S : β → γ → Prop} (h : List.Forall₂ R as bs) {cs : List γ}
    (h' : List.Forall₂ S bs cs) : List.Forall₂ (fun a c => ∃ b, R a b ∧ S b c) as cs := by
  induction h generalizing cs with
  | nil =>
    cases h'
    exact .nil
  | cons hab _ ih =>
    cases h' with
    | cons hbc h' => exact .cons ⟨_, hab, hbc⟩ (ih h')

/-- In a table whose values are changed, a key finds its changed value. -/
theorem lookup_map_snd {κ γ : Type} [BEq κ] (f : β → γ) (table : List (κ × β)) (key : κ) :
    (table.map fun e => (e.1, f e.2)).lookup key = (table.lookup key).map f := by
  induction table with
  | nil => rfl
  | cons e rest ih =>
    rw [List.map_cons, List.lookup_cons, List.lookup_cons, ih]
    cases key == e.1 <;> rfl

/-- What is made of each element and of what was found for it stands beside the element. -/
theorem forall₂_zipWith {γ : Type} {S : α → γ → Prop} {f : α → β → γ}
    (h : List.Forall₂ R as bs) (hf : ∀ a b, R a b → S a (f a b)) :
    List.Forall₂ S as (List.zipWith f as bs) := by
  induction h with
  | nil => exact .nil
  | cons hab _ ih => exact .cons (hf _ _ hab) ih

/-- Elements side by side stay so if what is written to one is written to the other, changed. -/
theorem forall₂_zipWith_map {γ δ : Type} {f : α → γ → α} {g : β → δ → β} {ψ : γ → δ}
    (h : List.Forall₂ R as bs) (hfg : ∀ a b c, R a b → R (f a c) (g b (ψ c))) (cs : List γ) :
    List.Forall₂ R (List.zipWith f as cs) (List.zipWith g bs (cs.map ψ)) := by
  induction h generalizing cs with
  | nil => exact .nil
  | cons hab _ ih =>
    cases cs with
    | nil => exact .nil
    | cons c cs => exact .cons (hfg _ _ c hab) (ih cs)

end DeclGen
