import DeclGen.EnumValue
import Mathlib

/-!
# Enum values in closed form

The values of an enum are given out by a counter that runs along the members, and an initializer
sets it. What the counter holds at a position can be told without running it: find the last
initializer up to the position and add the distance from there, or take the position itself if there
is none (`DeclGen.EnumDecl.closedForm`). The closed form is an integer without bounds; the value is
its residue modulo 2 ^ 64 that is a 64-bit word.

Between two initializers the counter only counts
(`DeclGen.EnumDecl.getElem?_valuesFrom_of_counted`), and at an initializer it forgets what it held
(`DeclGen.EnumDecl.valuesFrom_append`). So the list of values falls apart right before every
initializer, and each part is a count from its first member.
-/

namespace DeclGen

namespace EnumDecl

/-- The value of the initializer at a position, if there is a member with one. -/
def initializer? (ms : List EnumMember) (i : Nat) : Option Int64 :=
  ms[i]?.bind (·.value)

/-- The **last initializer** up to a position: where it stands, and its value. -/
def lastInitializer? (ms : List EnumMember) : Nat → Option (Nat × Int64)
  | 0 => (initializer? ms 0).map (0, ·)
  | i + 1 => ((initializer? ms (i + 1)).map (i + 1, ·)).or (lastInitializer? ms i)

/-- The **closed form** of the value at a position: the last initializer up to it plus the distance
from there, or the position itself if there is none. -/
def closedForm (ms : List EnumMember) (i : Nat) : Int :=
  match lastInitializer? ms i with
  | some (j, v) => v.toInt + (i - j)
  | none => i

variable {ms : List EnumMember} {i j : Nat} {v : Int64}

/-- The last initializer stands at or before the position, and there is none between them. -/
theorem initializer?_of_lastInitializer? (h : lastInitializer? ms i = some (j, v)) :
    j ≤ i ∧ initializer? ms j = some v ∧ ∀ k, j < k → k ≤ i → initializer? ms k = none := by
  induction i with
  | zero =>
    obtain ⟨_, hv, heq⟩ := Option.map_eq_some_iff.mp h
    cases heq
    exact ⟨Nat.le_refl 0, hv, by omega⟩
  | succ i ih =>
    rcases Option.or_eq_some_iff.mp h with hlast | ⟨hnone, h⟩
    · obtain ⟨_, hv, heq⟩ := Option.map_eq_some_iff.mp hlast
      cases heq
      exact ⟨Nat.le_refl _, hv, by omega⟩
    · obtain ⟨hj, hv, hbetween⟩ := ih h
      refine ⟨by omega, hv, fun k hjk hk => ?_⟩
      by_cases hki : k ≤ i
      · exact hbetween k hjk hki
      · obtain rfl : k = i + 1 := by omega
        exact Option.map_eq_none_iff.mp hnone

/-- Without a last initializer there is none up to the position. -/
theorem initializer?_of_lastInitializer?_none (h : lastInitializer? ms i = none) :
    ∀ k ≤ i, initializer? ms k = none := by
  induction i with
  | zero =>
    intro k hk
    obtain rfl : k = 0 := by omega
    exact Option.map_eq_none_iff.mp h
  | succ i ih =>
    obtain ⟨hnone, h⟩ := Option.or_eq_none_iff.mp h
    intro k hk
    by_cases hki : k ≤ i
    · exact ih h k hki
    · obtain rfl : k = i + 1 := by omega
      exact Option.map_eq_none_iff.mp hnone

/-! ### The counter -/

/-- **An initializer makes the counter forget**: the values from there on are the same wherever they
start to be counted, and the values before are not touched. -/
theorem valuesFrom_append {m : EnumMember} (hm : m.value.isSome) (before rest : List EnumMember)
    (next start : Int64) :
    valuesFrom next (before ++ m :: rest) =
      valuesFrom next before ++ valuesFrom start (m :: rest) := by
  obtain ⟨v, hv⟩ := Option.isSome_iff_exists.mp hm
  induction before generalizing next with
  | nil => simp only [List.nil_append, valuesFrom, hv, Option.getD_some]
  | cons a before ih => simp only [List.cons_append, valuesFrom, ih]

/-- **Without initializers the counter counts**: if all members up to a position but the first have
none, the value there is the first one plus the distance. -/
theorem getElem?_valuesFrom_of_counted {next : Int64}
    (h : ∀ k, 0 < k → k ≤ i → initializer? ms k = none) :
    (valuesFrom next ms)[i]? =
      ms[i]?.map fun m => (m.name, (initializer? ms 0).getD next + Int64.ofNat i) := by
  -- The first member may have an initializer; behind it the count goes on from any start.
  induction ms generalizing next i with
  | nil => rfl
  | cons m rest ih =>
    cases i with
    | zero => simp [valuesFrom, initializer?]
    | succ i =>
      have hrest : ∀ k ≤ i, initializer? rest k = none := fun k hk => by
        have hk := h (k + 1) (by omega) (by omega)
        rwa [initializer?, List.getElem?_cons_succ] at hk
      have hfirst : initializer? rest 0 = none := hrest 0 (Nat.zero_le i)
      have hcount (a : Int64) : a + 1 + Int64.ofNat i = a + Int64.ofNat (i + 1) := by
        rw [Int64.ofNat_add, Int64.add_assoc, Int64.add_comm 1]
        rfl
      rw [valuesFrom, List.getElem?_cons_succ, ih fun k _ hk => hrest k hk, hfirst,
        List.getElem?_cons_succ, Option.getD_none, hcount]
      rfl

/-- A word that is so many steps behind another holds the residue of the sum. -/
theorem toInt_add_ofNat (v : Int64) (n : Nat) :
    (v + Int64.ofNat n).toInt = (v.toInt + n).bmod (2 ^ 64) := by
  rw [Int64.toInt_add, Int64.toInt_ofNat', Int.add_bmod_bmod]
  rfl

@[simp]
theorem length_valuesFrom (next : Int64) (ms : List EnumMember) :
    (valuesFrom next ms).length = ms.length := by
  induction ms generalizing next with
  | nil => rfl
  | cons m rest ih => rw [valuesFrom, List.length_cons, List.length_cons, ih]

/-- **Behind an initializer the counter counts** from its value, whatever stands before it. -/
theorem getElem?_valuesFrom_append {m : EnumMember} (hm : m.value = some v)
    (before rest : List EnumMember) (next : Int64) {n : Nat}
    (h : ∀ k, 0 < k → k ≤ n → initializer? (m :: rest) k = none) :
    (valuesFrom next (before ++ m :: rest))[before.length + n]? =
      (m :: rest)[n]?.map fun m => (m.name, v + Int64.ofNat n) := by
  have hsome : m.value.isSome := by rw [hm]; rfl
  have hfirst : initializer? (m :: rest) 0 = some v := hm
  rw [valuesFrom_append hsome before rest next 0,
    List.getElem?_append_right (by rw [length_valuesFrom]; omega), length_valuesFrom,
    Nat.add_sub_cancel_left, getElem?_valuesFrom_of_counted h, hfirst, Option.getD_some]

/-- A member at a position stands between those before it and those behind it. -/
theorem exists_eq_append_cons {m : EnumMember} (h : ms[j]? = some m) :
    ∃ before rest, ms = before ++ m :: rest ∧ before.length = j := by
  obtain ⟨hlt, rfl⟩ := List.getElem?_eq_some_iff.mp h
  refine ⟨ms.take j, ms.drop (j + 1), ?_, List.length_take_of_le (Nat.le_of_lt hlt)⟩
  rw [← List.drop_eq_getElem_cons hlt, List.take_append_drop]

/-- **The value at a position** is the residue of the closed form. -/
theorem getElem?_valuesFrom (ms : List EnumMember) (i : Nat) :
    (valuesFrom 0 ms)[i]?.map (fun e => (e.1, e.2.toInt)) =
      ms[i]?.map fun m => (m.name, (closedForm ms i).bmod (2 ^ 64)) := by
  unfold closedForm
  cases h : lastInitializer? ms i with
  | none =>
    have hnone := initializer?_of_lastInitializer?_none h
    have hzero : (0 : Int64).toInt = 0 := rfl
    rw [getElem?_valuesFrom_of_counted fun k _ hk => hnone k hk, hnone 0 (Nat.zero_le i),
      Option.getD_none, Option.map_map]
    simp only [Function.comp_def, toInt_add_ofNat, hzero, Int.zero_add]
  | some e =>
    obtain ⟨j, v⟩ := e
    obtain ⟨hj, hv, hbetween⟩ := initializer?_of_lastInitializer? h
    obtain ⟨m, hm, hvalue⟩ := Option.bind_eq_some_iff.mp hv
    -- The members fall apart right before the initializer, with the position in the second part.
    obtain ⟨before, rest, rfl, rfl⟩ := exists_eq_append_cons hm
    obtain ⟨n, rfl⟩ := Nat.exists_eq_add_of_le hj
    have hbehind (k : Nat) :
        (before ++ m :: rest)[before.length + k]? = (m :: rest)[k]? := by
      rw [List.getElem?_append_right (by omega), Nat.add_sub_cancel_left]
    have hcounted : ∀ k, 0 < k → k ≤ n → initializer? (m :: rest) k = none := by
      intro k hk hkn
      rw [initializer?, ← hbehind k]
      exact hbetween (before.length + k) (by omega) (by omega)
    have hdistance : (↑(before.length + n) : Int) - before.length = n := by omega
    rw [getElem?_valuesFrom_append hvalue before rest 0 hcounted, hbehind n, Option.map_map]
    simp only [Function.comp_def, toInt_add_ofNat, hdistance]

/-- **Enum values in closed form**, for every enum: names in order, and at each position the residue
of the closed form modulo 2 ^ 64 that is a 64-bit word. Two members have the same value exactly if
their closed forms are congruent. And where an initializer stands, the list of values falls apart,
and what comes from there on does not depend on what stands before. -/
theorem values_closed_form :
    (∀ (d : EnumDecl) (i : Nat), d.values[i]?.map (fun e => (e.1, e.2.toInt)) =
      d.members[i]?.map fun m => (m.name, (closedForm d.members i).bmod (2 ^ 64))) ∧
    (∀ (d : EnumDecl) (i j : Nat) (a b : String × Int64), d.values[i]? = some a →
      d.values[j]? = some b →
        (a.2 = b.2 ↔ closedForm d.members i ≡ closedForm d.members j [ZMOD 2 ^ 64])) ∧
    (∀ (name : String) (before rest : List EnumMember) (m : EnumMember), m.value.isSome →
      values ⟨name, before ++ m :: rest⟩ = values ⟨name, before⟩ ++ values ⟨name, m :: rest⟩) ∧
    ∀ (name name' : String) (before before' rest : List EnumMember) (m : EnumMember),
      m.value.isSome →
        (values ⟨name, before ++ m :: rest⟩).drop before.length =
          (values ⟨name', before' ++ m :: rest⟩).drop before'.length := by
  refine ⟨fun d i => getElem?_valuesFrom d.members i, fun d i j a b ha hb => ?_,
    fun name before rest m hm => valuesFrom_append hm before rest 0 0,
    fun name name' before before' rest m hm => ?_⟩
  · have hresidue {i : Nat} {a : String × Int64} (ha : d.values[i]? = some a) :
        a.2.toInt = (closedForm d.members i).bmod (2 ^ 64) := by
      have h := getElem?_valuesFrom d.members i
      rw [show (valuesFrom 0 d.members)[i]? = some a from ha] at h
      obtain ⟨m, -, heq⟩ := Option.map_eq_some_iff.mp h.symm
      exact (congrArg Prod.snd heq).symm
    rw [← Int64.toInt_inj, hresidue ha, hresidue hb, Int.bmod_eq_bmod_iff_bmod_sub_eq_zero,
      ← Int.dvd_iff_bmod_eq_zero, Int.modEq_comm, Int.modEq_iff_dvd]
    norm_cast
  · have hrest (name : String) (before : List EnumMember) :
        (values ⟨name, before ++ m :: rest⟩).drop before.length = valuesFrom 0 (m :: rest) := by
      rw [values, valuesFrom_append hm before rest 0 0]
      exact List.drop_left' (length_valuesFrom 0 before)
    rw [hrest, hrest]

/-- An enum that comes to the greatest value: one member before it, two behind, and a last one whose
initializer is the value that has come out by then. -/
def limits : EnumDecl :=
  { name := "Limits"
    members := [⟨"First", none⟩, ⟨"Greatest", some Int64.maxValue⟩, ⟨"Least", none⟩,
      ⟨"Next", none⟩, ⟨"Again", some Int64.minValue⟩] }

theorem values_closed_form_limits :
    limits.values = [("First", 0), ("Greatest", Int64.maxValue), ("Least", Int64.minValue),
      ("Next", Int64.minValue + 1), ("Again", Int64.minValue)] ∧
    closedForm limits.members 2 = 2 ^ 63 ∧
    closedForm limits.members 2 ≡ closedForm limits.members 4 [ZMOD 2 ^ 64] ∧
    limits.values = values ⟨"Before", limits.members.take 1⟩ ++
      values ⟨"Behind", limits.members.drop 1⟩ ∧
    limits.values.drop 1 = values ⟨"Behind", limits.members.drop 1⟩ := by
  obtain ⟨-, hsame, hsplit, hdrop⟩ := values_closed_form
  refine ⟨by decide, by decide, ?_, ?_, ?_⟩
  · exact (hsame limits 2 4 ("Least", Int64.minValue) ("Again", Int64.minValue) rfl rfl).mp rfl
  · exact hsplit "Limits" (limits.members.take 1) _ ⟨"Greatest", some Int64.maxValue⟩ rfl
  · exact hdrop "Limits" "Behind" (limits.members.take 1) [] _ ⟨"Greatest", some Int64.maxValue⟩
      rfl

end EnumDecl

end DeclGen
