import DeclGen.Path
import Mathlib.Data.List.Basic

/-!
# The file name of a path

`DeclGen.Path.fileName?` takes a path apart at its slashes, leaves out the parts that do not count
and takes the last one. This file says the same of the characters of the path, without taking it
apart: a path *leads to* a name (`DeclGen.Path.LeadsTo`) if the name stands at its start or after a
slash, with no slash in it, and nothing stands behind it but slashes and lone dots. The two agree
(`DeclGen.Path.fileName?_eq_some_iff`).

The one fact about splitting that this rests on is that nothing is lost in it: the parts with the
separators between them are the text (`DeclGen.Text.eq_of_split`), and parts that are put together
in this way are given back (`DeclGen.Text.split_append_flatMap`).

So the outputs that hold ambient declarations are known by their characters
(`DeclGen.Path.isDeclarationFile_iff`).
-/

namespace DeclGen

/-! ### Splitting -/

namespace Text

variable {separator : Char}

/-- **Nothing is lost in a split**: the separators stand before all parts but the first. -/
theorem eq_of_split (separator : Char) (s : List Char) :
    ∃ first rest, split separator s = first :: rest ∧
      s = first ++ rest.flatMap (separator :: ·) := by
  induction s with
  | nil => exact ⟨[], [], rfl, rfl⟩
  | cons c s ih =>
    obtain ⟨first, rest, hsplit, hs⟩ := ih
    by_cases hc : c = separator
    · subst hc
      refine ⟨[], first :: rest, by rw [split, if_pos rfl, hsplit], ?_⟩
      rw [List.nil_append, List.flatMap_cons, List.cons_append, ← hs]
    · refine ⟨c :: first, rest, by rw [split, if_neg hc, hsplit], ?_⟩
      rw [List.cons_append, ← hs]

/-- The separator stands in no part. -/
theorem not_mem_of_mem_split (separator : Char) (s : List Char) :
    ∀ part ∈ split separator s, separator ∉ part := by
  induction s with
  | nil => exact List.forall_mem_singleton.mpr List.not_mem_nil
  | cons c s ih =>
    obtain ⟨first, rest, hsplit, -⟩ := eq_of_split separator s
    rw [hsplit, List.forall_mem_cons] at ih
    by_cases hc : c = separator
    · rw [split, if_pos hc, hsplit]
      exact List.forall_mem_cons.mpr ⟨List.not_mem_nil, List.forall_mem_cons.mpr ih⟩
    · rw [split, if_neg hc, hsplit]
      have hfirst : separator ∉ c :: first :=
        List.not_mem_cons_of_ne_of_not_mem (Ne.symm hc) ih.1
      exact List.forall_mem_cons.mpr ⟨hfirst, ih.2⟩

theorem split_eq_singleton {s : List Char} (h : separator ∉ s) : split separator s = [s] := by
  induction s with
  | nil => rfl
  | cons c s ih =>
    obtain ⟨hc, hs⟩ := not_or.mp (mt List.mem_cons.mpr h)
    rw [split, if_neg (Ne.symm hc), ih hs]

/-- A separator splits what stands before it from what stands behind it. -/
theorem split_append_cons (front back : List Char) :
    split separator (front ++ separator :: back) =
      split separator front ++ split separator back := by
  induction front with
  | nil => exact if_pos rfl
  | cons c front ih =>
    obtain ⟨first, rest, hsplit, -⟩ := eq_of_split separator front
    by_cases hc : c = separator
    · rw [List.cons_append, split, if_pos hc, ih, split, if_pos hc, List.cons_append]
    · rw [List.cons_append, split, if_neg hc, ih, split, if_neg hc, hsplit]
      rfl

/-- **Parts that are put together are given back.** -/
theorem split_append_flatMap {part : List Char} (hpart : separator ∉ part)
    {parts : List (List Char)} (hparts : ∀ p ∈ parts, separator ∉ p) :
    split separator (part ++ parts.flatMap (separator :: ·)) = part :: parts := by
  induction parts generalizing part with
  | nil => rw [List.flatMap_nil, List.append_nil, split_eq_singleton hpart]
  | cons p parts ih =>
    obtain ⟨hp, hrest⟩ := List.forall_mem_cons.mp hparts
    rw [List.flatMap_cons, List.cons_append, split_append_cons, split_eq_singleton hpart,
      ih hp hrest]
    rfl

end Text

/-! ### The name that a path leads to -/

namespace Path

/-- A path **leads to a name**: the name stands at its start or after a slash, and behind it there
are only slashes, and between these nothing or a dot. The name itself has no slash, is not empty
and neither `.` nor `..`. -/
def LeadsTo (path : String) (name : List Char) : Prop :=
  ∃ (front : List Char) (trail : List (List Char)),
    path.toList = front ++ name ++ trail.flatMap ('/' :: ·) ∧ (front = [] ∨ ['/'] <:+ front) ∧
      '/' ∉ name ∧ (∀ part ∈ trail, part = [] ∨ part = ['.']) ∧
      name ≠ [] ∧ name ≠ ['.'] ∧ name ≠ ['.', '.']

/-- Whether a part counts when the last one is taken. -/
def counts (part : List Char) : Bool := part ≠ [] ∧ part ≠ ['.']

theorem counts_eq_false_iff {part : List Char} :
    counts part = false ↔ part = [] ∨ part = ['.'] := by
  unfold counts
  rw [decide_eq_false_iff_not, not_and_or, not_not, not_not]

theorem filter_parts (path : String) :
    (parts path).filter (· ≠ ".") =
      ((Text.split '/' path.toList).filter counts).map String.ofList := by
  unfold parts
  rw [List.filter_map, List.filter_filter]
  congr 2
  funext part
  have hdot : String.ofList part = "." ↔ part = ['.'] := by
    rw [← String.toList_inj, String.toList_ofList]
    exact Iff.rfl
  simp [counts, hdot, Bool.and_comm]

/-- The last element that a filter keeps. -/
theorem getLast?_filter_eq_some {α : Type} {p : α → Bool} {as : List α} {a : α} :
    (as.filter p).getLast? = some a ↔
      p a = true ∧ ∃ front back, as = front ++ a :: back ∧ ∀ b ∈ back, p b = false := by
  rw [List.getLast?_eq_head?_reverse, ← List.filter_reverse, List.head?_filter,
    List.find?_eq_some_iff_append]
  refine and_congr_right fun _ => ?_
  constructor
  · rintro ⟨back, front, h, hback⟩
    refine ⟨front.reverse, back.reverse, ?_, by simpa using hback⟩
    rw [← List.reverse_reverse as, h]
    simp
  · rintro ⟨front, back, rfl, hback⟩
    exact ⟨back.reverse, front.reverse, by simp, by simpa using hback⟩

/-- The file name is the last part that counts, unless it leads upwards. -/
theorem fileName?_eq_some {path name : String} :
    fileName? path = some name ↔
      ((Text.split '/' path.toList).filter counts).getLast? = some name.toList ∧ name ≠ ".." := by
  rw [fileName?, filter_parts, List.getLast?_map, Option.filter_eq_some_iff, Option.map_eq_some_iff,
    decide_eq_true_iff]
  refine and_congr_left fun _ => ?_
  constructor
  · rintro ⟨part, hpart, rfl⟩
    rw [hpart, String.toList_ofList]
  · exact fun h => ⟨name.toList, h, String.ofList_toList⟩

/-- **The file name of a path is the name that the path leads to.** -/
theorem fileName?_eq_some_iff {path name : String} :
    fileName? path = some name ↔ LeadsTo path name.toList := by
  have hup : name ≠ ".." ↔ name.toList ≠ ['.', '.'] := not_congr String.toList_inj.symm
  rw [fileName?_eq_some, getLast?_filter_eq_some, hup]
  constructor
  · rintro ⟨⟨hcounts, front, back, hsplit, hback⟩, hup⟩
    have hslash : '/' ∉ name.toList :=
      Text.not_mem_of_mem_split '/' path.toList _ (hsplit ▸ List.mem_append_cons_self)
    have htrail : ∀ part ∈ back, part = [] ∨ part = ['.'] :=
      fun part hpart => counts_eq_false_iff.mp (hback part hpart)
    have hname : name.toList ≠ [] ∧ name.toList ≠ ['.'] := of_decide_eq_true hcounts
    obtain ⟨first, rest, hfirst, hpath⟩ := Text.eq_of_split '/' path.toList
    rw [hsplit] at hfirst
    rcases front with _ | ⟨part, front⟩
    · -- The name is the first part, so it stands at the start.
      cases hfirst
      exact ⟨[], back, hpath, .inl rfl, hslash, htrail, hname.1, hname.2, hup⟩
    · rw [List.cons_append] at hfirst
      obtain ⟨rfl, rfl⟩ := List.cons.inj hfirst
      refine ⟨part ++ front.flatMap ('/' :: ·) ++ ['/'], back, ?_, .inr (List.suffix_append _ _),
        hslash, htrail, hname.1, hname.2, hup⟩
      rw [hpath, List.flatMap_append, List.flatMap_cons]
      simp only [List.append_assoc, List.cons_append, List.nil_append]
  · rintro ⟨front, trail, hpath, hfront, hslash, htrail, hempty, hdot, hup⟩
    have hsplit : Text.split '/' (name.toList ++ trail.flatMap ('/' :: ·)) =
        name.toList :: trail := by
      refine Text.split_append_flatMap hslash fun part hpart => ?_
      rcases htrail part hpart with rfl | rfl
      · exact List.not_mem_nil
      · decide
    have hback : ∀ part ∈ trail, counts part = false :=
      fun part hpart => counts_eq_false_iff.mpr (htrail part hpart)
    refine ⟨⟨decide_eq_true ⟨hempty, hdot⟩, ?_⟩, hup⟩
    rcases hfront with rfl | ⟨front, rfl⟩
    · exact ⟨[], trail, by rw [hpath, List.nil_append, hsplit, List.nil_append], hback⟩
    · refine ⟨Text.split '/' front, trail, ?_, hback⟩
      rw [hpath, List.append_assoc, List.append_assoc, List.singleton_append,
        Text.split_append_cons, hsplit]

/-- **An output holds ambient declarations exactly if its file name has one of three endings**, in
small letters as they stand here. -/
theorem isDeclarationFile_iff {path : String} :
    isDeclarationFile path = true ↔
      ∃ name, LeadsTo path name ∧
        ∃ ending ∈ [".d.ts", ".d.mts", ".d.cts"], ending.toList <:+ name := by
  unfold isDeclarationFile declarationEndings
  rw [Option.any_eq_true]
  constructor
  · rintro ⟨name, hname, hending⟩
    refine ⟨name.toList, fileName?_eq_some_iff.mp hname, ?_⟩
    simpa only [List.any_eq_true, List.isSuffixOf_iff_suffix] using hending
  · rintro ⟨name, hname, hending⟩
    rw [← String.toList_ofList (l := name)] at hname
    refine ⟨String.ofList name, fileName?_eq_some_iff.mpr hname, ?_⟩
    simpa only [List.any_eq_true, List.isSuffixOf_iff_suffix, String.toList_ofList] using hending

example : isDeclarationFile "lib/api.d.ts/." = true ∧ isDeclarationFile "api.d.ts/main.ts" = false ∧
    isDeclarationFile "api.D.TS" = false ∧ isDeclarationFile "api.d.ts/.." = false := by decide

end Path

end DeclGen
