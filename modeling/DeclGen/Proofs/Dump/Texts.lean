import DeclGen.Proofs.Dump.Decoding

/-!
# Reading a given text

That a text is read as a value (`DeclGen.Dump.IsReadAs`) is a matter of computation, but for one
thing: floating-point numbers have no equality that decides, and so values that may hold them have
none. What decides here is a test that says no where such numbers are compared
(`DeclGen.Json.same`). A yes is an equality (`DeclGen.Json.eq_of_same`). That the test says yes to
equal values is not claimed, and nothing depends on it.
-/

namespace DeclGen

namespace Json

/-- Whether two numbers are seen to be the same. -/
def Number.same : Number → Number → Bool
  | .natural m, .natural n => m == n
  | .negative m, .negative n => m == n
  | _, _ => false

theorem Number.eq_of_same {m n : Number} (h : m.same n = true) : m = n := by
  cases m <;> cases n <;> simp_all [same]

mutual

/-- Whether two values are seen to be the same, and have no flaws. -/
def same : Json → Json → Bool
  | .null, .null => true
  | .bool a, .bool b => a == b
  | .number m, .number n => m.same n
  | .string s, .string t => s == t
  | .array vs none, .array ws none => sameList vs ws
  | .object fields none, .object fields' none => sameFields fields fields'
  | _, _ => false

/-- Whether two lists of values are seen to be the same. -/
def sameList : List Json → List Json → Bool
  | [], [] => true
  | v :: vs, w :: ws => v.same w && sameList vs ws
  | _, _ => false

/-- Whether two lists of fields are seen to be the same. -/
def sameFields : List (String × Json) → List (String × Json) → Bool
  | [], [] => true
  | (key, v) :: rest, (key', w) :: rest' => key == key' && v.same w && sameFields rest rest'
  | _, _ => false

end

/-- **Values that are seen to be the same are equal.** -/
theorem eq_of_same :
    (∀ v w : Json, v.same w = true → v = w) ∧
      (∀ fields fields' : List (String × Json), sameFields fields fields' = true →
        fields = fields') ∧
      ∀ vs ws : List Json, sameList vs ws = true → vs = ws := by
  refine same.mutual_induct _ _ _ ?null ?bool ?number ?string ?array ?object ?otherwise
    ?empty ?element ?otherElements ?noFields ?field ?otherFields
  case null => exact fun _ => rfl
  case bool => exact fun a b h => congrArg bool (eq_of_beq h)
  case number => exact fun m n h => congrArg number (Number.eq_of_same h)
  case string => exact fun s t h => congrArg string (eq_of_beq h)
  case array => exact fun vs ws ih h => congrArg (array · none) (ih h)
  case object => exact fun fields fields' ih h => congrArg (object · none) (ih h)
  case empty | noFields => exact fun _ => rfl
  case element =>
    intro v vs w ws ihv ihvs h
    rw [sameList, Bool.and_eq_true] at h
    rw [ihv h.1, ihvs h.2]
  case field =>
    intro key v rest key' w rest' ihv ihrest h
    rw [sameFields, Bool.and_eq_true, Bool.and_eq_true] at h
    obtain ⟨⟨hkey, hv⟩, hrest⟩ := h
    rw [eq_of_beq hkey, ihv hv, ihrest hrest]
  -- What is not compared is not seen to be the same.
  all_goals
    intros
    simp_all [same, sameFields, sameList]

end Json

namespace Dump

/-- Whether a text is seen to be read as a value, with nothing but blanks behind it. -/
def readsAs (text : String) (v : Json) : Bool :=
  let reading := Json.read outline Json.maxDepth text.toList
  reading.result.same v && reading.rest?.map (fun rest => Json.skipBlanks rest.text) == some []

theorem isReadAs_of_readsAs {text : String} {v : Json} (h : readsAs text v = true) :
    IsReadAs text v := by
  obtain ⟨hresult, hrest⟩ := Bool.and_eq_true_iff.mp h
  exact ⟨Json.eq_of_same.1 _ _ hresult, eq_of_beq hrest⟩

example : IsReadAs "\x7b\"note\": [1e3], \"declarations\" : [\x7b\"kind\":\"enum\"\x7d] \x7d\n"
    (.object [("declarations", .array [.object [("kind", .string "enum")] none] none)] none) :=
  isReadAs_of_readsAs (by decide +kernel)

end Dump

end DeclGen
