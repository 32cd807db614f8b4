/-
# The proto3 enum written for an IDL enum

`generator/src/protobuf_generator.cpp`, the enum branch of
`write_single_namespace` (lines 1035-1092) and the same text in
`write_namespace` (lines 842-899).  The enum's name is sanitized, an
`<Enum>_UNSPECIFIED = 0` entry goes first when no enumerator is written
`= 0` and the first one has an explicit value other than `0`, and each
enumerator is written with its explicit value's text, or with
`enum_counter`, which counts the enumerators without one.

C++ numbers an enumerator without a value one past the one before it
(`cppEnumValues`), and reads an explicit value's text as an integer literal,
as `protoc` reads it in the entry (`literalValue`: `0x` hexadecimal, a leading
`0` octal, decimal otherwise).  The two numberings agree when every enumerator
without a value comes before every enumerator with one (`enumEntries_values`);
the emitted enum then numbers its first entry `0` and no two entries alike
(`writeEnum_numbering`).  Past an explicit value they part: in
`enum E { A = 5, B }` the entry of `B` is numbered `0` where C++ gives `6`, and
`E_UNSPECIFIED` is `0` as well.
-/

import Canopy.Protobuf.TypeName

namespace Canopy
namespace Protobuf

/-- An enumerator as the IDL parser hands it over: its name, and the text of
its explicit value (`get_return_type()`), empty when it has none. -/
structure Enumerator where
  name : List Char
  value : List Char
  deriving DecidableEq, Repr

/-- The number written after the `=` of an entry: an explicit value's text,
copied, or a number the generator counts. -/
inductive EnumNumber
  | literal (text : List Char)
  | counter (n : Nat)
  deriving DecidableEq, Repr

/-- The loop that sets `has_zero_value`: some enumerator is written `= 0`. -/
def hasZeroValue (enumVals : List Enumerator) : Bool :=
  enumVals.any fun v => !v.value.isEmpty && v.value == "0".toList

/-- The `<Enum>_UNSPECIFIED = 0` entry, when the generator writes one. -/
def unspecifiedEntries (enumName : List Char) (enumVals : List Enumerator) :
    List (List Char × EnumNumber) :=
  if !hasZeroValue enumVals then
    match enumVals with
    | first :: _ =>
      if !first.value.isEmpty && first.value != "0".toList then
        [(enumName ++ "_UNSPECIFIED".toList, .counter 0)]
      else []
    | [] => []
  else []

/-- The loop over the enumerators, from `enum_counter`. -/
def enumEntries (enumName : List Char) : Nat → List Enumerator → List (List Char × EnumNumber)
  | _, [] => []
  | enumCounter, v :: vs =>
    let prefixedName := enumName ++ '_' :: sanitizeTypeName v.name
    if v.value.isEmpty then (prefixedName, .counter enumCounter) :: enumEntries enumName (enumCounter + 1) vs
    else (prefixedName, .literal v.value) :: enumEntries enumName enumCounter vs

/-- The entries of the proto3 enum written for the IDL enum `name`, in order. -/
def writeEnum (name : List Char) (enumVals : List Enumerator) : List (List Char × EnumNumber) :=
  unspecifiedEntries (sanitizeTypeName name) enumVals ++ enumEntries (sanitizeTypeName name) 0 enumVals

/-! ### What the numbers mean -/

/-- The value of a digit in base `b` (`0`-`9`, then `a`-`f` or `A`-`F`), if it
is one. -/
def digitValue (b : Nat) (c : Char) : Option Nat :=
  let d := if c.isDigit then c.toNat - '0'.toNat
    else if 'a' ≤ c ∧ c ≤ 'f' then c.toNat - 'a'.toNat + 10
    else if 'A' ≤ c ∧ c ≤ 'F' then c.toNat - 'A'.toNat + 10
    else b
  if d < b then some d else none

/-- The value of the digits `ds` in base `b`, `n` being the value of those
before them. -/
def digitsValue (b : Nat) : Nat → List Char → Option Nat
  | n, [] => some n
  | n, c :: cs => (digitValue b c).bind fun d => digitsValue b (b * n + d) cs

/-- An unsigned integer literal, as C++ and `protoc` read it: `0x` or `0X` then
hexadecimal digits, a `0` then octal digits, or decimal digits. -/
def unsignedValue : List Char → Option Nat
  | '0' :: 'x' :: ds | '0' :: 'X' :: ds => if ds.isEmpty then none else digitsValue 16 0 ds
  | '0' :: ds => digitsValue 8 0 ds
  | [] => none
  | ds => digitsValue 10 0 ds

/-- The number an explicit value's text stands for: an integer literal after
an optional `-`. -/
def literalValue : List Char → Option Int
  | '-' :: s => (unsignedValue s).map (- ·)
  | s => (unsignedValue s).map (↑)

/-- The number an entry stands for, when its text is an integer literal. -/
def EnumNumber.value : EnumNumber → Option Int
  | literal text => literalValue text
  | counter n => some n

@[simp] theorem EnumNumber.value_literal (text : List Char) :
    (EnumNumber.literal text).value = literalValue text := rfl

@[simp] theorem EnumNumber.value_counter (n : Nat) : (EnumNumber.counter n).value = some (n : Int) := rfl

/-- The values C++ gives the enumerators, `next` being the value of an
enumerator without one: the explicit value, or one past the value before. -/
def cppEnumValues : Option Int → List Enumerator → List (Option Int)
  | _, [] => []
  | next, v :: vs =>
    let x := if v.value.isEmpty then next else literalValue v.value
    x :: cppEnumValues (x.map (· + 1)) vs

/-- Every enumerator without a value comes before every enumerator with one. -/
def implicitFirst : List Enumerator → Bool
  | [] => true
  | v :: vs => if v.value.isEmpty then implicitFirst vs else vs.all fun w => !w.value.isEmpty

/-! ### The two numberings -/

section Numbering

variable (enumName : List Char) {vs : List Enumerator}

/-- Past the first enumerator with a value, the counter is no longer read. -/
theorem enumEntries_of_explicit (c : Nat) : ∀ {vs : List Enumerator},
    (vs.all fun w => !w.value.isEmpty) = true →
    (enumEntries enumName c vs).map (·.2.value) = vs.map fun v => literalValue v.value
  | [], _ => rfl
  | v :: vs, h => by
      simp only [List.all_cons, Bool.and_eq_true, Bool.not_eq_true'] at h
      simp [enumEntries, h.1, enumEntries_of_explicit c h.2]

theorem cppEnumValues_of_explicit : ∀ (next : Option Int) {vs : List Enumerator},
    (vs.all fun w => !w.value.isEmpty) = true →
    cppEnumValues next vs = vs.map fun v => literalValue v.value
  | _, [], _ => rfl
  | _, v :: vs, h => by
      simp only [List.all_cons, Bool.and_eq_true, Bool.not_eq_true'] at h
      simp [cppEnumValues, h.1, cppEnumValues_of_explicit _ h.2]

/-- **The numberings agree** when the enumerators without a value come first:
each entry is numbered with the C++ value of its enumerator. -/
theorem enumEntries_values : ∀ (c : Nat) {vs : List Enumerator}, implicitFirst vs = true →
    (enumEntries enumName c vs).map (·.2.value) = cppEnumValues (some (c : Int)) vs
  | _, [], _ => rfl
  | c, v :: vs, h => by
      by_cases hv : v.value.isEmpty
      · simp only [implicitFirst, hv, ite_true] at h
        simp [enumEntries, cppEnumValues, hv, enumEntries_values (c + 1) h]
      · simp only [implicitFirst, hv, Bool.false_eq_true, ite_false] at h
        simp [enumEntries, cppEnumValues, hv, enumEntries_of_explicit _ _ h,
          cppEnumValues_of_explicit _ h]

/-- Every entry has a number when every explicit value is an integer literal. -/
theorem enumEntries_isSome (hread : ∀ v ∈ vs, v.value ≠ [] → (literalValue v.value).isSome) :
    ∀ (c : Nat), ∀ e ∈ enumEntries enumName c vs, e.2.value.isSome := by
  induction vs with
  | nil => exact fun _ e he => absurd he (List.not_mem_nil e)
  | cons v vs ih =>
    have ih' := ih fun w hw => hread w (List.mem_cons_of_mem _ hw)
    intro c e he
    unfold enumEntries at he
    split at he <;> rename_i hv <;> rcases List.mem_cons.1 he with rfl | he
    · rfl
    · exact ih' _ e he
    · exact hread v (List.mem_cons_self _ _) (by simpa using hv)
    · exact ih' _ e he

end Numbering

/-- The entry the generator injects is numbered `0`. -/
theorem unspecifiedEntries_counter (enumName : List Char) (enumVals : List Enumerator) :
    ∀ e ∈ unspecifiedEntries enumName enumVals, e.2 = .counter 0 := by
  unfold unspecifiedEntries
  split
  · split
    · split <;> simp
    · simp
  · simp

/-- **The emitted enum, where the numberings agree.**  For a nonempty enum whose
enumerators without a value come first, whose values are integer literals with
zero written `0`, whose zero enumerator, if any, is the first, and whose C++
values are pairwise distinct: every entry has a number, the first is `0`, every
enumerator is numbered with its C++ value, and the numbers are pairwise
distinct. -/
theorem writeEnum_numbering (name : List Char) (enumVals : List Enumerator) (hne : enumVals ≠ [])
    (hord : implicitFirst enumVals = true)
    (hread : ∀ v ∈ enumVals, v.value ≠ [] → (literalValue v.value).isSome)
    (hcanon : ∀ v ∈ enumVals, literalValue v.value = some 0 → v.value = "0".toList)
    (hzero : ∀ v ∈ enumVals.tail, v.value ≠ "0".toList)
    (hdist : (cppEnumValues (some 0) enumVals).Nodup) :
    (∀ e ∈ writeEnum name enumVals, e.2.value.isSome) ∧
    ((writeEnum name enumVals).head?.map (·.2.value)) = some (some 0) ∧
    (enumEntries (sanitizeTypeName name) 0 enumVals).map (·.2.value) =
      cppEnumValues (some 0) enumVals ∧
    ((writeEnum name enumVals).map (·.2.value)).Nodup := by
  refine ⟨fun e he => ?_, ?_⟩
  · rcases List.mem_append.1 he with he | he
    · rw [unspecifiedEntries_counter _ _ e he]; rfl
    · exact enumEntries_isSome _ hread 0 e he
  obtain ⟨v, vs, rfl⟩ := List.exists_cons_of_ne_nil hne
  have hvals : _ = cppEnumValues (some 0) (v :: vs) := enumEntries_values (sanitizeTypeName name) 0 hord
  by_cases hu : (!v.value.isEmpty && v.value != "0".toList) = true
  · -- `<Enum>_UNSPECIFIED = 0` goes first; no enumerator is numbered `0`
    simp only [Bool.and_eq_true, Bool.not_eq_true', bne_iff_ne, ne_eq] at hu
    have hz : hasZeroValue (v :: vs) = false := by
      simp only [hasZeroValue, List.any_cons, List.any_eq_false, Bool.or_eq_false_iff,
        Bool.and_eq_false_iff, beq_eq_false_iff_ne]
      exact ⟨.inr hu.2, fun w hw h => hzero w hw (by simp_all)⟩
    have hall : ((v :: vs).all fun w => !w.value.isEmpty) = true := by
      simp only [implicitFirst, hu.1, Bool.false_eq_true, ite_false] at hord
      simp [hu.1, hord]
    have h0 : some 0 ∉ cppEnumValues (some 0) (v :: vs) := by
      rw [cppEnumValues_of_explicit _ hall]
      intro hmem
      obtain ⟨w, hw, hw0⟩ := List.mem_map.1 hmem
      rcases List.mem_cons.1 hw with rfl | hw
      · exact hu.2 (hcanon w (List.mem_cons_self _ _) hw0)
      · exact hzero w hw (hcanon w (List.mem_cons_of_mem _ hw) hw0)
    have hw : writeEnum name (v :: vs) =
        (sanitizeTypeName name ++ "_UNSPECIFIED".toList, .counter 0) ::
          enumEntries (sanitizeTypeName name) 0 (v :: vs) := by
      have h0' : ¬ v.value = ['0'] := hu.2
      simp [writeEnum, unspecifiedEntries, hz, hu.1, h0']
    rw [hw, List.map_cons, hvals]
    exact ⟨rfl, rfl, List.nodup_cons.2 ⟨h0, hdist⟩⟩
  · -- the first enumerator has no value, or is written `= 0`
    have hw : writeEnum name (v :: vs) = enumEntries (sanitizeTypeName name) 0 (v :: vs) := by
      simp only [writeEnum, unspecifiedEntries, hu, Bool.false_eq_true, ite_false, ite_self,
        List.nil_append]
    rw [hw, ← List.head?_map, hvals]
    refine ⟨?_, rfl, hdist⟩
    simp only [Bool.and_eq_true, Bool.not_eq_true', bne_iff_ne, ne_eq, not_and, not_not] at hu
    cases he : v.value.isEmpty
    · simp only [cppEnumValues, he, hu he, Bool.false_eq_true, ite_false]
      rfl
    · simp [cppEnumValues, he]

theorem writeEnum_numbering_red_blue :
    ((writeEnum "colour".toList [⟨"red".toList, []⟩, ⟨"blue".toList, "7".toList⟩]).map
      (·.2.value)).Nodup :=
  (writeEnum_numbering _ _ (by decide) (by decide) (by decide) (by decide) (by decide) (by decide)).2.2.2

/-- **Numbers past an explicit value.**  C++ numbers `B` of `enum E { A = 5, B }`
with `6`; the generator writes `E_UNSPECIFIED = 0; E_A = 5; E_B = 0;`.
`enum E { A = 1, B = 0 }` is written with `E_A = 1` first, and an empty enum with
no entry. -/
theorem writeEnum_counterexample :
    cppEnumValues (some 0) [⟨"A".toList, "5".toList⟩, ⟨"B".toList, []⟩] = [some 5, some 6] ∧
    writeEnum "E".toList [⟨"A".toList, "5".toList⟩, ⟨"B".toList, []⟩] =
      [("E_UNSPECIFIED".toList, .counter 0), ("E_A".toList, .literal "5".toList),
        ("E_B".toList, .counter 0)] ∧
    (writeEnum "E".toList [⟨"A".toList, "1".toList⟩, ⟨"B".toList, "0".toList⟩]).map (·.2.value) =
      [some 1, some 0] ∧
    writeEnum "E".toList [] = [] := by
  decide

end Protobuf
end Canopy
