/-
# The names the schema declares

`generator/src/protobuf_generator.cpp`, lines 448-492: `sanitize_type_name`
and `sanitize_field_name`.  Both rewrite a name one character at a time and may
put a `_` in front, so what they write is read off the rewrite of one character
(`typeNameChar`, `fieldNameChar`).  A sanitized type name holds only letters,
digits, `_` and `.`, starts with a letter or `_`, and is its own sanitized name
(`sanitizeTypeName_idempotent`).  `sanitize_field_name` leaves a name alone
exactly when it is empty or an identifier (`sanitizeFieldName_eq_self_iff`), so
for the parameters of an IDL method, whose names are C++ identifiers, the
fields the schema declares are the names the C++ of `set_` and the getters
uses (`requestFieldNames_of_identifiers`).

`std::isalpha` and `std::isalnum` are read in the `C` locale: the ASCII
letters, and the ASCII letters and digits (`Char.isAlpha`, `Char.isAlphanum`).
-/

import Canopy.Protobuf.MethodCodec

namespace Canopy
namespace Protobuf

/-- An identifier: a letter or `_`, then letters, digits and `_`. -/
def isIdentifier : List Char → Bool
  | c :: cs => (c.isAlpha || c == '_') && cs.all fun d => d.isAlphanum || d == '_'
  | [] => false

/-- The rewrite of one character in `sanitize_type_name`. -/
def typeNameChar (c : Char) : Char :=
  if c.isAlphanum || c == '_' || c == '.' then c else '_'

/-- The rewrite of one character in `sanitize_field_name`. -/
def fieldNameChar (c : Char) : Char :=
  if c.isAlphanum || c == '_' then c else '_'

/-- The `_` both sanitizers put in front of a first character that is not a
letter or `_`. -/
def underscoreFirst : List Char → List Char
  | c :: cs => if c.isAlpha || c == '_' then c :: cs else '_' :: c :: cs
  | [] => []

theorem sanitizeTypeName_eq (s : List Char) :
    sanitizeTypeName s = (underscoreFirst (replaceColons s)).map typeNameChar := by
  unfold sanitizeTypeName
  cases replaceColons s <;> rfl

theorem sanitizeFieldName_eq (s : List Char) :
    sanitizeFieldName s = underscoreFirst (s.map fieldNameChar) := by
  unfold sanitizeFieldName
  cases s <;> rfl

/-! ### One character -/

theorem isAlphanum_of_isAlpha {c : Char} (h : c.isAlpha = true) : c.isAlphanum = true := by
  simp [Char.isAlphanum, h]

theorem typeNameChar_valid (c : Char) :
    (typeNameChar c).isAlphanum = true ∨ typeNameChar c = '_' ∨ typeNameChar c = '.' := by
  unfold typeNameChar
  split
  · rename_i h; simpa [or_assoc] using h
  · exact .inr (.inl rfl)

theorem typeNameChar_eq_self {c : Char} (h : c.isAlphanum = true ∨ c = '_' ∨ c = '.') :
    typeNameChar c = c := by
  unfold typeNameChar
  rw [if_pos (by simpa [or_assoc] using h)]

theorem fieldNameChar_eq_self_iff {c : Char} : fieldNameChar c = c ↔ c.isAlphanum = true ∨ c = '_' := by
  unfold fieldNameChar
  split
  · rename_i h; simpa using h
  · rename_i h
    simp only [Bool.or_eq_true, beq_iff_eq, not_or] at h
    exact ⟨fun he => absurd he.symm h.2, fun h' => h'.elim (absurd · h.1) (absurd · h.2)⟩

/-! ### Names -/

theorem map_eq_self_iff {f : Char → Char} {l : List Char} : l.map f = l ↔ ∀ c ∈ l, f c = c := by
  simpa using @List.map_eq_map_iff _ _ f l id

theorem replaceColons_of_not_mem : ∀ {s : List Char}, ':' ∉ s → replaceColons s = s
  | [], _ => rfl
  | c :: cs, h => by
    have hc : c ≠ ':' := fun hc => h (hc ▸ List.mem_cons_self _ _)
    have ih := replaceColons_of_not_mem fun hm => h (List.mem_cons_of_mem _ hm)
    cases cs with
    | nil => simp [replaceColons]
    | cons d ds => simp [replaceColons, hc, ih]

theorem underscoreFirst_of_head {s : List Char} (h : ∀ c, s.head? = some c → c.isAlpha = true ∨ c = '_') :
    underscoreFirst s = s := by
  cases s with
  | nil => rfl
  | cons c cs => simp [underscoreFirst, h c rfl]

theorem head_underscoreFirst :
    ∀ (s : List Char) (c : Char), (underscoreFirst s).head? = some c → c.isAlpha = true ∨ c = '_'
  | [], _, h => by simp [underscoreFirst] at h
  | d :: ds, c, h => by
    by_cases hd : d.isAlpha = true ∨ d = '_'
    · simp only [underscoreFirst, Bool.or_eq_true, beq_iff_eq, hd, if_true, List.head?_cons,
        Option.some.injEq] at h
      exact h ▸ hd
    · simp only [underscoreFirst, Bool.or_eq_true, beq_iff_eq, hd, if_false, List.head?_cons,
        Option.some.injEq] at h
      exact .inr h.symm

/-- Every character of a sanitized type name is a letter, a digit, `_` or `.`. -/
theorem sanitizeTypeName_valid (s : List Char) :
    ∀ c ∈ sanitizeTypeName s, c.isAlphanum = true ∨ c = '_' ∨ c = '.' := by
  rw [sanitizeTypeName_eq]
  intro c hc
  obtain ⟨d, -, rfl⟩ := List.mem_map.1 hc
  exact typeNameChar_valid d

/-- A sanitized type name starts with a letter or `_`. -/
theorem sanitizeTypeName_head (s : List Char) :
    ∀ c, (sanitizeTypeName s).head? = some c → c.isAlpha = true ∨ c = '_' := by
  rw [sanitizeTypeName_eq, List.head?_map]
  intro c hc
  obtain ⟨d, hd, rfl⟩ := Option.map_eq_some'.1 hc
  rcases head_underscoreFirst _ d hd with h | rfl
  · rw [typeNameChar_eq_self (.inl (isAlphanum_of_isAlpha h))]; exact .inl h
  · exact .inr rfl

theorem sanitizeTypeName_idempotent (s : List Char) :
    sanitizeTypeName (sanitizeTypeName s) = sanitizeTypeName s := by
  have hv := sanitizeTypeName_valid s
  have hcolon : ':' ∉ sanitizeTypeName s := fun h => by simpa using hv ':' h
  rw [sanitizeTypeName_eq (sanitizeTypeName s), replaceColons_of_not_mem hcolon,
    underscoreFirst_of_head (sanitizeTypeName_head s), map_eq_self_iff]
  exact fun c hc => typeNameChar_eq_self (hv c hc)

/-- `sanitize_field_name` leaves a name alone exactly when it is empty or an
identifier. -/
theorem sanitizeFieldName_eq_self_iff (s : List Char) :
    sanitizeFieldName s = s ↔ s = [] ∨ isIdentifier s = true := by
  rw [sanitizeFieldName_eq]
  cases s with
  | nil => simp [underscoreFirst]
  | cons c cs =>
    have hcs : cs.map fieldNameChar = cs ↔ ∀ d ∈ cs, d.isAlphanum = true ∨ d = '_' := by
      rw [map_eq_self_iff]; exact forall₂_congr fun _ _ => fieldNameChar_eq_self_iff
    have hc : c.isAlpha = true ∨ c = '_' → fieldNameChar c = c := fun h =>
      fieldNameChar_eq_self_iff.2 (h.imp_left isAlphanum_of_isAlpha)
    simp only [List.map_cons, underscoreFirst, isIdentifier, reduceCtorEq, false_or, Bool.and_eq_true,
      Bool.or_eq_true, beq_iff_eq, List.all_eq_true]
    split
    · rename_i h
      rw [List.cons.injEq, hcs]
      exact and_congr_left' ⟨fun he => by simpa [he] using h, hc⟩
    · rename_i h
      refine iff_of_false (fun he => by simpa using congrArg List.length he) fun ⟨hc', _⟩ => h ?_
      rw [hc hc']; exact hc'

/-- For parameters named by identifiers, the request's fields are the raw names
the C++ writes with `set_`, and the response's fields of the `[out]`
parameters the raw names it reads back. -/
theorem requestFieldNames_of_identifiers {ps : List Param} (h : ∀ p ∈ ps, isIdentifier p.name = true) :
    requestFieldNames ps = (inParams ps).map (·.name) ∧
      (outParams ps).map (fun p => sanitizeFieldName p.name) = (outParams ps).map (·.name) := by
  have hid : ∀ qs : List Param, (∀ q ∈ qs, q ∈ ps) →
      qs.map (fun p => sanitizeFieldName p.name) = qs.map (·.name) := fun qs hqs =>
    List.map_congr_left fun q hq => (sanitizeFieldName_eq_self_iff _).2 (.inr (h q (hqs q hq)))
  exact ⟨hid _ fun _ hq => (List.mem_filter.1 hq).1, hid _ fun _ hq => (List.mem_filter.1 hq).1⟩

/-- **Sanitized names.**  A sanitized type name holds only letters, digits, `_`
and `.`, starts with a letter or `_` when it is not empty, and is its own
sanitized name; `sanitize_field_name` leaves a name alone exactly when it is
empty or an identifier, so for parameters named by identifiers the fields the
schema declares are the names the C++ uses. -/
theorem sanitizedNames_spec :
    (∀ s : List Char,
      (∀ c ∈ sanitizeTypeName s, c.isAlphanum = true ∨ c = '_' ∨ c = '.') ∧
      (∀ c, (sanitizeTypeName s).head? = some c → c.isAlpha = true ∨ c = '_') ∧
      sanitizeTypeName (sanitizeTypeName s) = sanitizeTypeName s ∧
      (sanitizeFieldName s = s ↔ s = [] ∨ isIdentifier s = true)) ∧
    ∀ ps : List Param, (∀ p ∈ ps, isIdentifier p.name = true) →
      requestFieldNames ps = (inParams ps).map (·.name) ∧
      (outParams ps).map (fun p => sanitizeFieldName p.name) = (outParams ps).map (·.name) :=
  ⟨fun s => ⟨sanitizeTypeName_valid s, sanitizeTypeName_head s, sanitizeTypeName_idempotent s,
    sanitizeFieldName_eq_self_iff s⟩, fun _ => requestFieldNames_of_identifiers⟩

theorem sanitizedNames_spec_get :
    requestFieldNames [⟨"key".toList, "int".toList, true, false⟩, ⟨"value".toList, "int&".toList, false, true⟩] =
      (inParams [⟨"key".toList, "int".toList, true, false⟩,
        ⟨"value".toList, "int&".toList, false, true⟩]).map (·.name) :=
  (sanitizedNames_spec.2 _ (by decide)).1

end Protobuf
end Canopy
