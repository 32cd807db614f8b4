/-
# The bracket scans, and why `cpp_type_to_proto_type` stops

`generator/src/protobuf_generator.cpp`, lines 136-180.  `extract_template_content`
and `split_template_args` count brackets as they read: `<` adds one and `>`
takes one away.  Measured by `bracketCount`, the `<` less the `>` of the text
read, the first scan stops at the `>` where the count taken from the opening
`<` first falls back to `0`, and answers `npos` when it never does
(`extractTemplateContent_eq_none_iff`); the text between the two brackets is
then balanced (`extractTemplateContent_eq_some`).  The second scan cuts a text
at the first comma it reads at count `0` (`splitTemplateArgs_isSome_iff`), and
cuts a balanced text into two balanced sides (`splitTemplateArgs_eq_some`).

Every text `cpp_type_to_proto_type` (lines 301-445) recurses on is cut out of
its argument by these two scans, so it is strictly shorter
(`protoOfStripped_congr`), and the length of the type is fuel enough: more fuel
never changes the result (`cppTypeToProtoTypeAux_of_length_lt`).
-/

import Canopy.Protobuf.TypeName

namespace Canopy
namespace Protobuf

/-- What reading `c` does to the bracket count of the two scans. -/
def bracketStep (c : Char) : Int :=
  if c = '<' then 1 else if c = '>' then -1 else 0

/-- The bracket count of a text: its `<` less its `>`. -/
def bracketCount (s : List Char) : Int :=
  s.count '<' - s.count '>'

/-- Bracket-balanced: no prefix holds more `>` than `<`, and the whole text
holds as many of each. -/
def Balanced (s : List Char) : Prop :=
  (∀ k ≤ s.length, (s.take k).count '>' ≤ (s.take k).count '<') ∧ s.count '<' = s.count '>'

instance (s : List Char) : Decidable (Balanced s) :=
  inferInstanceAs (Decidable (_ ∧ _))

/-! ### The count -/

theorem bracketStep_bounds (c : Char) : -1 ≤ bracketStep c ∧ bracketStep c ≤ 1 := by
  unfold bracketStep; split_ifs <;> omega

theorem bracketStep_eq_neg_one {c : Char} (h : bracketStep c = -1) : c = '>' := by
  unfold bracketStep at h
  split_ifs at h; simp_all

@[simp] theorem bracketStep_open : bracketStep '<' = 1 := rfl

@[simp] theorem bracketStep_close : bracketStep '>' = -1 := rfl

@[simp] theorem bracketStep_comma : bracketStep ',' = 0 := rfl

@[simp] theorem bracketCount_nil : bracketCount [] = 0 := rfl

@[simp] theorem bracketCount_cons (c : Char) (s : List Char) :
    bracketCount (c :: s) = bracketStep c + bracketCount s := by
  unfold bracketCount bracketStep
  by_cases h₁ : c = '<'
  · subst h₁; simp [List.count_cons]; omega
  · by_cases h₂ : c = '>'
    · subst h₂; simp [List.count_cons]; omega
    · simp [List.count_cons, h₁, h₂]

theorem bracketCount_append (a b : List Char) :
    bracketCount (a ++ b) = bracketCount a + bracketCount b := by
  simp only [bracketCount, List.count_append]; omega

theorem bracketCount_take_append (a b : List Char) (k : Nat) :
    bracketCount ((a ++ b).take k) = bracketCount (a.take k) + bracketCount (b.take (k - a.length)) := by
  rw [List.take_append_eq_append_take, bracketCount_append]

theorem bracketCount_of_plain {w : List Char} (hw : ∀ c ∈ w, c ≠ '<' ∧ c ≠ '>') : bracketCount w = 0 := by
  have h₁ : w.count '<' = 0 := List.count_eq_zero_of_not_mem fun h => (hw _ h).1 rfl
  have h₂ : w.count '>' = 0 := List.count_eq_zero_of_not_mem fun h => (hw _ h).2 rfl
  simp [bracketCount, h₁, h₂]

theorem bracketCount_of_spaces {u : List Char} (hu : ∀ c ∈ u, c = ' ') : bracketCount u = 0 :=
  bracketCount_of_plain fun c hc => by rw [hu c hc]; decide

/-- A property of every prefix of `c :: cs`: of the empty one, and of `c` in
front of every prefix of `cs`. -/
theorem forall_take_cons {P : List Char → Prop} {c : Char} {cs : List Char} :
    (∀ j ≤ (c :: cs).length, P ((c :: cs).take j)) ↔ P [] ∧ ∀ j ≤ cs.length, P (c :: cs.take j) :=
  ⟨fun h => ⟨h 0 (Nat.zero_le _), fun j hj => h (j + 1) (by simpa using hj)⟩,
    fun h j hj => match j, hj with
      | 0, _ => h.1
      | j + 1, hj => h.2 j (by simpa using hj)⟩

/-! ### Balanced texts -/

theorem balanced_iff {s : List Char} :
    Balanced s ↔ (∀ k ≤ s.length, 0 ≤ bracketCount (s.take k)) ∧ bracketCount s = 0 := by
  have h₀ : ∀ t : List Char, 0 ≤ bracketCount t ↔ t.count '>' ≤ t.count '<' := fun t => by
    unfold bracketCount; omega
  have h₁ : ∀ t : List Char, bracketCount t = 0 ↔ t.count '<' = t.count '>' := fun t => by
    unfold bracketCount; omega
  simp only [Balanced, h₀, h₁]

namespace Balanced

variable {a : List Char} (ha : Balanced a)
include ha

/-- Every prefix of a balanced text, not only those within its length. -/
theorem bracketCount_take (k : Nat) : 0 ≤ bracketCount (a.take k) := by
  rw [balanced_iff] at ha
  rcases Nat.le_total k a.length with hk | hk
  · exact ha.1 k hk
  · simp only [List.take_of_length_le hk, ha.2, Int.le_refl]

/-- A prefix of a balanced text at count `0` is balanced. -/
theorem take {i : Nat} (hi : bracketCount (a.take i) = 0) : Balanced (a.take i) :=
  balanced_iff.2 ⟨fun k _ => by rw [List.take_take]; exact ha.bracketCount_take _, hi⟩

/-- What follows a prefix at count `0` of a balanced text is balanced. -/
theorem drop {i : Nat} (hi : bracketCount (a.take i) = 0) : Balanced (a.drop i) := by
  have hsplit : ∀ k, bracketCount (a.take (i + k)) = bracketCount ((a.drop i).take k) := fun k => by
    rw [List.take_add, bracketCount_append, hi, Int.zero_add]
  refine balanced_iff.2 ⟨fun k _ => hsplit k ▸ ha.bracketCount_take _, ?_⟩
  have := (balanced_iff.1 ha).2
  rw [← List.take_append_drop i a, bracketCount_append, hi, Int.zero_add] at this
  exact this

/-- Spaces trimmed off both ends of a balanced text leave it balanced. -/
theorem middle {u y v : List Char} (hu : ∀ c ∈ u, c = ' ') (hv : ∀ c ∈ v, c = ' ')
    (h : a = u ++ y ++ v) : Balanced y := by
  have hu0 : bracketCount (a.take u.length) = 0 := by
    rw [h, List.append_assoc, List.take_left, bracketCount_of_spaces hu]
  have hd := ha.drop hu0
  rw [h, List.append_assoc, List.drop_left] at hd
  have hy : bracketCount ((y ++ v).take y.length) = 0 := by
    have := (balanced_iff.1 hd).2
    rw [bracketCount_append, bracketCount_of_spaces hv, Int.add_zero] at this
    rwa [List.take_left]
  simpa using hd.take hy

/-- Balanced texts put end to end are balanced. -/
theorem append {b : List Char} (hb : Balanced b) : Balanced (a ++ b) := by
  refine balanced_iff.2 ⟨fun k _ => ?_, ?_⟩
  · rw [bracketCount_take_append]
    have := ha.bracketCount_take k
    have := hb.bracketCount_take (k - a.length)
    omega
  · rw [bracketCount_append, (balanced_iff.1 ha).2, (balanced_iff.1 hb).2, Int.add_zero]

/-- A balanced text between `<` and `>` is balanced. -/
theorem bracket : Balanced ('<' :: (a ++ ['>'])) := by
  have hend : ∀ m, -1 ≤ bracketCount ((['>'] : List Char).take m) := fun m => by cases m <;> simp
  refine balanced_iff.2 ⟨fun k _ => ?_, ?_⟩
  · cases k with
    | zero => simp
    | succ k =>
      rw [List.take_succ_cons, bracketCount_cons, bracketCount_take_append, bracketStep_open]
      have := ha.bracketCount_take k
      have := hend (k - a.length)
      omega
  · rw [bracketCount_cons, bracketCount_append, (balanced_iff.1 ha).2]
    simp

end Balanced

theorem balanced_of_plain {w : List Char} (hw : ∀ c ∈ w, c ≠ '<' ∧ c ≠ '>') : Balanced w :=
  balanced_iff.2 ⟨fun k _ => by
    simp only [bracketCount_of_plain fun c hc => hw c (List.mem_of_mem_take hc), Int.le_refl],
    bracketCount_of_plain hw⟩

/-! ### Commas inside brackets -/

/-- Every comma of the text is read inside brackets. -/
def CommasNested (w : List Char) : Prop :=
  ∀ i, w[i]? = some ',' → 0 < bracketCount (w.take i)

theorem commasNested_of_plain {w : List Char} (hw : ',' ∉ w) : CommasNested w :=
  fun _ hi => absurd (List.getElem?_mem hi) hw

theorem CommasNested.append {a b : List Char} (ha : Balanced a) (hca : CommasNested a)
    (hcb : CommasNested b) : CommasNested (a ++ b) := by
  intro i hi
  rw [bracketCount_take_append]
  rcases Nat.lt_or_ge i a.length with h | h
  · rw [List.getElem?_append_left h] at hi
    rw [Nat.sub_eq_zero_of_le h.le, List.take_zero, bracketCount_nil, Int.add_zero]
    exact hca i hi
  · rw [List.getElem?_append_right h] at hi
    rw [List.take_of_length_le h, (balanced_iff.1 ha).2, Int.zero_add]
    exact hcb _ hi

/-- Every comma of a balanced text between `<` and `>` is inside the brackets. -/
theorem Balanced.commasNested_bracket {a : List Char} (ha : Balanced a) :
    CommasNested ('<' :: (a ++ ['>'])) := by
  rintro (_ | j) hi
  · simp at hi
  · rw [List.getElem?_cons_succ] at hi
    have hj : j < a.length := by
      refine Nat.lt_of_not_le fun hj => ?_
      rw [List.getElem?_append_right hj] at hi
      simpa using List.getElem?_mem hi
    rw [List.take_succ_cons, bracketCount_cons, bracketStep_open, List.take_append_of_le_length hj.le]
    have := ha.bracketCount_take j
    omega

/-- A text with no bracket and no comma. -/
theorem nested_of_plain {w : List Char} (hw : ∀ c ∈ w, c ≠ '<' ∧ c ≠ '>' ∧ c ≠ ',') :
    Balanced w ∧ CommasNested w :=
  ⟨balanced_of_plain fun c hc => ⟨(hw c hc).1, (hw c hc).2.1⟩,
    commasNested_of_plain fun hc => (hw ',' hc).2.2 rfl⟩

theorem nested_append {a b : List Char} (ha : Balanced a ∧ CommasNested a)
    (hb : Balanced b ∧ CommasNested b) : Balanced (a ++ b) ∧ CommasNested (a ++ b) :=
  ⟨ha.1.append hb.1, ha.2.append ha.1 hb.2⟩

/-- A template name, then a balanced text between brackets. -/
theorem nested_template {p x : List Char} (hp : ∀ c ∈ p, c ≠ '<' ∧ c ≠ '>' ∧ c ≠ ',')
    (hx : Balanced x) : Balanced (p ++ '<' :: (x ++ ['>'])) ∧ CommasNested (p ++ '<' :: (x ++ ['>'])) :=
  nested_append (nested_of_plain hp) ⟨hx.bracket, hx.commasNested_bracket⟩

/-- `trim_whitespace` cuts spaces off both ends, and nothing else. -/
theorem trimWhitespace_spaces (s : List Char) :
    ∃ u v, (∀ c ∈ u, c = ' ') ∧ (∀ c ∈ v, c = ' ') ∧ s = u ++ trimWhitespace s ++ v := by
  have hsp : ∀ {l : List Char}, ∀ c ∈ l.takeWhile (· == ' '), c = ' ' := fun c hc => by
    simpa using List.mem_takeWhile_imp hc
  let t := s.dropWhile (· == ' ')
  refine ⟨s.takeWhile (· == ' '), (t.reverse.takeWhile (· == ' ')).reverse, hsp,
    fun c hc => hsp c (List.mem_reverse.1 hc), ?_⟩
  have ht : t = trimWhitespace s ++ (t.reverse.takeWhile (· == ' ')).reverse := by
    conv_lhs => rw [← List.reverse_reverse t, ← List.takeWhile_append_dropWhile (· == ' ') t.reverse]
    rw [List.reverse_append]; rfl
  rw [List.append_assoc, ← ht, List.takeWhile_append_dropWhile]

theorem trimWhitespace_length_le (s : List Char) : (trimWhitespace s).length ≤ s.length := by
  obtain ⟨u, v, -, -, h⟩ := trimWhitespace_spaces s
  conv_rhs => rw [h]
  simp only [List.length_append]; omega

theorem Balanced.trimWhitespace {a : List Char} (ha : Balanced a) : Balanced (trimWhitespace a) := by
  obtain ⟨u, v, hu, hv, h⟩ := trimWhitespace_spaces a
  exact ha.middle hu hv h

/-! ### The loop of `extract_template_content` -/

section Close

variable {c : Char} {cs : List Char} {d : Nat}

/-- One character of the loop, with brackets open: the count moves by the
character's step, and the loop stops when it reaches `0`. -/
theorem closeAfter_cons (hd : 0 < d) :
    closeAfter (c :: cs) d =
      if (d : Int) + bracketStep c = 0 then some 1
      else (closeAfter cs (d + bracketStep c).toNat).map (· + 1) := by
  have h : ((d : Int) + bracketStep c).toNat = if c = '<' then d + 1 else if c = '>' then d - 1 else d := by
    unfold bracketStep; split_ifs <;> omega
  have h0 : ((d : Int) + bracketStep c).toNat = 0 ↔ (d : Int) + bracketStep c = 0 := by
    have := bracketStep_bounds c; omega
  rw [closeAfter, ← h]
  simp only [h0]

/-- The loop reads to the end of the text exactly when the count, from `d`, is
not `0` after any prefix. -/
theorem closeAfter_eq_none_iff : ∀ {s : List Char} {d : Nat}, 0 < d →
    (closeAfter s d = none ↔ ∀ j ≤ s.length, (d : Int) + bracketCount (s.take j) ≠ 0)
  | [], d, hd => by simp [closeAfter]; omega
  | c :: cs, d, hd => by
    have hb := bracketStep_bounds c
    rw [closeAfter_cons hd, forall_take_cons (P := fun t => (d : Int) + bracketCount t ≠ 0)]
    simp only [List.take_zero, bracketCount_nil, bracketCount_cons]
    split_ifs with h
    · simp only [reduceCtorEq, false_iff, not_and, not_forall, not_not]
      exact fun _ => ⟨0, Nat.zero_le _, by simpa using h⟩
    · rw [Option.map_eq_none', closeAfter_eq_none_iff (by omega)]
      have hd' : (((d : Int) + bracketStep c).toNat : Int) = d + bracketStep c := by omega
      simp only [hd', Int.add_assoc]
      exact ⟨fun h' => ⟨by omega, h'⟩, And.right⟩

/-- Where the loop stops: at a `>`, the first character after which the count,
from `d`, is `0`; it is positive after every shorter prefix. -/
theorem closeAfter_eq_some : ∀ {s : List Char} {d k : Nat}, 0 < d → closeAfter s d = some k →
    0 < k ∧ k ≤ s.length ∧ s[k - 1]? = some '>' ∧ (d : Int) + bracketCount (s.take k) = 0 ∧
      ∀ j < k, 0 < (d : Int) + bracketCount (s.take j)
  | [], _, _, _, h => by simp [closeAfter] at h
  | c :: cs, d, k, hd, h => by
    have hb := bracketStep_bounds c
    rw [closeAfter_cons hd] at h
    split_ifs at h with h0
    · cases h
      have hc : c = '>' := bracketStep_eq_neg_one (by omega)
      refine ⟨Nat.one_pos, by simp, by simp [hc], by simpa using h0, fun j hj => ?_⟩
      obtain rfl : j = 0 := by omega
      simpa using hd
    · obtain ⟨k', hk', rfl⟩ := Option.map_eq_some'.1 h
      have hd' : (((d : Int) + bracketStep c).toNat : Int) = d + bracketStep c := by omega
      obtain ⟨h₁, h₂, h₃, h₄, h₅⟩ := closeAfter_eq_some (by omega) hk'
      rw [hd'] at h₄ h₅
      refine ⟨Nat.succ_pos _, by simpa using h₂, ?_, by simpa [Int.add_assoc] using h₄, ?_⟩
      · obtain ⟨k'', rfl⟩ := Nat.exists_eq_add_of_lt h₁
        simpa using h₃
      · rintro (_ | j) hj
        · simpa using hd
        · simpa [Int.add_assoc] using h₅ j (by omega)

/-- The text the loop reads before the closing `>` is balanced. -/
theorem balanced_of_closeAfter {k : Nat} (h : closeAfter cs 1 = some k) : Balanced (cs.take (k - 1)) := by
  obtain ⟨h₁, -, h₃, h₄, h₅⟩ := closeAfter_eq_some Nat.one_pos h
  obtain ⟨k, rfl⟩ := Nat.exists_eq_add_of_lt h₁
  simp only [Nat.zero_add, Nat.add_sub_cancel] at h₃ h₄ h₅ ⊢
  rw [List.take_succ, h₃, bracketCount_append] at h₄
  refine balanced_iff.2 ⟨fun j hj => ?_, by simp at h₄; omega⟩
  have := h₅ j (by simp at hj; omega)
  rw [List.take_take, Nat.min_eq_left (by simp at hj; omega)]
  omega

end Close

theorem drop_of_open {s : List Char} {p : Nat} (hp : s[p]? = some '<') :
    s.drop p = '<' :: s.drop (p + 1) := by
  obtain ⟨hlt, hget⟩ := List.getElem?_eq_some_iff.1 hp
  rw [List.drop_eq_getElem_cons hlt, hget]

/-- `extract_template_content` at an opening `<` runs the loop on the text
after it. -/
theorem extractTemplateContent_of_open {s : List Char} {p : Nat} (hp : s[p]? = some '<') :
    extractTemplateContent s p =
      (closeAfter (s.drop (p + 1)) 1).map fun k => (p + 1 + k, (s.drop (p + 1)).take (k - 1)) := by
  rw [extractTemplateContent, drop_of_open hp]
  rfl

/-- **`npos`.**  At an opening `<`, `extract_template_content` answers `npos`
exactly when the count taken from the `<` never falls back to `0`. -/
theorem extractTemplateContent_eq_none_iff {s : List Char} {p : Nat} (hp : s[p]? = some '<') :
    extractTemplateContent s p = none ↔
      ∀ j, 0 < j → j ≤ (s.drop p).length → bracketCount ((s.drop p).take j) ≠ 0 := by
  rw [extractTemplateContent_of_open hp, Option.map_eq_none', closeAfter_eq_none_iff Nat.one_pos,
    drop_of_open hp]
  constructor
  · rintro h (_ | j) hj0 hj
    · exact absurd hj0 (Nat.lt_irrefl 0)
    · simpa using h j (by simpa using hj)
  · intro h j hj
    simpa using h (j + 1) (Nat.succ_pos _) (by simpa using hj)

/-- **The matching `>`.**  Otherwise it answers the position after the `>` at
which the count taken from the `<` first falls back to `0`, and the balanced
text between the two brackets. -/
theorem extractTemplateContent_eq_some {s : List Char} {p q : Nat} {c : List Char}
    (hp : s[p]? = some '<') (h : extractTemplateContent s p = some (q, c)) :
    q ≤ s.length ∧ s[q - 1]? = some '>' ∧ bracketCount ((s.drop p).take (q - p)) = 0 ∧
      (∀ j, 0 < j → j < q - p → bracketCount ((s.drop p).take j) ≠ 0) ∧
      c = (s.drop (p + 1)).take (q - p - 2) ∧ Balanced c := by
  rw [extractTemplateContent_of_open hp] at h
  obtain ⟨k, hk, heq⟩ := Option.map_eq_some'.1 h
  simp only [Prod.mk.injEq] at heq
  obtain ⟨rfl, rfl⟩ := heq
  have hbal := balanced_of_closeAfter hk
  obtain ⟨h₁, h₂, h₃, h₄, h₅⟩ := closeAfter_eq_some Nat.one_pos hk
  have hlen : p + 1 ≤ s.length := (List.getElem?_eq_some_iff.1 hp).1
  rw [drop_of_open hp]
  simp only [List.length_drop] at h₂
  refine ⟨by omega, ?_, ?_, fun j hj0 hj => ?_, by congr 1; omega, hbal⟩
  · rw [List.getElem?_drop] at h₃
    rwa [show p + 1 + k - 1 = p + 1 + (k - 1) by omega]
  · rw [show p + 1 + k - p = k + 1 by omega]
    simpa using h₄
  · obtain ⟨j, rfl⟩ := Nat.exists_eq_add_of_lt hj0
    have := h₅ j (by omega)
    simp only [Nat.zero_add, List.take_succ_cons, bracketCount_cons, bracketStep_open]
    omega

/-! ### The loop of `split_template_args` -/

/-- One character of the loop: a comma at count `0` ends it, any other
character moves the count by its step. -/
theorem splitAtTopComma_cons {d : Int} {c : Char} {cs : List Char} :
    splitAtTopComma d (c :: cs) =
      if c = ',' ∧ d = 0 then some ([], cs)
      else (splitAtTopComma (d + bracketStep c) cs).map (prependFirst [c]) := by
  unfold bracketStep
  by_cases h₁ : c = '<'
  · subst h₁; simp [splitAtTopComma]
  · by_cases h₂ : c = '>'
    · subst h₂; simp [splitAtTopComma, Int.sub_eq_add_neg]
    · simp [splitAtTopComma, h₁, h₂]

/-- The loop finds no comma exactly when every comma is read at a count, from
`d`, other than `0`. -/
theorem splitAtTopComma_eq_none_iff : ∀ {s : List Char} {d : Int},
    splitAtTopComma d s = none ↔ ∀ i, s[i]? = some ',' → d + bracketCount (s.take i) ≠ 0
  | [], d => by simp [splitAtTopComma]
  | c :: cs, d => by
    rw [splitAtTopComma_cons]
    split_ifs with h
    · simp only [reduceCtorEq, false_iff, not_forall, not_not]
      exact ⟨0, by simp [h.1], by simp [h.2]⟩
    · rw [Option.map_eq_none', splitAtTopComma_eq_none_iff]
      constructor
      · rintro h' (_ | i) hi
        · simp only [List.getElem?_cons_zero, Option.some.injEq] at hi
          simpa [hi] using h
        · simpa [Int.add_assoc] using h' i (by simpa using hi)
      · intro h' i hi
        simpa [Int.add_assoc] using h' (i + 1) (by simpa using hi)

/-- Where the loop stops: at the first comma read at count `0`, from `d`; the
text before it and the text after it. -/
theorem splitAtTopComma_eq_some : ∀ {s : List Char} {d : Int} {f r : List Char},
    splitAtTopComma d s = some (f, r) →
    ∃ i, s[i]? = some ',' ∧ d + bracketCount (s.take i) = 0 ∧
      (∀ j < i, s[j]? = some ',' → d + bracketCount (s.take j) ≠ 0) ∧ f = s.take i ∧ r = s.drop (i + 1)
  | [], _, _, _, h => by simp [splitAtTopComma] at h
  | c :: cs, d, f, r, h => by
    rw [splitAtTopComma_cons] at h
    split_ifs at h with h0
    · cases h
      exact ⟨0, by simp [h0.1], by simp [h0.2], fun j hj => absurd hj (Nat.not_lt_zero _), rfl, rfl⟩
    · obtain ⟨⟨f', r'⟩, h', heq⟩ := Option.map_eq_some'.1 h
      simp only [prependFirst, Prod.mk.injEq] at heq
      obtain ⟨rfl, rfl⟩ := heq
      obtain ⟨i, hi, hdi, hfirst, rfl, rfl⟩ := splitAtTopComma_eq_some h'
      refine ⟨i + 1, by simpa using hi, by simpa [Int.add_assoc] using hdi, ?_, rfl, rfl⟩
      rintro (_ | j) hj hc
      · simp only [List.getElem?_cons_zero, Option.some.injEq] at hc
        simpa [hc] using h0
      · simpa [Int.add_assoc] using hfirst j (by omega) (by simpa using hc)

/-- **A top-level comma.**  `split_template_args` succeeds exactly when some
comma is read at count `0`. -/
theorem splitTemplateArgs_isSome_iff {a : List Char} :
    (splitTemplateArgs a).isSome ↔ ∃ i, a[i]? = some ',' ∧ bracketCount (a.take i) = 0 := by
  rw [splitTemplateArgs, Option.isSome_map', Option.isSome_iff_ne_none, Ne, splitAtTopComma_eq_none_iff]
  simp

/-- **The two sides.**  It cuts at the first comma read at count `0`, trims both
sides, and both are balanced when the text is. -/
theorem splitTemplateArgs_eq_some {a first second : List Char} (ha : Balanced a)
    (h : splitTemplateArgs a = some (first, second)) :
    ∃ i, a[i]? = some ',' ∧ bracketCount (a.take i) = 0 ∧
      (∀ j < i, a[j]? = some ',' → bracketCount (a.take j) ≠ 0) ∧
      first = trimWhitespace (a.take i) ∧ second = trimWhitespace (a.drop (i + 1)) ∧
      Balanced first ∧ Balanced second := by
  obtain ⟨⟨f, r⟩, h', heq⟩ := Option.map_eq_some'.1 h
  simp only [Prod.mk.injEq] at heq
  obtain ⟨rfl, rfl⟩ := heq
  obtain ⟨i, hi, hdi, hfirst, rfl, rfl⟩ := splitAtTopComma_eq_some h'
  rw [Int.zero_add] at hdi
  have hdi' : bracketCount (a.take (i + 1)) = 0 := by
    rw [List.take_succ, hi, bracketCount_append, hdi]; simp
  exact ⟨i, hi, hdi, fun j hj hc => by simpa using hfirst j hj hc, rfl, rfl,
    (ha.take hdi).trimWhitespace, (ha.drop hdi').trimWhitespace⟩

/-! ### The scans across a nested text -/

/-- The loop of `extract_template_content` reads through a text after which
the count, from `d`, stays positive. -/
theorem closeAfter_append : ∀ {w r : List Char} {d : Nat},
    (∀ k ≤ w.length, 0 < (d : Int) + bracketCount (w.take k)) →
    closeAfter (w ++ r) d = (closeAfter r ((d : Int) + bracketCount w).toNat).map (· + w.length)
  | [], r, d, _ => by simp
  | c :: w, r, d, hw => by
    have h₀ := hw 0 (Nat.zero_le _)
    have h₁ := hw 1 (by simp)
    simp only [List.take_zero, bracketCount_nil, Int.add_zero, List.take_succ_cons,
      bracketCount_cons] at h₀ h₁
    have hd : (((d : Int) + bracketStep c).toNat : Int) = d + bracketStep c := by omega
    rw [List.cons_append, closeAfter_cons (by omega), if_neg (by omega), closeAfter_append fun k hk => by
      have := hw (k + 1) (by simpa using hk)
      simpa [hd, Int.add_assoc] using this]
    simp only [Option.map_map, hd, bracketCount_cons, Int.add_assoc, List.length_cons]
    rfl

/-- A balanced text leaves the count where it was. -/
theorem closeAfter_balanced {w : List Char} (hw : Balanced w) (d : Nat) (r : List Char) :
    closeAfter (w ++ r) (d + 1) = (closeAfter r (d + 1)).map (· + w.length) := by
  rw [closeAfter_append fun k _ => by have := hw.bracketCount_take k; omega, (balanced_iff.1 hw).2]
  congr 2

/-- The loop of `split_template_args` reads through a text none of whose commas
is at count `0`, from `d`. -/
theorem splitAtTopComma_append : ∀ {w r : List Char} {d : Int},
    (∀ i, w[i]? = some ',' → d + bracketCount (w.take i) ≠ 0) →
    splitAtTopComma d (w ++ r) = (splitAtTopComma (d + bracketCount w) r).map (prependFirst w)
  | [], r, d, _ => by simp [prependFirst]
  | c :: w, r, d, hw => by
    have h₀ : ¬ (c = ',' ∧ d = 0) := fun ⟨hc, hd⟩ => hw 0 (by simp [hc]) (by simp [hd])
    rw [List.cons_append, splitAtTopComma_cons, if_neg h₀, splitAtTopComma_append fun i hi => by
      simpa [Int.add_assoc] using hw (i + 1) (by simpa using hi)]
    simp [Option.map_map, Int.add_assoc]

/-- A balanced text whose commas are inside brackets is read through. -/
theorem splitAtTopComma_balanced {w : List Char} (hw : Balanced w) (hc : CommasNested w) {d : Int}
    (hd : 0 ≤ d) (r : List Char) :
    splitAtTopComma d (w ++ r) = (splitAtTopComma d r).map (prependFirst w) := by
  rw [splitAtTopComma_append fun i hi => by have := hc i hi; omega, (balanced_iff.1 hw).2, Int.add_zero]

/-! ### The recursion of `cpp_type_to_proto_type` -/

theorem stripModifiers_length_le (s : List Char) : (stripModifiers s).2.length ≤ s.length := by
  unfold stripModifiers
  have hdrop : (if "const ".toList.isPrefixOf s then s.drop 6 else s).length ≤ s.length := by
    split <;> simp
  refine (trimWhitespace_length_le _).trans ?_
  exact ((List.takeWhile_sublist _).length_le.trans (List.takeWhile_sublist _).length_le).trans hdrop

theorem extractTemplateContent_length {t c : List Char} {p q : Nat}
    (h : extractTemplateContent t p = some (q, c)) : c.length < t.length := by
  unfold extractTemplateContent at h
  split at h
  · rename_i rest hrest
    obtain ⟨k, -, heq⟩ := Option.map_eq_some'.1 h
    simp only [Prod.mk.injEq] at heq
    obtain ⟨-, rfl⟩ := heq
    have := congrArg List.length hrest
    simp only [List.length_drop, List.length_cons] at this
    simp only [List.length_take]
    omega
  · cases h

theorem splitTemplateArgs_length {a f r : List Char} (h : splitTemplateArgs a = some (f, r)) :
    f.length ≤ a.length ∧ r.length ≤ a.length := by
  obtain ⟨⟨f', r'⟩, h', heq⟩ := Option.map_eq_some'.1 h
  simp only [Prod.mk.injEq] at heq
  obtain ⟨rfl, rfl⟩ := heq
  obtain ⟨i, -, -, -, rfl, rfl⟩ := splitAtTopComma_eq_some h'
  exact ⟨(trimWhitespace_length_le _).trans (List.take_sublist _ _).length_le,
    (trimWhitespace_length_le _).trans (List.drop_sublist _ _).length_le⟩

/-- **Shorter calls.**  The body of `cpp_type_to_proto_type` calls itself only
on texts shorter than the type it is given: the key and the value of a map,
the element of an array, the argument of a sequence. -/
theorem protoOfStripped_congr {rec rec' : List Char → List Char} {type : List Char}
    (h : ∀ t, t.length < type.length → rec t = rec' t) :
    protoOfStripped rec type = protoOfStripped rec' type := by
  unfold protoOfStripped
  split
  · rfl
  split
  · split
    · rename_i inner hext
      have hi := extractTemplateContent_length hext
      split
      · rename_i key value hsplit
        have hs := splitTemplateArgs_length hsplit
        rw [h key (by omega), h value (by omega)]
      · rfl
    · rfl
  · split
    · split
      · rename_i inner hext
        have hi := extractTemplateContent_length hext
        split
        · rename_i elem _ _ hsplit
          have hs := splitTemplateArgs_length hsplit
          rw [h elem (by omega)]
        · rw [h inner hi]
      · rfl
    · rfl

theorem cppTypeToProtoTypeAux_fuel : ∀ {n m : Nat} {s : List Char}, s.length < n → s.length < m →
    cppTypeToProtoTypeAux n s = cppTypeToProtoTypeAux m s
  | 0, _, _, hn, _ => absurd hn (Nat.not_lt_zero _)
  | _ + 1, 0, _, _, hm => absurd hm (Nat.not_lt_zero _)
  | n + 1, m + 1, s, hn, hm => by
    have hs := stripModifiers_length_le s
    rw [cppTypeToProtoTypeAux_succ, cppTypeToProtoTypeAux_succ,
      protoOfStripped_congr fun t ht => cppTypeToProtoTypeAux_fuel (n := n) (m := m) (by omega) (by omega)]

/-- **Termination.**  Fuel beyond the length of the type is never used up: the
recursion of `cpp_type_to_proto_type` stops on every input, with the result
`cppTypeToProtoType` gives. -/
theorem cppTypeToProtoTypeAux_of_length_lt {n : Nat} {s : List Char} (h : s.length < n) :
    cppTypeToProtoTypeAux n s = cppTypeToProtoType s :=
  cppTypeToProtoTypeAux_fuel h (Nat.lt_succ_self _)

/-- **The two scans, and the recursion they bound.**  At every opening `<`,
`extract_template_content` answers `npos` exactly when the count taken from the
`<` never falls back to `0`, and otherwise the position after the `>` where it
first does, with the balanced text in between; on a balanced text,
`split_template_args` succeeds exactly when some comma is read at count `0`,
and then cuts at the first one into two trimmed, balanced sides.  So the body of
`cpp_type_to_proto_type` calls itself only on texts shorter than its argument,
and the recursion stops on every input. -/
theorem bracketScans_spec :
    (∀ (s : List Char) (p : Nat), s[p]? = some '<' →
      (extractTemplateContent s p = none ↔
        ∀ j, 0 < j → j ≤ (s.drop p).length → bracketCount ((s.drop p).take j) ≠ 0) ∧
      ∀ q c, extractTemplateContent s p = some (q, c) →
        q ≤ s.length ∧ s[q - 1]? = some '>' ∧ bracketCount ((s.drop p).take (q - p)) = 0 ∧
        (∀ j, 0 < j → j < q - p → bracketCount ((s.drop p).take j) ≠ 0) ∧
        c = (s.drop (p + 1)).take (q - p - 2) ∧ Balanced c) ∧
    (∀ a : List Char, Balanced a →
      ((splitTemplateArgs a).isSome ↔ ∃ i, a[i]? = some ',' ∧ bracketCount (a.take i) = 0) ∧
      ∀ first second, splitTemplateArgs a = some (first, second) →
        ∃ i, a[i]? = some ',' ∧ bracketCount (a.take i) = 0 ∧
          (∀ j < i, a[j]? = some ',' → bracketCount (a.take j) ≠ 0) ∧
          first = trimWhitespace (a.take i) ∧ second = trimWhitespace (a.drop (i + 1)) ∧
          Balanced first ∧ Balanced second) ∧
    (∀ (s : List Char) (rec rec' : List Char → List Char),
      (∀ t, t.length < s.length → rec t = rec' t) →
        protoOfStripped rec (stripModifiers s).2 = protoOfStripped rec' (stripModifiers s).2) ∧
    ∀ n (s : List Char), s.length < n → cppTypeToProtoTypeAux n s = cppTypeToProtoType s :=
  ⟨fun _ _ hp => ⟨extractTemplateContent_eq_none_iff hp, fun _ _ => extractTemplateContent_eq_some hp⟩,
    fun _ ha => ⟨splitTemplateArgs_isSome_iff, fun _ _ => splitTemplateArgs_eq_some ha⟩,
    fun s _ _ h => protoOfStripped_congr fun t ht => h t (Nat.lt_of_lt_of_le ht (stripModifiers_length_le s)),
    fun _ _ => cppTypeToProtoTypeAux_of_length_lt⟩

theorem bracketScans_spec_map :
    Balanced "int, box<int>".toList ∧ (splitTemplateArgs "int, box<int>".toList).isSome ∧
      cppTypeToProtoTypeAux 40 "std::map<int, box<int>>".toList =
        cppTypeToProtoType "std::map<int, box<int>>".toList :=
  ⟨((bracketScans_spec.1 "std::map<int, box<int>>".toList 8 (by decide)).2 23 "int, box<int>".toList
      (by decide)).2.2.2.2.2,
    ((bracketScans_spec.2.1 "int, box<int>".toList (by decide)).1).2 ⟨3, by decide, by decide⟩,
    bracketScans_spec.2.2.2 40 _ (by decide)⟩

end Protobuf
end Canopy
