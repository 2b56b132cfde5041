import Mathlib.Data.List.Basic

/-!
# Recathon.Engine.Ident — how the host engine reads a relation name

Every relation and column name the recommender code formats into a statement is an
unquoted identifier, so the engine folds it to lower case and cuts it to
`NAMEDATALEN - 1 = 63` bytes, never splitting a character, before it looks the
relation up (`downcase_truncate_identifier`). `ident` is that reading. The destroy
request folds its argument itself, byte by byte with `tolower`; `lower` is that
loop. Both fold exactly `A`–`Z`, which is `Char.toLower`.

The facts later modules use:

* `lower_lower`, `lower_append`: folding is idempotent and works piecewise;
* `ident_lower_append`: `<lower r>index`, the name destroy scans and drops, reads
  as the same relation as `<r>Index`, the name build created;
* `ident_append_index_ne`: no `<r>Index` reads as a catalogue table.
-/

namespace Recathon

set_option autoImplicit false

theorem Char.toLower_idem (c : Char) : c.toLower.toLower = c.toLower := by
  simp only [Char.toLower]
  by_cases upper : c.toNat ≥ 65 ∧ c.toNat ≤ 90
  · have shifted : (Char.ofNat (c.toNat + 32)).toNat = c.toNat + 32 := by
      rw [Char.ofNat]; split
      · rfl
      · omega
    rw [if_pos upper, shifted, if_neg (by omega)]
  · rw [if_neg upper, if_neg upper]

/-- `for (i = 0; i < strlen(s); i++) s[i] = tolower(s[i]);` -/
def lower (s : String) : String := ⟨s.data.map Char.toLower⟩

/-- The longest prefix of `cs` whose UTF-8 encoding fits in `budget` bytes. -/
def clip : Nat → List Char → List Char
  | _, [] => []
  | budget, c :: cs => if c.utf8Size ≤ budget then c :: clip (budget - c.utf8Size) cs else []

/-- The relation an unquoted identifier names. -/
def ident (s : String) : String := ⟨clip 63 (lower s).data⟩

@[simp] theorem lower_data (s : String) : (lower s).data = s.data.map Char.toLower := rfl

@[simp] theorem lower_lower (s : String) : lower (lower s) = lower s := by
  simp [lower, Function.comp_def, Char.toLower_idem]

theorem lower_append (s t : String) : lower (s ++ t) = lower s ++ lower t := by
  simp [lower, String.ext_iff, String.data_append]

@[simp] theorem ident_lower (s : String) : ident (lower s) = ident s := by
  simp [ident]

theorem ident_lower_append (r : String) : ident (lower r ++ "index") = ident (r ++ "Index") := by
  rw [← ident_lower (r ++ "Index"), lower_append]
  rfl

/-- Folding the front of a name does not change the relation it reads as. -/
theorem ident_lower_append_left (r s : String) : ident (lower r ++ s) = ident (r ++ s) := by
  rw [← ident_lower (lower r ++ s), ← ident_lower (r ++ s), lower_append, lower_append, lower_lower]

/-- `<r>index` and `<r>Index` read as the same relation. -/
theorem ident_append_index (r : String) : ident (r ++ "index") = ident (r ++ "Index") := by
  rw [← ident_lower (r ++ "index"), ← ident_lower (r ++ "Index"), lower_append, lower_append]
  rfl

/-- The UTF-8 length of a character list, what `strlen` counts. -/
def byteLength : List Char → Nat
  | [] => 0
  | c :: cs => c.utf8Size + byteLength cs

@[simp] theorem byteLength_nil : byteLength [] = 0 := rfl

@[simp] theorem byteLength_cons (c : Char) (cs : List Char) :
    byteLength (c :: cs) = c.utf8Size + byteLength cs := rfl

@[simp] theorem byteLength_append (l₁ l₂ : List Char) :
    byteLength (l₁ ++ l₂) = byteLength l₁ + byteLength l₂ := by
  induction l₁ with
  | nil => simp
  | cons c l₁ ih => simp [ih, Nat.add_assoc]

theorem byteLength_data_append (s t : String) :
    byteLength (s ++ t).data = byteLength s.data + byteLength t.data := by
  rw [String.data_append, byteLength_append]

/-- An ASCII character takes one byte: with `decide` as discharger, `simp` counts the
bytes of a literal with this lemma. -/
theorem utf8Size_ofNat_of_lt {n : Nat} (ascii : n < 128) : (Char.ofNat n).utf8Size = 1 := by
  have valid : n.isValidChar := Or.inl (by omega)
  simp [Char.ofNat, valid, Char.ofNatAux, Char.utf8Size, UInt32.lt_def, BitVec.lt_def]
  omega

/-- `clip` keeps everything, or stops less than one character short of its budget. -/
theorem clip_eq_or_full (budget : Nat) (cs : List Char) :
    clip budget cs = cs ∨ budget < byteLength (clip budget cs) + 4 := by
  induction cs generalizing budget with
  | nil => exact .inl rfl
  | cons c cs ih =>
      simp only [clip]
      split
      · rcases ih (budget - c.utf8Size) with same | full
        · exact .inl (by rw [same])
        · right; simp only [byteLength_cons] at full ⊢; omega
      · right; have := Char.utf8Size_le_four c; simp only [byteLength_nil]; omega

/-- Every character takes at least one byte. -/
theorem length_le_byteLength (cs : List Char) : cs.length ≤ byteLength cs := by
  induction cs with
  | nil => exact Nat.le_refl 0
  | cons c cs ih =>
      simp only [byteLength_cons, List.length_cons]
      have := c.utf8Size_pos
      omega

/-- Once `cs` fills the budget, what follows it is cut away. -/
theorem clip_append_of_le {budget : Nat} {cs : List Char} (ds : List Char)
    (full : budget ≤ byteLength cs) : clip budget (cs ++ ds) = clip budget cs := by
  induction cs generalizing budget with
  | nil =>
      obtain rfl : budget = 0 := Nat.le_zero.1 full
      cases ds with
      | nil => rfl
      | cons d ds => simp [clip, Nat.ne_of_gt d.utf8Size_pos]
  | cons c cs ih =>
      simp only [List.cons_append, clip, List.append_eq]
      split
      · rw [ih]
        simp only [byteLength_cons] at full
        omega
      · rfl

/-- A name `<r>Index` never reads as a relation whose name is short and does not end
in `x`: either it is kept whole and ends in `index`, or it was cut at 60 bytes or more. -/
theorem ident_append_index_ne (r : String) {t : String}
    (last : t.data.getLast? ≠ some 'x') (short : byteLength t.data < 60) :
    ident (r ++ "Index") ≠ t := by
  intro same
  have whole : (lower (r ++ "Index")).data = (lower r).data ++ "index".data := by
    rw [lower_append]; rfl
  rcases clip_eq_or_full 63 (lower (r ++ "Index")).data with kept | cut
  · apply last
    rw [← same, ident, kept, whole, List.getLast?_append]
    rfl
  · rw [ident] at same
    rw [← same] at short
    exact absurd cut (by simpa using Nat.le_of_lt_succ short)

end Recathon
