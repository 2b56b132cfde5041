import Mathlib.Data.List.Chain
import Recathon.Text.Digits

/-!
# Recathon.Text.Literal — the engine's reading of string literals

The builders and the destroyer print values into SQL text between single quotes
(`'%s'`) and hand the text to the engine, which reads each literal back. `literals` is
that reading for standard string literals (`standard_conforming_strings`): a literal runs
from a quote to the next quote that is not doubled, a doubled quote inside it stands for
one quote, and a backslash is an ordinary character. It returns the contents of the
literals in order, or `none` when the text ends inside one.

A statement is modelled as the pieces its format string assembles (`Piece`): text, or a
value between quotes. `literals_render` is the round trip: when no piece contains a
quote and every quoted value is followed by nonempty text or by the end (`Readable`),
the engine reads back exactly the quoted values. The code does not double quotes, so the
condition is needed.
-/

namespace Recathon

set_option autoImplicit false

/-- `'`. -/
def quoteChar : Char := Char.ofNat 39

/-- Where the lexer stands: outside a literal, inside one, or just after a quote inside
one, where a second quote continues the literal and anything else ends it. -/
inductive LexState
  | outside
  | inside (acc : List Char)
  | closing (acc : List Char)

/-- The contents of the string literals of a statement, in order. -/
def literals : LexState → List Char → Option (List String)
  | .outside, [] => some []
  | .outside, c :: rest => literals (if c = quoteChar then .inside [] else .outside) rest
  | .inside _, [] => none
  | .inside acc, c :: rest =>
      literals (if c = quoteChar then .closing acc else .inside (acc ++ [c])) rest
  | .closing acc, [] => some [⟨acc⟩]
  | .closing acc, c :: rest =>
      if c = quoteChar then literals (.inside (acc ++ [quoteChar])) rest
      else (literals .outside rest).map (⟨acc⟩ :: ·)

/-- A text without a quote. -/
def NoQuote (s : String) : Prop := quoteChar ∉ s.data

instance (s : String) : Decidable (NoQuote s) := inferInstanceAs (Decidable (quoteChar ∉ s.data))

@[simp] theorem noQuote_append (s t : String) : NoQuote (s ++ t) ↔ NoQuote s ∧ NoQuote t := by
  simp [NoQuote, String.data_append, not_or]

theorem noQuote_toString_nat (n : Nat) : NoQuote (toString n) :=
  fun mem => numeral_ne_quote (mem_toString_nat mem) rfl

theorem noQuote_toString_int (n : Int) : NoQuote (toString n) :=
  fun mem => numeral_ne_quote (mem_toString_int mem) rfl

theorem append_ne_empty (s : String) {t : String} (nonempty : t ≠ "") : s ++ t ≠ "" := by
  intro empty
  have data := congrArg String.data empty
  simp only [String.data_append, List.append_eq_nil] at data
  exact nonempty (String.ext data.2)

/-- A cell name `<relname><kind><sec><usec>` has a quote only if `relname` has. -/
theorem noQuote_cellName {relname : String} (plain : NoQuote relname) {kind : String}
    (kindPlain : NoQuote kind) (ts : Timeval) : NoQuote (relname ++ kind ++ ts.suffix) := by
  simp only [noQuote_append, Timeval.suffix]
  exact ⟨⟨plain, kindPlain⟩, noQuote_toString_int _, noQuote_toString_nat _⟩

section Lexing

variable {rest : List Char}

/-- Outside a literal, text without a quote is skipped. -/
theorem literals_outside_append {t : List Char} (plain : quoteChar ∉ t) :
    literals .outside (t ++ rest) = literals .outside rest := by
  induction t with
  | nil => rfl
  | cons c t ih =>
      have ne : c ≠ quoteChar := fun same => plain (same ▸ List.mem_cons_self c t)
      simp only [List.cons_append, literals, if_neg ne]
      exact ih (fun mem => plain (List.mem_cons_of_mem c mem))

/-- Inside a literal, text without a quote is taken in. -/
theorem literals_inside_append {t : List Char} (acc : List Char) (plain : quoteChar ∉ t) :
    literals (.inside acc) (t ++ rest) = literals (.inside (acc ++ t)) rest := by
  induction t generalizing acc with
  | nil => simp
  | cons c t ih =>
      have ne : c ≠ quoteChar := fun same => plain (same ▸ List.mem_cons_self c t)
      simp only [List.cons_append, literals, if_neg ne, List.append_eq]
      rw [ih _ (fun mem => plain (List.mem_cons_of_mem c mem)), List.append_assoc]
      rfl

/-- After a quote, anything but a second quote ends the literal. -/
theorem literals_closing (acc : List Char) (next : rest.head? ≠ some quoteChar) :
    literals (.closing acc) rest = (literals .outside rest).map (⟨acc⟩ :: ·) := by
  cases rest with
  | nil => rfl
  | cons c rest =>
      have ne : c ≠ quoteChar := fun same => next (by rw [same]; rfl)
      simp [literals, if_neg ne]

end Lexing

/-- A piece of a formatted statement. -/
inductive Piece
  /-- text of the format string, or a value printed outside quotes -/
  | text (s : String)
  /-- a value printed between quotes, `'%s'` -/
  | quoted (v : String)
deriving DecidableEq

def Piece.render : Piece → String
  | .text s => s
  | .quoted v => "'" ++ v ++ "'"

/-- The statement that pieces print. -/
def render : List Piece → String
  | [] => ""
  | p :: ps => p.render ++ render ps

/-- The values the pieces quote, in order. -/
def quotedValues : List Piece → List String
  | [] => []
  | .text _ :: ps => quotedValues ps
  | .quoted v :: ps => v :: quotedValues ps

def Piece.NoQuote : Piece → Prop
  | .text s => Recathon.NoQuote s
  | .quoted v => Recathon.NoQuote v

/-- Whether `q` may follow `p` without the engine joining or splitting literals: after a
quoted value comes nonempty text. -/
def Piece.Precedes : Piece → Piece → Prop
  | .quoted _, .text s => s ≠ ""
  | .quoted _, .quoted _ => False
  | .text _, _ => True

/-- Pieces the engine reads back as printed. -/
structure Readable (ps : List Piece) : Prop where
  no_quote : ∀ p ∈ ps, p.NoQuote
  separated : ps.Chain' Piece.Precedes

theorem Readable.tail {p : Piece} {ps : List Piece} (readable : Readable (p :: ps)) :
    Readable ps :=
  ⟨fun q mem => readable.no_quote q (List.mem_cons_of_mem p mem), readable.separated.tail⟩

/-- A readable statement never continues a literal that a quoted value closed. -/
theorem Readable.head_ne_quote {v : String} {ps : List Piece}
    (readable : Readable (.quoted v :: ps)) : (render ps).data.head? ≠ some quoteChar := by
  cases ps with
  | nil => simp [render]
  | cons q ps =>
      have precedes : Piece.Precedes (.quoted v) q := readable.separated.rel_head
      cases q with
      | quoted _ => exact precedes.elim
      | text s =>
          have plain : quoteChar ∉ s.data := readable.no_quote (.text s) (by simp)
          obtain ⟨_ | ⟨c, cs⟩⟩ := s
          · exact absurd rfl precedes
          · intro head
            simp only [render, Piece.render, String.data_append, List.cons_append,
              List.head?_cons, Option.some.injEq] at head
            exact plain (head ▸ List.mem_cons_self c cs)

/-- Pieces that start, if at all, with nonempty text: anything may come before them. -/
def StartsWithText (ps : List Piece) : Prop := ∀ p ∈ ps.head?, ∃ s, p = .text s ∧ s ≠ ""

theorem startsWithText_text {s : String} (nonempty : s ≠ "") (ps : List Piece) :
    StartsWithText (.text s :: ps) := by
  simpa [StartsWithText] using nonempty

theorem Readable.text {s : String} (plain : NoQuote s) : Readable [.text s] :=
  ⟨by simpa [Piece.NoQuote] using plain, List.chain'_singleton _⟩

theorem Readable.append {l₁ l₂ : List Piece} (first : Readable l₁) (second : Readable l₂)
    (starts : StartsWithText l₂) : Readable (l₁ ++ l₂) where
  no_quote p mem := (List.mem_append.1 mem).elim (first.no_quote p) (second.no_quote p)
  separated := List.chain'_append.2 ⟨first.separated, second.separated, fun x _ y head => by
    obtain ⟨s, rfl, nonempty⟩ := starts y head
    cases x with
    | text _ => trivial
    | quoted _ => exact nonempty⟩

/-- `sep` then `'v'` for each value `v`: how the code prints a run of quoted values. -/
def fields (sep : String) (vs : List String) : List Piece :=
  vs.flatMap fun v => [.text sep, .quoted v]

section Fields

variable {sep : String}

theorem startsWithText_fields (nonempty : sep ≠ "") (v : String) (vs : List String) :
    StartsWithText (fields sep (v :: vs)) := by
  simpa [fields, StartsWithText] using nonempty

theorem startsWithText_fields_append (nonempty : sep ≠ "") (vs : List String) {ps : List Piece}
    (starts : StartsWithText ps) : StartsWithText (fields sep vs ++ ps) := by
  cases vs with
  | nil => simpa [fields] using starts
  | cons v vs => simpa [fields, StartsWithText] using nonempty

theorem Readable.fields (plain : NoQuote sep) (nonempty : sep ≠ "") {vs : List String}
    (values : ∀ v ∈ vs, NoQuote v) : Readable (fields sep vs) := by
  induction vs with
  | nil => exact ⟨by simp [Recathon.fields], List.chain'_nil⟩
  | cons v vs ih =>
      have block : Readable [.text sep, .quoted v] :=
        ⟨by simpa [Piece.NoQuote] using ⟨plain, values v (List.mem_cons_self v vs)⟩,
          List.chain'_pair.2 trivial⟩
      have rest := ih fun w mem => values w (List.mem_cons_of_mem v mem)
      cases vs with
      | nil => simpa [Recathon.fields] using block
      | cons w ws => exact block.append rest (startsWithText_fields nonempty w ws)

end Fields

theorem quotedValues_append (l₁ l₂ : List Piece) :
    quotedValues (l₁ ++ l₂) = quotedValues l₁ ++ quotedValues l₂ := by
  induction l₁ with
  | nil => rfl
  | cons p l₁ ih => cases p <;> simp [quotedValues, ih]

@[simp] theorem quotedValues_fields (sep : String) (vs : List String) :
    quotedValues (fields sep vs) = vs := by
  induction vs with
  | nil => rfl
  | cons v vs ih => simp [fields, quotedValues] at ih ⊢; exact ih

/-- The round trip: the engine reads back exactly the quoted values. -/
theorem literals_render {ps : List Piece} (readable : Readable ps) :
    literals .outside (render ps).data = some (quotedValues ps) := by
  induction ps with
  | nil => rfl
  | cons p ps ih =>
      cases p with
      | text s =>
          simp only [render, Piece.render, String.data_append, quotedValues]
          rw [literals_outside_append (readable.no_quote (.text s) (List.mem_cons_self _ _)),
            ih readable.tail]
      | quoted v =>
          have plain : quoteChar ∉ v.data := readable.no_quote (.quoted v) (List.mem_cons_self _ _)
          have opened : ("'" ++ v ++ "'").data = quoteChar :: (v.data ++ [quoteChar]) := rfl
          simp only [render, Piece.render, String.data_append, quotedValues, opened,
            List.cons_append, List.append_assoc, List.singleton_append]
          rw [literals, if_pos rfl, literals_inside_append [] plain, literals, if_pos rfl]
          simp only [List.nil_append]
          rw [literals_closing _ readable.head_ne_quote, ih readable.tail]
          rfl

end Recathon
