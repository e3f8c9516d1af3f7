import Portcullis.Policy.Statement
import Portcullis.Proofs.Text.Trimming

/-! Text that every scanner passes in one piece.

Four scanners walk over policy text and each keeps its own account of literals and
brackets: one cuts comments, one looks for the end of a scope, one splits at commas and
one reads the value of a literal. `Spells` says what may stand between two quotes and
which text it means; `Sealed` says that literals, lists and parentheses of a text are
closed in it. Over such text the scanners agree: each comes out of it where it went in,
having taken all of it and reacted to nothing. -/
namespace Portcullis.Policy
open Text

/-! ### Literals -/

/-- The text between two quotes spells a value: a quote and a backslash stand after a
backslash, every other character may stand for itself. -/
inductive Spells : List Char → List Char → Prop where
  | nil : Spells [] []
  | plain {c value body} : c ≠ '"' → c ≠ '\\' → Spells value body →
      Spells (c :: value) (c :: body)
  | escaped {c value body} : Spells value body → Spells (unescaped c :: value) ('\\' :: c :: body)

theorem literalBody?_of_spells {value body : List Char} (h : Spells value body)
    (rest : List Char) : literalBody? (body ++ '"' :: rest) = some (value, rest) := by
  induction h with
  | nil => rfl
  | @plain c value body hq hb _ ih =>
    rw [List.cons_append, literalBody?, ih]
    · rfl
    · exact hq
    · intro d tail hc
      exact absurd hc hb
    · intro hc
      exact absurd hc hb
  | escaped _ ih =>
    rw [List.cons_append, List.cons_append, literalBody?, ih]
    rfl

/-- What a scope scan finds, with text before it. -/
def ScopeScan.behind (text : List Char) (scan : ScopeScan) : ScopeScan :=
  text.foldr ScopeScan.cons scan

/-- Put a text in front of the first piece. -/
def inFront (text : List Char) (others : List (List Char)) : List (List Char) :=
  text.foldr consFirst others

@[simp] theorem behind_nil (scan : ScopeScan) : scan.behind [] = scan := rfl

@[simp] theorem behind_cons (c : Char) (text : List Char) (scan : ScopeScan) :
    scan.behind (c :: text) = (scan.behind text).cons c := rfl

theorem behind_append (a b : List Char) (scan : ScopeScan) :
    scan.behind (a ++ b) = (scan.behind b).behind a :=
  List.foldr_append

theorem behind_closed (text body rest : List Char) :
    (ScopeScan.closed body rest).behind text = .closed (text ++ body) rest := by
  induction text with
  | nil => rfl
  | cons c text ih => rw [behind_cons, ih]; rfl

@[simp] theorem inFront_nil (others : List (List Char)) : inFront [] others = others := rfl

@[simp] theorem inFront_cons (c : Char) (text : List Char) (others : List (List Char)) :
    inFront (c :: text) others = consFirst c (inFront text others) := rfl

theorem inFront_append (a b : List Char) (others : List (List Char)) :
    inFront (a ++ b) others = inFront a (inFront b others) :=
  List.foldr_append

theorem inFront_piece (text piece : List Char) (others : List (List Char)) :
    inFront text (piece :: others) = (text ++ piece) :: others := by
  induction text with
  | nil => rfl
  | cons c text ih => rw [inFront_cons, ih]; rfl

/-- Inside a literal, comments are not looked for. -/
theorem withoutCommentFrom_literal {value body : List Char} (h : Spells value body)
    (rest : List Char) :
    withoutCommentFrom .inside (body ++ '"' :: rest) =
      body ++ '"' :: withoutCommentFrom .outside rest := by
  induction h with
  | nil => simp [withoutCommentFrom]
  | plain hq hb _ ih => simp [withoutCommentFrom, hq, hb, ih]
  | escaped _ ih => simp [withoutCommentFrom, ih]

/-- Inside a literal, nothing opens or closes. -/
theorem scanScope_literal {value body : List Char} (h : Spells value body)
    (brackets parens : Nat) (rest : List Char) :
    scanScope ⟨.inside, brackets, parens⟩ (body ++ '"' :: rest) =
      (scanScope ⟨.outside, brackets, parens⟩ rest).behind (body ++ ['"']) := by
  induction h with
  | nil => simp [scanScope]
  | plain hq hb _ ih => simp [scanScope, hq, hb, ih]
  | escaped _ ih => simp [scanScope, ih]

/-- Inside a literal, commas part nothing. -/
theorem splitFrom_literal {value body : List Char} (h : Spells value body) (depth : Nat)
    (rest : List Char) :
    splitFrom .inside depth (body ++ '"' :: rest) =
      inFront (body ++ ['"']) (splitFrom .outside depth rest) := by
  induction h with
  | nil => simp [splitFrom]
  | plain hq hb _ ih => simp [splitFrom, hq, hb, ih]
  | escaped _ ih => simp [splitFrom, ih]

/-! ### Sealed text -/

/-- The characters that mean something to a scanner outside literals. -/
def marks : List Char := ['"', '/', ',', '[', ']', '(', ')']

/-- A character that no scanner reacts to outside literals. -/
def IsPlain (c : Char) : Prop := c ∉ marks

instance (c : Char) : Decidable (IsPlain c) := inferInstanceAs (Decidable (c ∉ marks))

/-- Literals, lists and parentheses are closed, and there is no comment. Commas stand in
lists and parentheses only, or everywhere if the text itself is `grouped`. -/
inductive Sealed : Bool → List Char → Prop where
  | nil {grouped} : Sealed grouped []
  | plain {grouped c rest} : IsPlain c → Sealed grouped rest → Sealed grouped (c :: rest)
  | comma {rest} : Sealed true rest → Sealed true (',' :: rest)
  | literal {grouped value body rest} : Spells value body → Sealed grouped rest →
      Sealed grouped ('"' :: (body ++ '"' :: rest))
  | list {grouped inner rest} : Sealed true inner → Sealed grouped rest →
      Sealed grouped ('[' :: (inner ++ ']' :: rest))
  | parens {grouped inner rest} : Sealed true inner → Sealed grouped rest →
      Sealed grouped ('(' :: (inner ++ ')' :: rest))

namespace Sealed

theorem append {grouped : Bool} {a b : List Char} (ha : Sealed grouped a) (hb : Sealed grouped b) :
    Sealed grouped (a ++ b) := by
  induction ha with
  | nil => exact hb
  | plain hc _ ih => exact .plain hc (ih hb)
  | comma _ ih => exact .comma (ih hb)
  | literal hs _ ih => simpa using literal hs (ih hb)
  | list hi _ _ ih => simpa using list hi (ih hb)
  | parens hi _ _ ih => simpa using parens hi (ih hb)

theorem of_plain {grouped : Bool} {text : List Char} (h : ∀ c ∈ text, IsPlain c) :
    Sealed grouped text := by
  induction text with
  | nil => exact .nil
  | cons c rest ih =>
    exact .plain (h c (List.mem_cons_self ..)) (ih fun d hd => h d (List.mem_cons_of_mem _ hd))

/-- What is sealed on its own is sealed in a group. -/
theorem weaken {grouped : Bool} {text : List Char} (h : Sealed grouped text) :
    Sealed true text := by
  induction h with
  | nil => exact .nil
  | plain hc _ ih => exact .plain hc ih
  | comma _ ih => exact .comma ih
  | literal hs _ ih => exact .literal hs ih
  | list hi _ _ ih => exact .list hi ih
  | parens hi _ _ ih => exact .parens hi ih

end Sealed

/-! ### The scanners on sealed text -/

theorem IsPlain.ne {c d : Char} (h : IsPlain c) (hd : d ∈ marks) : c ≠ d := by
  rintro rfl
  exact h hd

theorem Nesting.after_plain {c : Char} (h : IsPlain c) (n : Nesting) : n.after c = n := by
  have hne : ∀ d ∈ marks, c ≠ d := fun d => h.ne
  simp [Nesting.after, hne '"' (by decide), hne '[' (by decide), hne ']' (by decide),
    hne '(' (by decide), hne ')' (by decide)]

theorem depthAfter_plain {c : Char} (h : IsPlain c) (depth : Nat) : depthAfter depth c = depth := by
  have hne : ∀ d ∈ marks, c ≠ d := fun d => h.ne
  simp [depthAfter, hne '[' (by decide), hne ']' (by decide), hne '(' (by decide),
    hne ')' (by decide)]

/-- **No comment starts in sealed text.** -/
theorem withoutCommentFrom_sealed {grouped : Bool} {text : List Char} (h : Sealed grouped text)
    (rest : List Char) :
    withoutCommentFrom .outside (text ++ rest) = text ++ withoutCommentFrom .outside rest := by
  induction h generalizing rest with
  | nil => rfl
  | plain hc _ ih =>
    simp [withoutCommentFrom, hc.ne (d := '/') (by decide), hc.ne (d := '"') (by decide), ih]
  | comma _ ih => simp [withoutCommentFrom, ih]
  | literal hs _ ih => simp [withoutCommentFrom, withoutCommentFrom_literal hs, ih]
  | list _ _ ihi ih => simp [withoutCommentFrom, ihi, ih]
  | parens _ _ ihi ih => simp [withoutCommentFrom, ihi, ih]

/-- **No scope ends in sealed text**, and nothing is left open by it. -/
theorem scanScope_sealed {grouped : Bool} {text : List Char} (h : Sealed grouped text)
    (brackets parens : Nat) (rest : List Char) :
    scanScope ⟨.outside, brackets, parens⟩ (text ++ rest) =
      (scanScope ⟨.outside, brackets, parens⟩ rest).behind text := by
  induction h generalizing brackets parens rest with
  | nil => rfl
  | plain hc _ ih =>
    simp [scanScope, hc.ne (d := ')') (by decide), Nesting.after_plain hc, ih]
  | comma _ ih => simp [scanScope, Nesting.after, ih]
  | literal hs _ ih => simp [scanScope, Nesting.after, scanScope_literal hs, ih, behind_append]
  | list _ _ ihi ih => simp [scanScope, Nesting.after, ihi, ih, behind_append]
  | parens _ _ ihi ih => simp [scanScope, Nesting.after, ihi, ih, behind_append]

/-- **No comma of sealed text parts it**, outside any group or inside one. -/
theorem splitFrom_sealed {grouped : Bool} {text : List Char} (h : Sealed grouped text)
    {depth : Nat} (hd : grouped = true → 0 < depth) (rest : List Char) :
    splitFrom .outside depth (text ++ rest) = inFront text (splitFrom .outside depth rest) := by
  induction h generalizing depth rest with
  | nil => rfl
  | plain hc _ ih =>
    simp [splitFrom, hc.ne (d := ',') (by decide), hc.ne (d := '"') (by decide),
      depthAfter_plain hc, ih hd]
  | comma _ ih =>
    have hne : depth ≠ 0 := Nat.ne_of_gt (hd rfl)
    simp [splitFrom, depthAfter, hne, ih hd]
  | literal hs _ ih =>
    simp [splitFrom, depthAfter, splitFrom_literal hs, ih hd, inFront_append]
  | list _ _ ihi ih =>
    simp [splitFrom, depthAfter, ihi fun _ => Nat.succ_pos depth, ih hd, inFront_append]
  | parens _ _ ihi ih =>
    simp [splitFrom, depthAfter, ihi fun _ => Nat.succ_pos depth, ih hd, inFront_append]

/-- Sealed text is a line without a comment. -/
theorem withoutComment_sealed {grouped : Bool} {text : List Char} (h : Sealed grouped text) :
    withoutComment text = text := by
  have := withoutCommentFrom_sealed h []
  rw [List.append_nil] at this
  rw [withoutComment, this, withoutCommentFrom, List.append_nil]

/-- The parenthesis behind sealed text ends the scope. -/
theorem scanScope_end {text : List Char} (h : Sealed true text) (rest : List Char) :
    scanScope .none (text ++ ')' :: rest) = .closed text rest := by
  rw [Nesting.none, scanScope_sealed h, scanScope]
  simp [behind_closed]

theorem splitFrom_end {text : List Char} (h : Sealed false text) :
    splitFrom .outside 0 text = [text] := by
  have := @splitFrom_sealed false text h 0 (by simp) []
  rw [List.append_nil] at this
  rw [this, splitFrom, inFront_piece, List.append_nil]

/-- A comma behind sealed text parts it from the rest. -/
theorem splitFrom_comma {text : List Char} (h : Sealed false text) (rest : List Char) :
    splitFrom .outside 0 (text ++ ',' :: rest) = text :: splitFrom .outside 0 rest := by
  rw [splitFrom_sealed h (by simp), splitFrom, if_pos (by simp), inFront_piece, List.append_nil]

end Portcullis.Policy
