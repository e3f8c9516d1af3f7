import Portcullis.Policy.Clause
/-! Statements: from the opening parenthesis to the semicolon.

The scope of a statement runs to the parenthesis that closes it, its trailer from
there to the semicolon. A statement that is read to its end is accepted as a draft
of a rule or discarded with a reason. -/
namespace Portcullis.Policy
open Text

/-! ### The scope -/

/-- What is open inside a scope: a literal, lists, parentheses. -/
structure Nesting where
  quoting : Quoting
  brackets : Nat
  parens : Nat
  deriving DecidableEq, Repr

/-- Nothing is open. -/
def Nesting.none : Nesting := ⟨.outside, 0, 0⟩

/-- What is open after a character outside literals. A closing parenthesis closes a
nested one if there is one; inside a list it may also stand alone. -/
def Nesting.after (n : Nesting) (c : Char) : Nesting :=
  if c = '"' then {n with quoting := .inside}
  else if c = '[' then {n with brackets := n.brackets + 1}
  else if c = ']' then {n with brackets := n.brackets - 1}
  else if c = '(' then {n with parens := n.parens + 1}
  else if c = ')' then {n with parens := n.parens - 1}
  else n

/-- How far a piece of text takes a scope. -/
inductive ScopeScan where
  /-- The scope ends: its last characters, and what follows its parenthesis. -/
  | closed (body rest : List Char)
  /-- The scope goes on: the whole text belongs to it, and this is open. -/
  | running (body : List Char) (nesting : Nesting)
  deriving DecidableEq, Repr

def ScopeScan.cons (c : Char) : ScopeScan → ScopeScan
  | .closed body rest => .closed (c :: body) rest
  | .running body nesting => .running (c :: body) nesting

/-- Read text as part of a scope in which `nesting` is open. -/
def scanScope (nesting : Nesting) : List Char → ScopeScan
  | [] => .running [] nesting
  | c :: rest =>
    match nesting.quoting with
    | .escaped => (scanScope {nesting with quoting := .inside} rest).cons c
    | .inside =>
      let quoting := if c = '\\' then .escaped else if c = '"' then .outside else .inside
      (scanScope {nesting with quoting := quoting} rest).cons c
    | .outside =>
      if c = ')' ∧ nesting.brackets = 0 ∧ nesting.parens = 0 then .closed [] rest
      else (scanScope (nesting.after c) rest).cons c

theorem scanScope_closed {nesting : Nesting} {text body rest : List Char}
    (h : scanScope nesting text = .closed body rest) : text = body ++ ')' :: rest := by
  induction text generalizing nesting body with
  | nil => simp [scanScope] at h
  | cons c text ih =>
    have step : ∀ {n : Nesting}, (scanScope n text).cons c = .closed body rest →
        c :: text = body ++ ')' :: rest := by
      intro n hn
      cases hs : scanScope n text with
      | closed b r =>
        rw [hs] at hn
        simp only [ScopeScan.cons, ScopeScan.closed.injEq] at hn
        obtain ⟨rfl, rfl⟩ := hn
        rw [ih hs]
        rfl
      | running b m => rw [hs] at hn; simp [ScopeScan.cons] at hn
    simp only [scanScope] at h
    split at h
    · exact step h
    · exact step h
    · split at h
      · rename_i hc
        simp only [ScopeScan.closed.injEq] at h
        obtain ⟨rfl, rfl⟩ := h
        simp [hc.1]
      · exact step h

theorem scanScope_closed_length {nesting : Nesting} {text body rest : List Char}
    (h : scanScope nesting text = .closed body rest) : rest.length < text.length := by
  rw [scanScope_closed h]
  simp
  omega

/-! ### Reading a whole statement -/

/-- Why a statement is discarded. -/
inductive DiscardReason where
  /-- The closing parenthesis and semicolon never came. -/
  | unterminated
  /-- A literal, list or parenthesis was left open. -/
  | unbalanced
  /-- There is neither a principal nor an action clause. -/
  | noConstraints
  | malformedClause (clause : String)
  /-- There is text between the closing parenthesis and the semicolon. -/
  | unsupportedConditions (text : String)
  deriving DecidableEq, Repr

def DiscardReason.message : DiscardReason → String
  | .unterminated => "statement is missing its closing ');'"
  | .unbalanced => "statement leaves a string literal, list, or parenthesis open"
  | .noConstraints => "statement has no recognizable principal or action clause"
  | .malformedClause clause => "unrecognized clause '" ++ clause ++ "'"
  | .unsupportedConditions text => "conditions are not supported: '" ++ text ++ "'"

/-- A statement that was dropped. -/
structure Discarded where
  /-- The line on which it opened, counted from one. -/
  line : UInt64
  reason : DiscardReason
  deriving DecidableEq, Repr

/-- What is known of a statement once it has opened. -/
structure Opening where
  effect : Effect
  line : UInt64
  /-- The name an annotation gave it. -/
  id : Option String
  deriving DecidableEq, Repr

/-- The constraints read so far; a later clause of a kind replaces an earlier one. -/
structure Constraints where
  principal : Option PrincipalConstraint
  action : Option ActionConstraint
  deriving DecidableEq, Repr

def Constraints.none : Constraints := ⟨Option.none, Option.none⟩

def Constraints.add (c : Constraints) : Clause → Constraints
  | .principal p => {c with principal := some p}
  | .action a => {c with action := some a}
  | .resource => c

/-- The constraints that clauses spell, or the first piece that is no clause. -/
def Constraints.read (c : Constraints) : List (List Char) → Except (List Char) Constraints
  | [] => .ok c
  | piece :: rest =>
    match clause? piece with
    | some clause => (c.add clause).read rest
    | Option.none => .error piece

/-- How a statement was read. A draft has no name yet unless an annotation gave one. -/
inductive Reading where
  | accepted (opening : Opening) (principal : PrincipalConstraint) (action : ActionConstraint)
  | discarded (block : Discarded)
  deriving DecidableEq, Repr

/-- Read the body and the trailer of a delimited statement. `broken` says that a line
ended inside a literal. -/
def Opening.close (o : Opening) (body : List Char) (broken : Bool) (trailer : List Char) :
    Reading :=
  if broken then .discarded ⟨o.line, .unbalanced⟩
  else
    match trim trailer with
    | c :: conditions =>
      .discarded ⟨o.line, .unsupportedConditions (String.ofList (c :: conditions))⟩
    | [] =>
      match Constraints.none.read (pieces body) with
      | .error clause => .discarded ⟨o.line, .malformedClause (String.ofList clause)⟩
      | .ok ⟨none, none⟩ => .discarded ⟨o.line, .noConstraints⟩
      | .ok ⟨principal, action⟩ =>
        .accepted o (principal.getD .unconstrained) (action.getD .unconstrained)

end Portcullis.Policy
