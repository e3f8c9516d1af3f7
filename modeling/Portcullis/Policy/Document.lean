import Portcullis.Policy.Statement
import Portcullis.Text.Lines
/-! Policy documents, read line by line.

A reader is outside a statement, in its scope or in its trailer. Reading never
fails: a statement that cannot be understood is discarded and reported, and the
rest of the document still takes effect. Two things at the start of a line bring a
reader back that has lost its way: an opener abandons the statement before it, and
a line `);` ends a statement whose scope is out of balance.

`passages` are what a reader passes on its way: statements that open, statements that
end, and text outside statements. `findings` are the same with every rule named; a
report sorts them into rules and discarded statements. -/
namespace Portcullis.Policy
open Text

/-- Where a reader stands. -/
inductive Phase where
  | outside
  /-- In the scope of a statement: the body so far and what is open in it. `broken`
  says that a line ended inside a literal. -/
  | scope (opening : Opening) (body : List Char) (nesting : Nesting) (broken : Bool)
  /-- Behind the scope: the text so far on the way to the semicolon. -/
  | trailer (opening : Opening) (body : List Char) (broken : Bool) (text : List Char)
  deriving DecidableEq, Repr

/-- The statement that is open, if one is. -/
def Phase.opening? : Phase → Option Opening
  | .outside => none
  | .scope o .. => some o
  | .trailer o .. => some o

/-- The scope of a statement is open, with something left open in it. -/
def Phase.isUnbalanced : Phase → Bool
  | .scope _ _ nesting broken => broken || nesting ≠ .none
  | _ => false

structure Reader where
  phase : Phase
  /-- The name an annotation keeps ready for the next statement. -/
  pending : Option String
  deriving DecidableEq, Repr

def Reader.start : Reader := ⟨.outside, none⟩

/-- What a reader passes. -/
inductive Passage where
  | opened (opening : Opening)
  | ended (reading : Reading)
  /-- Text on a line that belongs to no statement. -/
  | stray (line : UInt64)
  deriving DecidableEq, Repr

/-- Discard the open statement, if there is one. -/
def Reader.abandon (r : Reader) (reason : DiscardReason) : Reader × List Passage :=
  match r.phase.opening? with
  | none => (r, [])
  | some o => ({r with phase := .outside}, [.ended (.discarded ⟨o.line, reason⟩)])

/-- A text parted at its first semicolon. -/
def atSemicolon? : List Char → Option (List Char × List Char)
  | [] => none
  | c :: rest =>
    if c = ';' then some ([], rest)
    else (atSemicolon? rest).map fun (before, after) => (c :: before, after)

theorem atSemicolon?_length {text before after : List Char}
    (h : atSemicolon? text = some (before, after)) : after.length < text.length := by
  induction text generalizing before with
  | nil => simp [atSemicolon?] at h
  | cons c rest ih =>
    simp only [atSemicolon?] at h
    split at h
    · cases h; simp
    · obtain ⟨⟨b, a⟩, hba, heq⟩ := Option.map_eq_some_iff.mp h
      cases heq
      simpa using Nat.lt_succ_of_lt (ih hba)

/-- Follow the statements of a line from where the reader stands. -/
def Reader.follow (r : Reader) (line : UInt64) (text : List Char) : Reader × List Passage :=
  match r.phase with
  | .outside =>
    match _h : opener? (trimStart text) with
    | some (effect, rest) =>
      let opening := ⟨effect, line, r.pending⟩
      let (last, passages) := Reader.follow ⟨.scope opening [] .none false, none⟩ line rest
      (last, .opened opening :: passages)
    | none =>
      match annotation? (trimStart text) with
      | some name => ({r with pending := some (String.ofList name)}, [])
      | none => (r, if allBlank text then [] else [.stray line])
  | .scope opening body nesting broken =>
    match _h : scanScope nesting text with
    | .closed more rest =>
      Reader.follow {r with phase := .trailer opening (body ++ more) broken []} line rest
    | .running more left =>
      let nesting := {left with quoting := .outside}
      let broken := broken || left.quoting ≠ .outside
      ({r with phase := .scope opening (body ++ more ++ ['\n']) nesting broken}, [])
  | .trailer opening body broken sofar =>
    match _h : atSemicolon? text with
    | some (before, rest) =>
      let (last, passages) := Reader.follow {r with phase := .outside} line rest
      (last, .ended (opening.close body broken (sofar ++ before)) :: passages)
    | none => ({r with phase := .trailer opening body broken (sofar ++ text ++ ['\n'])}, [])
termination_by text.length
decreasing_by
  · have := opener?_length ‹_›
    have := trimStart_length_le text
    omega
  · exact scanScope_closed_length ‹_›
  · exact atSemicolon?_length ‹_›

/-- Read one line. -/
def Reader.readLine (r : Reader) (line : UInt64) (raw : List Char) : Reader × List Passage :=
  let text := withoutComment raw
  if allBlank text then (r, [])
  else if (opener? (trimStart text)).isSome then
    let (fresh, abandoned) := r.abandon .unterminated
    let (last, passages) := fresh.follow line text
    (last, abandoned ++ passages)
  else if trim text = [')', ';'] ∧ r.phase.isUnbalanced then r.abandon .unbalanced
  else r.follow line text

/-- Read lines, the first of which has the given number, to the end of the document. -/
def Reader.readLines (r : Reader) (line : UInt64) : List (List Char) → List Passage
  | [] => (r.abandon .unterminated).2
  | text :: rest =>
    let (next, passages) := r.readLine line text
    passages ++ next.readLines (line + 1) rest

/-- What a reader passes in a document. -/
def passages (document : String) : List Passage :=
  Reader.start.readLines 1 (lines document.toList)

/-! ### Reports -/

/-- What there is to tell of a document, with every rule named. -/
inductive Finding where
  | opened (effect : Effect) (line : UInt64)
  | rule (r : Rule)
  | discarded (block : Discarded)
  | stray (line : UInt64)
  deriving DecidableEq, Repr

/-- The name of a rule that no annotation names: its place among the rules. -/
def placeName (place : Nat) : String := "policy" ++ toString place

/-- Name the rules of a document of which `place` rules came before. -/
def nameRules (place : Nat) : List Passage → List Finding
  | [] => []
  | .opened opening :: rest => .opened opening.effect opening.line :: nameRules place rest
  | .ended (.accepted opening principal action) :: rest =>
    .rule ⟨opening.id.getD (placeName place), opening.effect, principal, action, opening.line⟩ ::
      nameRules (place + 1) rest
  | .ended (.discarded block) :: rest => .discarded block :: nameRules place rest
  | .stray line :: rest => .stray line :: nameRules place rest

/-- What there is to tell of a document, in document order. -/
def findings (document : String) : List Finding := nameRules 0 (passages document)

def Finding.rule? : Finding → Option Rule
  | .rule r => some r
  | _ => none

def Finding.discarded? : Finding → Option Discarded
  | .discarded block => some block
  | _ => none

/-- All that reading a document produced. -/
structure Report where
  rules : List Rule
  discarded : List Discarded
  deriving DecidableEq, Repr

def Report.ofFindings (fs : List Finding) : Report :=
  ⟨fs.filterMap Finding.rule?, fs.filterMap Finding.discarded?⟩

/-- Read a policy document. -/
def report (document : String) : Report := .ofFindings (findings document)

/-- The rules of a policy document, in document order. -/
def rules (document : String) : List Rule := (report document).rules

/-- Whether a text opens a statement anywhere. -/
def opensStatement (text : String) : Bool := containsOpener text.toList

end Portcullis.Policy
