import Portcullis.Policy.Rule
import Portcullis.Text.Blank
/-! The lexical layer of policy text.

String literals stand between double quotes, and a backslash in one keeps the
next character from ending it. Each reader below knows about literals for its own
purpose: comments are cut outside them, commas split outside them, and the value
of a literal is read with its escapes resolved. -/
namespace Portcullis.Policy
open Text

/-- Where a scan stands with respect to string literals. -/
inductive Quoting where
  | outside
  | inside
  /-- Inside, directly after a backslash. -/
  | escaped
  deriving DecidableEq, Repr

/-! ### Comments -/

/-- Text up to a `//` outside string literals, for a scan that stands at `quoting`. -/
def withoutCommentFrom : Quoting → List Char → List Char
  | _, [] => []
  | .escaped, c :: rest => c :: withoutCommentFrom .inside rest
  | .inside, c :: rest =>
    c :: withoutCommentFrom
      (if c = '\\' then .escaped else if c = '"' then .outside else .inside) rest
  | .outside, '/' :: '/' :: _ => []
  | .outside, c :: rest =>
    c :: withoutCommentFrom (if c = '"' then .inside else .outside) rest

/-- A line without its comment. -/
def withoutComment (line : List Char) : List Char := withoutCommentFrom .outside line

/-! ### Literals -/

/-- The character that a backslash and `c` stand for. -/
def unescaped (c : Char) : Char :=
  if c = 'n' then '\n' else if c = 't' then '\t' else c

/-- The rest of a literal's value and what follows its closing quote. -/
def literalBody? : List Char → Option (List Char × List Char)
  | [] => none
  | '"' :: rest => some ([], rest)
  | '\\' :: c :: rest => (literalBody? rest).map fun (value, after) => (unescaped c :: value, after)
  | ['\\'] => none
  | c :: rest => (literalBody? rest).map fun (value, after) => (c :: value, after)

/-- The value of the literal that a text starts with, and what follows it. -/
def literal? : List Char → Option (List Char × List Char)
  | '"' :: rest => literalBody? rest
  | _ => none

/-! ### Commas -/

/-- Nesting after a character outside literals; a closing bracket without a partner
leaves it alone. -/
def depthAfter (depth : Nat) (c : Char) : Nat :=
  if c = '[' ∨ c = '(' then depth + 1
  else if c = ']' ∨ c = ')' then depth - 1
  else depth

/-- Put a character in front of the first piece. -/
def consFirst (c : Char) : List (List Char) → List (List Char)
  | [] => [[c]]
  | piece :: others => (c :: piece) :: others

/-- The text between commas outside literals, brackets and parentheses, for a scan that
stands at `quoting` and `depth`. -/
def splitFrom : Quoting → Nat → List Char → List (List Char)
  | _, _, [] => [[]]
  | .escaped, depth, c :: rest => consFirst c (splitFrom .inside depth rest)
  | .inside, depth, c :: rest =>
    consFirst c (splitFrom
      (if c = '\\' then .escaped else if c = '"' then .outside else .inside) depth rest)
  | .outside, depth, c :: rest =>
    if c = ',' ∧ depth = 0 then [] :: splitFrom .outside 0 rest
    else consFirst c (splitFrom (if c = '"' then .inside else .outside) (depthAfter depth c) rest)

/-- The pieces between top-level commas, trimmed; empty pieces are dropped. -/
def pieces (text : List Char) : List (List Char) :=
  ((splitFrom .outside 0 text).map trim).filter fun piece => !piece.isEmpty

/-! ### Openers and annotations -/

/-- The word that opens a statement. -/
def Effect.word : Effect → List Char
  | .permit => ['p', 'e', 'r', 'm', 'i', 't']
  | .forbid => ['f', 'o', 'r', 'b', 'i', 'd']

/-- What follows the parenthesis after a word, with blanks allowed before it. -/
def argument? (word text : List Char) : Option (List Char) :=
  (after? word text).bind fun rest => after? ['('] (trimStart rest)

/-- The effect a text opens with, and what follows its parenthesis. -/
def opener? (text : List Char) : Option (Effect × List Char) :=
  match argument? Effect.permit.word text with
  | some rest => some (.permit, rest)
  | none => (argument? Effect.forbid.word text).map fun rest => (.forbid, rest)

/-- Whether a statement opens anywhere in a text, comments and literals included. -/
def containsOpener : List Char → Bool
  | [] => false
  | c :: rest => (opener? (c :: rest)).isSome || containsOpener rest

/-- The word that gives the next statement a name. -/
def idWord : List Char := ['@', 'i', 'd']

/-- The name an annotation gives. What follows its parenthesis is not looked at. -/
def annotation? (text : List Char) : Option (List Char) :=
  (argument? idWord text).bind fun arguments =>
    (literal? (trimStart arguments)).bind fun (name, rest) =>
      if (after? [')'] (trimStart rest)).isSome then some name else none

/-! ### Progress -/

theorem argument?_length {word text rest : List Char} (h : argument? word text = some rest) :
    rest.length < text.length := by
  simp only [argument?, Option.bind_eq_some_iff] at h
  obtain ⟨middle, hm, hr⟩ := h
  have h1 := after?_length hm
  have h2 := after?_length hr
  have h3 := trimStart_length_le middle
  simp at h2
  omega

theorem opener?_length {text rest : List Char} {e : Effect} (h : opener? text = some (e, rest)) :
    rest.length < text.length := by
  simp only [opener?] at h
  split at h
  · rename_i r hr
    cases h
    exact argument?_length hr
  · obtain ⟨r, hr, heq⟩ := Option.map_eq_some_iff.mp h
    cases heq
    exact argument?_length hr

end Portcullis.Policy
